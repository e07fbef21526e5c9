import Admissions.Proofs.Quota
import Admissions.Settings.Admission

namespace Admissions.AdmissionSettings

variable {α β : Type} {site : String} {value : String → α → Option β → Except String β}

/-- Whether an entry's key names the category coded `k`. -/
def names (k : String) (entry : String × α) : Bool :=
  match categoryKey entry.1 with
  | .ok c => c.code == k
  | .error _ => false

/-- The categories the keys of some entries name, in order; an unknown key names none. -/
def namedCategories (entries : List (String × α)) : List Category :=
  entries.filterMap fun entry => (categoryKey entry.1).toOption

theorem names_of_categoryKey {entry : String × α} {c : Category} (named : categoryKey entry.1 = .ok c)
    (k : String) : names k entry = (c.code == k) := by
  simp [names, named]

theorem names_eq_true {k : String} {entry : String × α} :
    names k entry = true ↔ ∃ c, categoryKey entry.1 = .ok c ∧ c.code = k := by
  unfold names
  split <;> simp_all

/-- One entry of a writing: its key names a category, whose value the entry sets from the
one the table holds; an unknown key stops the writing. -/
theorem writeKeyed_cons (entry : String × α) (entries : List (String × α)) (t : List (String × β)) :
    writeKeyed site value (entry :: entries) t =
      match categoryKey entry.1 with
      | .ok c => value entry.1 entry.2 (lookupKey t c.code) >>= fun x =>
          writeKeyed site value entries (setKey t c.code x)
      | .error e => .error (site ++ e) := by
  unfold writeKeyed
  rw [List.foldlM_cons]
  cases categoryKey entry.1 with
  | ok c => simp
  | error e => rfl

theorem writeKeyed_cons_eq_ok {entry : String × α} {entries : List (String × α)}
    {t u : List (String × β)} :
    writeKeyed site value (entry :: entries) t = .ok u ↔
      ∃ c x, categoryKey entry.1 = .ok c ∧ value entry.1 entry.2 (lookupKey t c.code) = .ok x ∧
        writeKeyed site value entries (setKey t c.code x) = .ok u := by
  rw [writeKeyed_cons]
  cases named : categoryKey entry.1 with
  | error e => simp
  | ok c => simp [Except.bind_eq_ok]

/-- A writing goes through exactly when every key names a category and every value is
accepted, provided no value is refused for what the table holds. -/
theorem writeKeyed_ok_iff
    (ignores : ∀ key v cur, (∃ x, value key v cur = .ok x) ↔ ∃ x, value key v none = .ok x)
    (entries : List (String × α)) (t : List (String × β)) :
    (∃ u, writeKeyed site value entries t = .ok u) ↔
      ∀ entry ∈ entries, (∃ c, categoryKey entry.1 = .ok c) ∧
        ∃ x, value entry.1 entry.2 none = .ok x := by
  induction entries generalizing t with
  | nil => exact ⟨fun _ => by simp, fun _ => ⟨t, rfl⟩⟩
  | cons entry entries ih =>
    rw [List.forall_mem_cons]
    constructor
    · rintro ⟨u, written⟩
      obtain ⟨c, x, named, valued, rest⟩ := writeKeyed_cons_eq_ok.mp written
      exact ⟨⟨⟨c, named⟩, (ignores _ _ _).mp ⟨x, valued⟩⟩, (ih _).mp ⟨u, rest⟩⟩
    · rintro ⟨⟨⟨c, named⟩, accepted⟩, others⟩
      obtain ⟨x, valued⟩ := (ignores _ _ (lookupKey t c.code)).mpr accepted
      obtain ⟨u, rest⟩ := (ih (setKey t c.code x)).mpr others
      exact ⟨u, writeKeyed_cons_eq_ok.mpr ⟨c, x, named, valued, rest⟩⟩

/-- A refused writing reports an unknown key after `site`, or the refusal of one of the
entries' values as it stands. -/
theorem writeKeyed_error {entries : List (String × α)} {t : List (String × β)} {msg : String}
    (refused : writeKeyed site value entries t = .error msg) :
    (∃ e, msg = site ++ e) ∨ ∃ entry ∈ entries, ∃ cur, value entry.1 entry.2 cur = .error msg := by
  induction entries generalizing t with
  | nil => cases refused
  | cons entry entries ih =>
    rw [writeKeyed_cons] at refused
    split at refused
    case h_1 c _ =>
      rcases Except.bind_eq_error.mp refused with valued | ⟨x, -, rest⟩
      · exact Or.inr ⟨entry, List.mem_cons_self, _, valued⟩
      · rcases ih rest with unknown | ⟨other, member, cur, valued⟩
        · exact Or.inl unknown
        · exact Or.inr ⟨other, List.mem_cons_of_mem _ member, cur, valued⟩
    case h_2 e _ =>
      cases refused
      exact Or.inl ⟨e, rfl⟩

/-- Each category ends with the entries naming it applied, in the order visited, to what
the table held before: the writing's effect at one key. -/
theorem writeKeyed_lookupKey {entries : List (String × α)} {t u : List (String × β)}
    (written : writeKeyed site value entries t = .ok u) (k : String) :
    (entries.filter (names k)).foldlM (fun cur entry => some <$> value entry.1 entry.2 cur)
      (lookupKey t k) = .ok (lookupKey u k) := by
  induction entries generalizing t with
  | nil =>
    cases written
    rfl
  | cons entry entries ih =>
    obtain ⟨c, x, named, valued, rest⟩ := writeKeyed_cons_eq_ok.mp written
    have later := ih rest
    by_cases atKey : c.code = k
    · -- the entry sets `k`: its value is the first step of the key's own writing
      subst atKey
      rw [lookupKey_setKey_self] at later
      simpa [List.filter_cons, names_of_categoryKey named, valued] using later
    · -- the entry sets another key and leaves `k` as it was
      rw [lookupKey_setKey_of_ne _ _ (Ne.symm atKey)] at later
      simpa [List.filter_cons, names_of_categoryKey named, atKey] using later

/-- A property every value of the table has, and every value written from a held one
that has it, holds of every value after the writing. -/
theorem writeKeyed_values {P : β → Prop}
    (kept : ∀ key v cur x, value key v cur = .ok x → (∀ y ∈ cur, P y) → P x)
    {entries : List (String × α)} {t u : List (String × β)} (start : ∀ kv ∈ t, P kv.2)
    (written : writeKeyed site value entries t = .ok u) : ∀ kv ∈ u, P kv.2 := by
  induction entries generalizing t with
  | nil =>
    cases written
    exact start
  | cons entry entries ih =>
    obtain ⟨c, x, -, valued, rest⟩ := writeKeyed_cons_eq_ok.mp written
    have held : ∀ y ∈ lookupKey t c.code, P y := fun y found =>
      start _ (mem_of_lookupKey (Option.mem_def.mp found))
    have written_x := kept _ _ _ _ valued held
    refine ih (fun kv member => ?_) rest
    rcases mem_setKey member with old | rfl
    · exact start kv old
    · exact written_x

/-- When no two entries name one category, at most one names any given category. -/
theorem length_filter_names_le_one {entries : List (String × α)}
    (distinct : (namedCategories entries).Nodup) (k : String) :
    (entries.filter (names k)).length ≤ 1 := by
  have sub : (namedCategories (entries.filter (names k))).Sublist (namedCategories entries) :=
    List.filter_sublist.filterMap _
  have nodup := distinct.sublist sub
  match split : entries.filter (names k) with
  | [] => simp
  | [_] => simp
  | e₁ :: e₂ :: rest =>
    -- both name the category coded `k`, which the distinct categories forbid
    have mem₁ : e₁ ∈ entries.filter (names k) := split ▸ List.mem_cons_self
    have mem₂ : e₂ ∈ entries.filter (names k) := split ▸ List.mem_cons_of_mem _ List.mem_cons_self
    obtain ⟨c₁, named₁, code₁⟩ := names_eq_true.mp (List.mem_filter.mp mem₁).2
    obtain ⟨c₂, named₂, code₂⟩ := names_eq_true.mp (List.mem_filter.mp mem₂).2
    have same : c₁ = c₂ := Category.code_injective (code₁.trans code₂.symm)
    rw [split] at nodup
    simp only [namedCategories, List.filterMap_cons, named₁, named₂, Except.toOption, same] at nodup
    simp at nodup

/-- When no two entries name one category, every order of visiting them leaves every
category with the same value. -/
theorem writeKeyed_lookupKey_perm {entries entries' : List (String × α)} {t u u' : List (String × β)}
    (perm : entries.Perm entries') (distinct : (namedCategories entries).Nodup)
    (written : writeKeyed site value entries t = .ok u)
    (written' : writeKeyed site value entries' t = .ok u') (k : String) :
    lookupKey u k = lookupKey u' k := by
  have onKey : (entries.filter (names k)).Perm (entries'.filter (names k)) := perm.filter _
  have few := length_filter_names_le_one distinct k
  -- a permutation of at most one entry is that entry
  have same : entries.filter (names k) = entries'.filter (names k) := by
    match split : entries.filter (names k), onKey with
    | [], onKey => exact onKey.nil_eq
    | [e], onKey => exact (List.perm_singleton.mp onKey.symm).symm
    | _ :: _ :: _, _ => simp [split] at few
  have reads := writeKeyed_lookupKey written k
  rw [same, writeKeyed_lookupKey written' k] at reads
  exact (Except.ok.inj reads).symm

end Admissions.AdmissionSettings
