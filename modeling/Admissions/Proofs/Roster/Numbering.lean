import Mathlib.Data.List.Nodup
import Admissions.Roster

namespace Admissions

theorem Word.wrap_of_fits {i : Int} (low : Word.minValue ≤ i) (high : i ≤ Word.maxValue) :
    Word.wrap i = i := by
  have half : Int.pow 2 63 = 9223372036854775808 := by decide
  have whole : ((Nat.pow 2 64 : Nat) : Int) = 18446744073709551616 := by decide
  simp only [Word.minValue, Word.maxValue, half] at low high
  unfold Word.wrap
  exact Int.bmod_eq_of_le (by rw [whole]; omega) (by rw [whole]; omega)

theorem Category.code_injective : Function.Injective Category.code := by
  intro c d
  cases c <;> cases d <;> decide

theorem Category.code_of_ofCode? {s : String} {c : Category} (found : Category.ofCode? s = some c) :
    c.code = s := by
  simpa using List.find?_some found

theorem Category.ofCode?_code (c : Category) : Category.ofCode? c.code = some c := by
  cases c <;> rfl

/-- What numbering reads of a form: its id, its category and its number. -/
def Application.ticket (a : Application) : String × String × Option Int :=
  (a.id, a.category, a.examinationNumber)

theorem Except.map_eq_ok {ε α β : Type} {f : α → β} {x : Except ε α} {b : β}
    (ok : x.map f = .ok b) : ∃ a, x = .ok a ∧ f a = b := by
  cases x with
  | error e => cases ok
  | ok a => exact ⟨a, rfl, Except.ok.inj ok⟩

namespace SecondRound

theorem update_ticket (a : Application) (row : ScoreSheetRow) :
    (SecondRound.update a row).ticket = a.ticket := by
  unfold SecondRound.update
  split <;> rfl

/-- The forms a score sheet updates are first-round passers with their tickets. -/
theorem apply_tickets {records updated : List Application} {rows : List ScoreSheetRow}
    (ok : SecondRound.apply records rows = .ok updated) :
    ∀ u ∈ updated, ∃ h ∈ records, u.ticket = h.ticket := by
  unfold SecondRound.apply at ok
  split at ok
  · cases ok
  · split at ok
    · cases ok
    · dsimp only at ok
      split at ok
      · cases ok
      · cases ok
        intro u member
        rw [List.mem_mergeSort, List.mem_filterMap] at member
        obtain ⟨row, _, paired⟩ := member
        obtain ⟨h, held, rfl⟩ := Option.map_eq_some_iff.mp paired
        exact ⟨h, List.mem_of_find?_eq_some held, update_ticket h row⟩

/-! ### Numbers held twice -/

section Passers

variable {l : List Application}
  (passers : ∀ a ∈ l, a.status = Status.firstPassed.code ∧ a.examinationNumber.isSome)
include passers

/-- Over numbered first-round passers the record check passes exactly when their
numbers are distinct and none was seen before. -/
theorem recordFault_go_eq_none_iff (seen : List Int) :
    recordFault.go seen l = none ↔ (l.map (·.examNo)).Nodup ∧ ∀ a ∈ l, a.examNo ∉ seen := by
  induction l generalizing seen with
  | nil => simp [recordFault.go]
  | cons a rest ih =>
    obtain ⟨passed, numbered⟩ := passers a List.mem_cons_self
    have later := ih (fun b member => passers b (List.mem_cons_of_mem a member)) (a.examNo :: seen)
    by_cases held : a.examNo ∈ seen
    · simp [recordFault.go, passed, Option.isSome_iff_ne_none.mp numbered, held]
    · simp only [recordFault.go, passed, ne_eq, not_true_eq_false, if_false,
        Option.isNone_iff_eq_none, Option.isSome_iff_ne_none.mp numbered, List.contains_iff_mem, held,
        later, List.map_cons, List.nodup_cons, List.mem_map, List.mem_cons, forall_eq_or_imp,
        not_false_eq_true, true_and]
      constructor
      · rintro ⟨distinct, fresh⟩
        exact ⟨⟨fun ⟨b, member, same⟩ => fresh b member (.inl same), distinct⟩,
          fun b member seenBefore => fresh b member (.inr seenBefore)⟩
      · rintro ⟨⟨unique, distinct⟩, fresh⟩
        refine ⟨distinct, fun b member => ?_⟩
        rintro (same | seenBefore)
        · exact unique ⟨b, member, same⟩
        · exact fresh b member seenBefore

/-- Over numbered first-round passers the only fault the record check finds is a
number held twice. -/
theorem recordFault_go_heldTwice (seen : List Int) (found : recordFault.go seen l ≠ none) :
    ∃ n, recordFault.go seen l = some (.numberMismatch (.heldTwice n)) := by
  induction l generalizing seen with
  | nil => exact absurd rfl found
  | cons a rest ih =>
    obtain ⟨passed, numbered⟩ := passers a List.mem_cons_self
    by_cases held : a.examNo ∈ seen
    · refine ⟨a.examNo, ?_⟩
      simp [recordFault.go, passed, Option.isSome_iff_ne_none.mp numbered, held]
    · have step : recordFault.go seen (a :: rest) = recordFault.go (a.examNo :: seen) rest := by
        simp [recordFault.go, passed, Option.isSome_iff_ne_none.mp numbered, held]
      rw [step] at found ⊢
      exact ih (fun b member => passers b (List.mem_cons_of_mem a member)) _ found

end Passers

/-- Pairing the rows never finds a number held twice: that is the records' fault. -/
theorem rowFault_go_ne_heldTwice (records : List Application) (seen : List Int)
    (rows : List ScoreSheetRow) (n : Int) :
    rowFault.go records seen rows ≠ some (.numberMismatch (.heldTwice n)) := by
  induction rows generalizing seen with
  | nil => simp [rowFault.go]
  | cons row rest ih =>
    unfold rowFault.go
    split
    · simp
    · split
      · simp
      · split
        · simp
        · exact ih _

/-- Among numbered first-round passers, pairing a score sheet is refused for a number
held twice exactly when the passers' numbers are not all distinct, whatever the
sheet says. -/
theorem apply_heldTwice_iff {records : List Application} (rows : List ScoreSheetRow)
    (passers : ∀ a ∈ records, a.status = Status.firstPassed.code ∧ a.examinationNumber.isSome) :
    (∃ n, apply records rows = .error (.numberMismatch (.heldTwice n))) ↔
      ¬ (records.map (·.examNo)).Nodup := by
  have checked := recordFault_go_eq_none_iff passers []
  simp only [List.not_mem_nil, not_false_eq_true, implies_true, and_true] at checked
  unfold apply
  cases fault : recordFault records with
  | some e =>
    have found : recordFault.go [] records ≠ none := by
      intro passes
      unfold recordFault at fault
      rw [passes] at fault
      cases fault
    obtain ⟨n, held⟩ := recordFault_go_heldTwice passers [] found
    have same : e = .numberMismatch (.heldTwice n) := by
      simpa [recordFault, held] using fault.symm
    simp only [same]
    exact ⟨fun _ => fun distinct => found (checked.mpr distinct), fun _ => ⟨n, rfl⟩⟩
  | none =>
    have distinct := checked.mp (by simpa [recordFault] using fault)
    simp only [distinct, not_true_eq_false, iff_false, not_exists]
    intro n
    split
    · rename_i e paired
      have := rowFault_go_ne_heldTwice records [] rows n
      intro refused
      cases refused
      exact this paired
    · split <;> simp

end SecondRound

namespace ExamNumber

/-- The numbers a category issues one after another from base `b`: each is one past
the larger of the highest issued so far (0 before the first) and the base. -/
def issued (b : Int) : Nat → List Int
  | 0 => []
  | k + 1 => issued b k ++ [Word.wrap (max ((issued b k).foldl max 0) b + 1)]

/-- Where a category's block of numbers starts: its first number is one past it. -/
def blockStart (bases : List (String × Int)) (c : Category) : Int := max 0 (baseOf bases c.code)

theorem mem_block {s x : Int} {k : Nat} :
    x ∈ (List.range k).map (fun i : Nat => s + i + 1) ↔ s < x ∧ x ≤ s + k := by
  simp only [List.mem_map, List.mem_range]
  constructor
  · rintro ⟨i, below, rfl⟩
    omega
  · rintro ⟨past, within⟩
    exact ⟨(x - s - 1).toNat, by omega, by omega⟩

theorem foldl_max_block (s : Int) (k : Nat) :
    ((List.range k).map fun i : Nat => s + i + 1).foldl max 0 = if k = 0 then 0 else max 0 (s + k) := by
  induction k with
  | zero => rfl
  | succ k ih =>
    rw [List.range_succ, List.map_append, List.foldl_append, ih]
    simp only [List.map_cons, List.map_nil, List.foldl_cons, List.foldl_nil, Nat.add_one_ne_zero,
      if_false]
    split <;> omega

/-- While the numbers stay words, a category issues the block of numbers just above
the larger of 0 and its base. -/
theorem issued_eq_block {b : Int} {k : Nat} (fits : max 0 b + k ≤ Word.maxValue) :
    issued b k = (List.range k).map fun i : Nat => max 0 b + i + 1 := by
  induction k with
  | zero => rfl
  | succ k ih =>
    have earlier : max 0 b + k ≤ Word.maxValue := by omega
    have next : max ((issued b k).foldl max 0) b + 1 = max 0 b + k + 1 := by
      rw [ih earlier, foldl_max_block]
      split <;> omega
    have small : Word.minValue ≤ max 0 b + k + 1 := by
      have half : (0 : Int) ≤ Int.pow 2 63 := by decide
      simp only [Word.minValue]
      omega
    rw [issued, next, Word.wrap_of_fits small (by omega), ih earlier, List.range_succ,
      List.map_append]
    rfl

end ExamNumber

namespace Roster

open ExamNumber

def count (r : Roster) (c : Category) : Nat := (r.rows.filter (·.category == c.code)).length

/-- A roster numbered as the desk numbers it: ids are distinct, every form has a
category, and each category holds, in roster order, the numbers it issued from its
base. -/
structure Numbered (bases : List (String × Int)) (r : Roster) : Prop where
  distinct : (r.rows.map (·.id)).Nodup
  categorized : ∀ a ∈ r.rows, ∃ c : Category, a.category = c.code
  inOrder : ∀ code, (r.rows.filter (·.category == code)).map (·.examinationNumber) =
    (issued (baseOf bases code) (r.rows.filter (·.category == code)).length).map some

variable {bases : List (String × Int)}

theorem numbered_empty (bases : List (String × Int)) : Numbered bases {} :=
  ⟨List.nodup_nil, by simp, by simp [issued]⟩

/-! ### What numbering reads does not change but by handing in -/

theorem Numbered.of_tickets {r r' : Roster} (inv : Numbered bases r)
    (same : r'.rows.map Application.ticket = r.rows.map Application.ticket) : Numbered bases r' := by
  have ids : r'.rows.map (·.id) = r.rows.map (·.id) := by
    simpa [List.map_map, Function.comp_def, Application.ticket] using congrArg (List.map (·.1)) same
  have numbers (code : String) : (r'.rows.filter (·.category == code)).map (·.examinationNumber) =
      (r.rows.filter (·.category == code)).map (·.examinationNumber) := by
    simpa [List.filter_map, List.map_map, Function.comp_def, Application.ticket] using
      congrArg (fun l => (l.filter (·.2.1 == code)).map (·.2.2)) same
  have sizes (code : String) : (r'.rows.filter (·.category == code)).length =
      (r.rows.filter (·.category == code)).length := by
    simpa using congrArg List.length (numbers code)
  refine ⟨ids ▸ inv.distinct, ?_, fun code => by rw [numbers, sizes]; exact inv.inOrder code⟩
  intro a member
  obtain ⟨b, kept, sameTicket⟩ := List.mem_map.mp (same ▸ List.mem_map_of_mem member)
  obtain ⟨c, coded⟩ := inv.categorized b kept
  exact ⟨c, by simpa [Application.ticket, coded] using (congrArg (·.2.1) sameTicket).symm⟩

/-- Changing every form by a change that keeps tickets keeps the tickets. -/
theorem map_tickets {f : Application → Application} (rows : List Application)
    (keeps : ∀ a, (f a).ticket = a.ticket) :
    (rows.map f).map Application.ticket = rows.map Application.ticket := by
  rw [List.map_map]
  exact List.map_congr_left fun a _ => keeps a

theorem mark_tickets (r : Roster) (ids : List String) (s : Status) :
    (r.mark ids s).rows.map Application.ticket = r.rows.map Application.ticket :=
  map_tickets r.rows fun a => by
    split <;> rfl

theorem transition_tickets {r r' : Roster} {id target : String} (moved : r.transition id target = .ok r') :
    r'.rows.map Application.ticket = r.rows.map Application.ticket := by
  unfold transition at moved
  split at moved
  · cases moved
  · split at moved
    · cases moved
      exact map_tickets r.rows fun b => by
        split <;> rfl
    · cases moved

theorem firstPass_tickets {r r' : Roster} {q : QuotaConfig} {res : SelectionResult}
    (selected : r.firstPass q = .ok (res, r')) :
    r'.rows.map Application.ticket = r.rows.map Application.ticket := by
  unfold firstPass at selected
  split at selected
  · cases selected
  · cases selected
    exact mark_tickets _ _ _

theorem secondPass_tickets {r r' : Roster} {q : QuotaConfig} {res : SelectionResult}
    (selected : r.secondPass q = .ok (res, r')) :
    r'.rows.map Application.ticket = r.rows.map Application.ticket := by
  unfold secondPass at selected
  split at selected
  · cases selected
  · cases selected
    rw [mark_tickets, mark_tickets]

/-- Putting updated forms in the places of the forms with their ids keeps every
ticket, when each updated form carries the ticket of a form of the roster and ids are
distinct. -/
theorem replace_tickets {r : Roster} {updated : List Application} (distinct : (r.rows.map (·.id)).Nodup)
    (fromRows : ∀ u ∈ updated, ∃ h ∈ r.rows, u.ticket = h.ticket) :
    (r.replace updated).rows.map Application.ticket = r.rows.map Application.ticket := by
  simp only [replace, List.map_map]
  apply List.map_congr_left
  intro a member
  simp only [Function.comp_apply]
  cases found : updated.find? (·.id == a.id) with
  | none => rfl
  | some u =>
    obtain ⟨h, held, sameTicket⟩ := fromRows u (List.mem_of_find?_eq_some found)
    have sameId : u.id = a.id := by simpa using List.find?_some found
    -- only `a` has its id, so the form `u` was made from is `a` itself
    have origin : h = a := List.inj_on_of_nodup_map distinct held member
      (by simpa [Application.ticket, sameId] using (congrArg (·.1) sameTicket).symm)
    rw [Option.getD_some, sameTicket, origin]

theorem importSheet_tickets {r r' : Roster} {q : QuotaConfig} {g : Grid} {t : SheetTally}
    (distinct : (r.rows.map (·.id)).Nodup) (imported : r.importSheet q g = .ok (t, r')) :
    r'.rows.map Application.ticket = r.rows.map Application.ticket := by
  unfold importSheet at imported
  dsimp only at imported
  split at imported
  · cases imported
  · split at imported
    · cases imported
    · rename_i updated applied
      cases imported
      refine replace_tickets distinct fun u member => ?_
      obtain ⟨h, passer, sameTicket⟩ := SecondRound.apply_tickets applied u member
      exact ⟨h, List.mem_of_mem_filter passer, sameTicket⟩

/-! ### Handing in -/

theorem Numbered.highestNumber_eq {r : Roster} (inv : Numbered bases r) (code : String) :
    r.highestNumber code =
      (issued (baseOf bases code) (r.rows.filter (·.category == code)).length).foldl max 0 := by
  have numbers := congrArg (List.map (·.getD 0)) (inv.inOrder code)
  simp only [List.map_map, Function.comp_def, Option.getD_some, List.map_id'] at numbers
  rw [highestNumber, ← numbers, List.foldl_map]
  rfl

/-- A form handed in is new, of a category, added at the end and numbered one past
the larger of its category's highest number and base. -/
theorem submit_ok {r r' : Roster} {homeRegion : String} {s : Submission} {a : Application}
    (ok : r.submit homeRegion bases s = .ok (a, r')) :
    r.find? s.id = none ∧ a.id = s.id ∧ r'.rows = r.rows ++ [a] ∧
      (∃ c : Category, a.category = c.code) ∧
      a.examinationNumber =
        some (Word.wrap (max (r.highestNumber a.category) (baseOf bases a.category) + 1)) := by
  unfold submit at ok
  split at ok
  · cases ok
  · rename_i fresh
    dsimp only at ok
    split at ok
    · cases ok
    · rename_i n assigned
      cases ok
      unfold assign at assigned
      split at assigned
      · cases assigned
      · split at assigned
        · cases assigned
        · rename_i c found
          cases assigned
          have coded := Category.code_of_ofCode? found
          refine ⟨by simpa using fresh, rfl, rfl, ⟨c, coded.symm⟩, ?_⟩
          simp only [coded]

theorem Numbered.submit {r r' : Roster} {homeRegion : String} {s : Submission} {a : Application}
    (inv : Numbered bases r) (ok : r.submit homeRegion bases s = .ok (a, r')) : Numbered bases r' := by
  obtain ⟨fresh, named, appended, ⟨c, coded⟩, numbered⟩ := submit_ok ok
  refine ⟨?_, ?_, ?_⟩
  · rw [appended, List.map_append, List.nodup_append]
    refine ⟨inv.distinct, List.nodup_singleton _, ?_⟩
    intro x held y added
    obtain ⟨b, member, rfl⟩ := List.mem_map.mp held
    rw [List.map_singleton, List.mem_singleton] at added
    have other := List.find?_eq_none.mp fresh b member
    rw [added, named]
    simpa using other
  · intro b member
    rw [appended, List.mem_append, List.mem_singleton] at member
    rcases member with old | rfl
    · exact inv.categorized b old
    · exact ⟨c, coded⟩
  · intro code
    rw [appended, List.filter_append]
    by_cases same : a.category = code
    · -- the new form is its category's next number
      have kept : [a].filter (·.category == code) = [a] := by simp [same]
      rw [kept, List.length_append, List.length_singleton, issued, List.map_append, List.map_append,
        inv.inOrder code, ← inv.highestNumber_eq code, ← same]
      simp [numbered]
    · have dropped : [a].filter (·.category == code) = [] := by simp [same]
      rw [dropped, List.append_nil]
      exact inv.inOrder code

/-! ### A season -/

theorem Numbered.step {rules : SeasonRules} {r r' : Roster} {st : RosterStep} {o : RosterOutcome}
    (inv : Numbered rules.bases r) (ran : Roster.step rules r st = .ok (o, r')) :
    Numbered rules.bases r' := by
  cases st with
  | submit s =>
    obtain ⟨⟨a, r₁⟩, submitted, answered⟩ := Except.map_eq_ok ran
    cases answered
    exact inv.submit submitted
  | transition id target =>
    obtain ⟨r₁, moved, answered⟩ := Except.map_eq_ok ran
    cases answered
    exact inv.of_tickets (transition_tickets moved)
  | firstPass =>
    obtain ⟨⟨res, r₁⟩, selected, answered⟩ := Except.map_eq_ok ran
    cases answered
    exact inv.of_tickets (firstPass_tickets selected)
  | importSheet g =>
    obtain ⟨⟨t, r₁⟩, imported, answered⟩ := Except.map_eq_ok ran
    cases answered
    exact inv.of_tickets (importSheet_tickets inv.distinct imported)
  | secondPass =>
    obtain ⟨⟨res, r₁⟩, selected, answered⟩ := Except.map_eq_ok ran
    cases answered
    exact inv.of_tickets (secondPass_tickets selected)
  | unknown name => cases ran

/-- What the empty roster has and every step that goes through keeps holds of every
roster a season passes through. -/
theorem season_invariant (rules : SeasonRules) (P : Roster → Prop) (start : P {})
    (keeps : ∀ r r' st o, P r → Roster.step rules r st = .ok (o, r') → P r') (steps : List RosterStep) :
    ∀ p ∈ season rules steps, P p.2 := by
  intro p member
  unfold season at member
  rw [List.mem_reverse] at member
  -- the fold keeps `P` of the rosters it has answered with and of the one it holds
  refine (List.foldlRecOn
    (motive := fun (acc : List (Except RosterError RosterOutcome × Roster) × Roster) =>
      (∀ q ∈ acc.1, P q.2) ∧ P acc.2)
    steps _ ⟨by simp, start⟩ ?_).1 p member
  rintro acc ⟨answered, holds⟩ st -
  split
  · rename_i o r' ran
    have next := keeps _ _ _ _ holds ran
    refine ⟨?_, next⟩
    rintro q (_ | ⟨_, earlier⟩)
    · exact next
    · exact answered q earlier
  · refine ⟨?_, holds⟩
    rintro q (_ | ⟨_, earlier⟩)
    · exact holds
    · exact answered q earlier

/-- Every roster a season passes through is numbered as the desk numbers it. -/
theorem season_numbered (rules : SeasonRules) (steps : List RosterStep) :
    ∀ p ∈ season rules steps, Numbered rules.bases p.2 :=
  season_invariant rules _ (numbered_empty _) (fun _ _ _ _ inv ran => inv.step ran) steps

/-! ### Blocks -/

theorem Numbered.numbered {r : Roster} (inv : Numbered bases r) {a : Application} (member : a ∈ r.rows) :
    ∃ x, a.examinationNumber = some x := by
  have listed : a.examinationNumber ∈ (r.rows.filter (·.category == a.category)).map
      (·.examinationNumber) :=
    List.mem_map_of_mem (List.mem_filter.mpr ⟨member, by simp⟩)
  rw [inv.inOrder] at listed
  obtain ⟨x, _, held⟩ := List.mem_map.mp listed
  exact ⟨x, held.symm⟩

/-- While no number runs past the largest word, a category holds exactly the block of
numbers just above where it starts, one for each of its forms. -/
theorem Numbered.holds_iff {r : Roster} (inv : Numbered bases r) {c : Category}
    (fits : blockStart bases c + r.count c ≤ Word.maxValue) (x : Int) :
    (∃ a ∈ r.rows, a.category = c.code ∧ a.examinationNumber = some x) ↔
      blockStart bases c < x ∧ x ≤ blockStart bases c + r.count c := by
  have block := inv.inOrder c.code
  unfold blockStart count at fits ⊢
  rw [issued_eq_block fits] at block
  rw [← mem_block]
  constructor
  · rintro ⟨a, member, coded, numbered⟩
    have listed : some x ∈ (r.rows.filter (·.category == c.code)).map (·.examinationNumber) :=
      List.mem_map.mpr ⟨a, List.mem_filter.mpr ⟨member, by simp [coded]⟩, numbered⟩
    rw [block] at listed
    obtain ⟨y, inBlock, same⟩ := List.mem_map.mp listed
    cases same
    exact inBlock
  · intro inBlock
    have listed : some x ∈ (r.rows.filter (·.category == c.code)).map (·.examinationNumber) := by
      rw [block]
      exact List.mem_map_of_mem inBlock
    obtain ⟨a, kept, numbered⟩ := List.mem_map.mp listed
    obtain ⟨member, coded⟩ := List.mem_filter.mp kept
    exact ⟨a, member, by simpa using coded, numbered⟩

/-- In a numbered roster whose numbers stay words, two forms of different categories
share a number exactly when the blocks of two categories overlap. -/
theorem Numbered.shared_iff_overlap {r : Roster} (inv : Numbered bases r)
    (fits : ∀ c, blockStart bases c + r.count c ≤ Word.maxValue) :
    (∃ a ∈ r.rows, ∃ a' ∈ r.rows, a.category ≠ a'.category ∧
        a.examinationNumber = a'.examinationNumber) ↔
      ∃ c d : Category, c ≠ d ∧ 0 < r.count c ∧ 0 < r.count d ∧
        blockStart bases c < blockStart bases d + r.count d ∧
        blockStart bases d < blockStart bases c + r.count c := by
  constructor
  · rintro ⟨a, member, a', member', differ, same⟩
    obtain ⟨c, coded⟩ := inv.categorized a member
    obtain ⟨d, coded'⟩ := inv.categorized a' member'
    obtain ⟨x, numbered⟩ := inv.numbered member
    have inC := (inv.holds_iff (fits c) x).mp ⟨a, member, coded, numbered⟩
    have inD := (inv.holds_iff (fits d) x).mp ⟨a', member', coded', same ▸ numbered⟩
    refine ⟨c, d, fun same => differ (by rw [coded, coded', same]), by omega, by omega, by omega,
      by omega⟩
  · rintro ⟨c, d, differ, _, _, belowD, belowC⟩
    -- the number just past the later start lies in both blocks
    obtain ⟨a, member, coded, numbered⟩ :=
      (inv.holds_iff (fits c) (max (blockStart bases c) (blockStart bases d) + 1)).mpr (by omega)
    obtain ⟨a', member', coded', numbered'⟩ :=
      (inv.holds_iff (fits d) (max (blockStart bases c) (blockStart bases d) + 1)).mpr (by omega)
    refine ⟨a, member, a', member', ?_, numbered.trans numbered'.symm⟩
    rw [coded, coded']
    exact fun same => differ (Category.code_injective same)

/-- Along every season, while no number runs past the largest word, two forms of
different categories hold one number exactly when two categories' blocks overlap:
each holds forms and each starts below the other's last number. -/
theorem season_number_shared_iff_blocks_overlap (rules : SeasonRules) (steps : List RosterStep)
    {o : Except RosterError RosterOutcome} {r : Roster} (reached : (o, r) ∈ season rules steps)
    (fits : ∀ c, blockStart rules.bases c + r.count c ≤ Word.maxValue) :
    (∃ a ∈ r.rows, ∃ a' ∈ r.rows, a.category ≠ a'.category ∧
        a.examinationNumber = a'.examinationNumber) ↔
      ∃ c d : Category, c ≠ d ∧ 0 < r.count c ∧ 0 < r.count d ∧
        blockStart rules.bases c < blockStart rules.bases d + r.count d ∧
        blockStart rules.bases d < blockStart rules.bases c + r.count c :=
  (season_numbered rules steps (o, r) reached).shared_iff_overlap fits

/-- Regular numbers from 1000 and meister-talent numbers from 1002. -/
def closeBases : SeasonRules :=
  { homeRegion := "부산", bases := [("REGULAR", 1000), ("MEISTER_TALENT", 1002)] }

/-- Three regular forms handed in, then one meister-talent form. -/
def threeRegularOneMeister : List RosterStep :=
  ["a", "b", "c"].map (fun id => .submit { id, formType := "REGULAR" }) ++
    [.submit { id := "m", formType := "MEISTER_TALENT" }]

def fourFormsRoster : Roster :=
  ((season closeBases threeRegularOneMeister).getLast?.map (·.2)).getD {}

/-- The regular block 1001 to 1003 runs into the meister-talent block, which starts
at 1003. -/
theorem closeBases_blocks_overlap :
    (∀ c, blockStart closeBases.bases c + fourFormsRoster.count c ≤ Word.maxValue) ∧
      ((∃ a ∈ fourFormsRoster.rows, ∃ a' ∈ fourFormsRoster.rows, a.category ≠ a'.category ∧
          a.examinationNumber = a'.examinationNumber) ↔
        ∃ c d : Category, c ≠ d ∧ 0 < fourFormsRoster.count c ∧ 0 < fourFormsRoster.count d ∧
          blockStart closeBases.bases c < blockStart closeBases.bases d + fourFormsRoster.count d ∧
          blockStart closeBases.bases d < blockStart closeBases.bases c + fourFormsRoster.count c) := by
  have nonempty : season closeBases threeRegularOneMeister ≠ [] :=
    List.ne_nil_of_length_pos (by decide)
  have last : fourFormsRoster = ((season closeBases threeRegularOneMeister).getLast nonempty).2 := by
    rw [fourFormsRoster, List.getLast?_eq_some_getLast nonempty]
    rfl
  have fits : ∀ c, blockStart closeBases.bases c + fourFormsRoster.count c ≤ Word.maxValue := by
    intro c
    cases c <;> decide
  rw [last] at fits ⊢
  exact ⟨fits, season_number_shared_iff_blocks_overlap closeBases threeRegularOneMeister
    (List.getLast_mem nonempty) fits⟩

/-- With those bases the third regular form and the meister-talent form are both
numbered 1003. -/
theorem closeBases_number_held_twice :
    ∃ a ∈ fourFormsRoster.rows, ∃ a' ∈ fourFormsRoster.rows, a.category ≠ a'.category ∧
      a.examinationNumber = a'.examinationNumber := by
  decide

end Roster

end Admissions
