import Mathlib.Data.String.Basic
import Mathlib.Data.List.Induction
import Admissions.Registry

namespace Admissions

namespace ActivityRegistry

/-- How the check refers to an entry: by its id, or by its position when it has none. -/
def reference (i : Nat) (a : Activity) : String :=
  if a.id.isEmpty then "activities[" ++ toString i ++ "]" else a.id

/-- A rule an entry of the registry can break. -/
inductive Breach where
  | noId
  | noTaskType
  | duplicateTaskType
  | badTimeout
  | negativeRetries
  deriving DecidableEq, Repr

/-- The report of a breach by entry `a`, referred to as `ref`. -/
def Breach.line (a : Activity) (ref : String) : Breach → String
  | .noId => ref ++ ": id is required"
  | .noTaskType => ref ++ ": taskType is required"
  | .duplicateTaskType => ref ++ ": duplicate taskType " ++ a.taskType
  | .badTimeout => ref ++ ": invalid timeout " ++ Text.quote a.timeout
  | .negativeRetries => ref ++ ": retries must not be negative"

/-- Whether entry `a`, coming after the entries `earlier`, breaks a rule. -/
def Breaks (earlier : List Activity) (a : Activity) : Breach → Prop
  | .noId => a.id = ""
  | .noTaskType => a.taskType = ""
  | .duplicateTaskType => ∃ b ∈ earlier, b.taskType = a.taskType
  | .badTimeout => a.timeout ≠ "" ∧ ∀ d, Duration.parse a.timeout ≠ .ok d
  | .negativeRetries => a.retries < 0

/-- The breaches the check reports: every breach of an entry with a task type, and only
the missing id and task type of an entry without one. -/
def Reported (earlier : List Activity) (a : Activity) (b : Breach) : Prop :=
  Breaks earlier a b ∧ (a.taskType = "" → b = .noId ∨ b = .noTaskType)

/-- A task type that some entry of `entries` has. -/
def HasTaskType (entries : List Activity) (t : String) : Prop :=
  t ≠ "" ∧ ∃ a ∈ entries, a.taskType = t

/-- A problem of a registry against the task types of the running workers. -/
def Problem (r : ActivityRegistry) (known : List String) (p : String) : Prop :=
  (∃ front a back, r.activities = front ++ a :: back ∧
      ∃ b, Reported front a b ∧ p = b.line a (reference front.length a)) ∨
    (∃ t ∈ known, ¬HasTaskType r.activities t ∧ p = "worker " ++ t ++ " has no registry entry") ∨
    ∃ t, HasTaskType r.activities t ∧ t ∉ known ∧ p = "taskType " ++ t ++ " has no worker"

/-- A sound registry against the task types of the running workers. -/
structure Sound (r : ActivityRegistry) (known : List String) : Prop where
  ids : ∀ a ∈ r.activities, a.id ≠ ""
  taskTypes : ∀ a ∈ r.activities, a.taskType ≠ ""
  distinct : (r.activities.map (·.taskType)).Nodup
  timeouts : ∀ a ∈ r.activities, a.timeout ≠ "" → ∃ d, Duration.parse a.timeout = .ok d
  retries : ∀ a ∈ r.activities, 0 ≤ a.retries
  registered : ∀ t, t ∈ r.activities.map (·.taskType) ↔ t ∈ known

theorem Breach.exists_iff {P : Breach → Prop} :
    (∃ b, P b) ↔ P .noId ∨ P .noTaskType ∨ P .duplicateTaskType ∨ P .badTimeout ∨ P .negativeRetries := by
  constructor
  · rintro ⟨b, holds⟩
    cases b <;> simp [holds]
  · rintro (holds | holds | holds | holds | holds) <;> exact ⟨_, holds⟩

theorem hasTaskType_append_single {entries : List Activity} {a : Activity} {t : String} :
    HasTaskType (entries ++ [a]) t ↔ HasTaskType entries t ∨ t ≠ "" ∧ a.taskType = t := by
  simp only [HasTaskType, List.mem_append, List.mem_singleton]
  constructor
  · rintro ⟨named, b, earlier | rfl, same⟩
    · exact Or.inl ⟨named, b, earlier, same⟩
    · exact Or.inr ⟨named, same⟩
  · rintro (⟨named, b, earlier, same⟩ | ⟨named, same⟩)
    · exact ⟨named, b, Or.inl earlier, same⟩
    · exact ⟨named, a, Or.inr rfl, same⟩

/-- The lines of one entry are exactly the reports of its reported breaches. -/
theorem mem_entryLines {earlier : List Activity} {seen : List String}
    (invariant : ∀ t, t ∈ seen ↔ HasTaskType earlier t) (a : Activity) (p : String) :
    p ∈ entryLines earlier.length seen a ↔ ∃ b, Reported earlier a b ∧ p = b.line a (reference earlier.length a) := by
  have named : (if a.id.isEmpty = true then "activities[" ++ toString earlier.length ++ "]" else a.id) =
      reference earlier.length a := rfl
  unfold entryLines
  simp only [named]
  rw [Breach.exists_iff]
  by_cases untyped : a.taskType = ""
  · simp [untyped, Reported, Breaks, Breach.line, List.mem_ite_nil_right, String.isEmpty_iff]
  · -- the task types seen are those of the earlier entries
    have dup : a.taskType ∈ seen ↔ ∃ b ∈ earlier, b.taskType = a.taskType := by
      rw [invariant]
      simp [HasTaskType, untyped]
    cases parsed : Duration.parse a.timeout with
    | ok d =>
      simp [parsed, untyped, dup, Reported, Breaks, Breach.line, List.mem_ite_nil_right, String.isEmpty_iff]
    | error e =>
      simp [parsed, untyped, dup, Reported, Breaks, Breach.line, List.mem_ite_nil_right, String.isEmpty_iff]

/-- Noting an entry's task type keeps the task types seen those of the entries so far. -/
theorem mem_noteTaskType {earlier : List Activity} {seen : List String}
    (invariant : ∀ t, t ∈ seen ↔ HasTaskType earlier t) (a : Activity) (t : String) :
    t ∈ noteTaskType seen a ↔ HasTaskType (earlier ++ [a]) t := by
  rw [hasTaskType_append_single, ← invariant, noteTaskType]
  by_cases untyped : a.taskType = ""
  · simp only [untyped, String.isEmpty_iff.mpr rfl, Bool.true_or, if_true]
    constructor
    · exact Or.inl
    · rintro (seen | ⟨named, rfl⟩)
      · exact seen
      · exact absurd rfl named
  · by_cases old : a.taskType ∈ seen
    · simp only [List.contains_iff_mem.mpr old, Bool.or_true, if_true]
      constructor
      · exact Or.inl
      · rintro (seen | ⟨-, rfl⟩)
        · exact seen
        · exact old
    · have fresh : (a.taskType.isEmpty || seen.contains a.taskType) = false := by
        simp [untyped, old]
      rw [fresh, if_neg Bool.false_ne_true, List.mem_append, List.mem_singleton]
      constructor
      · rintro (seen | rfl)
        · exact Or.inl seen
        · exact Or.inr ⟨untyped, rfl⟩
      · rintro (seen | ⟨-, rfl⟩)
        · exact Or.inl seen
        · exact Or.inr rfl

/-- The entries of `a :: rest`, each with those before it: `a` first, then those of `rest`. -/
theorem exists_split_cons {α : Type} {a : α} {rest : List α} {P : List α → α → Prop} :
    (∃ front x back, a :: rest = front ++ x :: back ∧ P front x) ↔
      P [] a ∨ ∃ front x back, rest = front ++ x :: back ∧ P (a :: front) x := by
  constructor
  · rintro ⟨front, x, back, split, holds⟩
    rcases List.cons_eq_append_iff.mp split with ⟨rfl, same⟩ | ⟨front', rfl, split'⟩
    · obtain ⟨rfl, rfl⟩ := List.cons.inj same
      exact Or.inl holds
    · exact Or.inr ⟨front', x, back, split', holds⟩
  · rintro (holds | ⟨front, x, back, rfl, holds⟩)
    · exact ⟨[], a, rest, rfl, holds⟩
    · exact ⟨a :: front, x, back, rfl, holds⟩

/-- The check of the entries from position `earlier.length` on: the lines of each entry
are the reports of its reported breaches, and the task types seen at the end are those of
all the entries. -/
theorem entryProblems_spec (rest : List Activity) :
    ∀ (earlier : List Activity) (seen : List String), (∀ t, t ∈ seen ↔ HasTaskType earlier t) →
      (∀ p, p ∈ (entryProblems earlier.length seen rest).1 ↔
        ∃ front a back, rest = front ++ a :: back ∧
          ∃ b, Reported (earlier ++ front) a b ∧ p = b.line a (reference (earlier.length + front.length) a)) ∧
      ∀ t, t ∈ (entryProblems earlier.length seen rest).2 ↔ HasTaskType (earlier ++ rest) t := by
  induction rest with
  | nil =>
    intro earlier seen invariant
    simp [entryProblems, invariant]
  | cons a rest ih =>
    intro earlier seen invariant
    -- the entries of `rest` come after those of `earlier` and `a`
    obtain ⟨lines, final⟩ := ih (earlier ++ [a]) (noteTaskType seen a) (mem_noteTaskType invariant a)
    simp only [List.length_append, List.length_singleton, List.append_assoc, List.singleton_append] at lines final
    simp only [entryProblems]
    refine ⟨fun p => ?_, final⟩
    rw [List.mem_append, mem_entryLines invariant, lines, exists_split_cons]
    simp only [List.append_nil, List.length_nil, Nat.add_zero, List.length_cons, Nat.add_right_comm,
      Nat.add_assoc]

theorem mem_problems_iff (r : ActivityRegistry) (known : List String) (p : String) :
    p ∈ r.problems known ↔ Problem r known p := by
  obtain ⟨lines, final⟩ := entryProblems_spec r.activities [] [] (by simp [HasTaskType])
  simp only [List.length_nil, List.nil_append, Nat.zero_add] at lines final
  simp only [problems, List.mem_mergeSort, List.mem_append, lines, Problem, or_assoc]
  -- the task types seen by the check are those of the entries
  have unseen (t : String) : (!(entryProblems 0 [] r.activities).2.contains t) = true ↔
      ¬HasTaskType r.activities t := by
    simp [final]
  simp only [List.mem_map, List.mem_filter, unseen, Bool.not_eq_true', final]
  simp [and_assoc, eq_comm]

theorem problems_sorted (r : ActivityRegistry) (known : List String) :
    (r.problems known).Pairwise (· ≤ ·) := by
  have sorted := @List.pairwise_mergeSort String (fun a b => decide (a ≤ b))
    (fun a b c ab bc => by simp only [decide_eq_true_eq] at ab bc ⊢; exact le_trans ab bc)
    (fun a b => by simpa using le_total a b)
  simpa [problems] using sorted _

/-- A list has no repeated image when no member's image is that of one before it. -/
theorem nodup_map_of_no_earlier {α β : Type} {f : α → β} {l : List α}
    (fresh : ∀ front x back, l = front ++ x :: back → ∀ y ∈ front, f y ≠ f x) : (l.map f).Nodup := by
  induction l using List.reverseRecOn with
  | nil => exact List.nodup_nil
  | append_singleton front x ih =>
    rw [List.map_append, List.nodup_append]
    refine ⟨ih fun front' y back split => fresh front' y (back ++ [x]) (by simp [split]), by simp, ?_⟩
    intro image earlier last single
    obtain ⟨y, member, rfl⟩ := List.mem_map.mp earlier
    rw [List.map_singleton, List.mem_singleton] at single
    exact single ▸ fresh front x [] rfl y member

/-- Images without repeats: no member's image is that of one before it. -/
theorem map_ne_of_nodup {α β : Type} {f : α → β} {l front back : List α} {x : α}
    (distinct : (l.map f).Nodup) (split : l = front ++ x :: back) {y : α} (earlier : y ∈ front) :
    f y ≠ f x := by
  rw [split, List.map_append, List.nodup_append] at distinct
  exact distinct.2.2 _ (List.mem_map_of_mem earlier) _ (by simp)

/-- A registry with no problem is sound. -/
theorem sound_of_no_problem {r : ActivityRegistry} {known : List String}
    (clean : ∀ p, ¬Problem r known p) : Sound r known := by
  -- a reported breach of an entry would be a problem
  have unreported (a : Activity) (member : a ∈ r.activities) (b : Breach)
      (reported : ∀ front, Reported front a b) : False := by
    obtain ⟨front, back, split⟩ := List.append_of_mem member
    exact clean _ (Or.inl ⟨front, a, back, split, b, reported front, rfl⟩)
  have typed : ∀ a ∈ r.activities, a.taskType ≠ "" := fun a member untyped =>
    unreported a member .noTaskType fun _ => ⟨untyped, fun _ => Or.inr rfl⟩
  -- every entry is typed, so a report about an entry's type never stands in for another
  have typedGuard (a : Activity) (member : a ∈ r.activities) (b : Breach) :
      a.taskType = "" → b = .noId ∨ b = .noTaskType := fun untyped => absurd untyped (typed a member)
  have sorted (t : String) : HasTaskType r.activities t ↔ t ∈ r.activities.map (·.taskType) := by
    constructor
    · rintro ⟨-, a, member, rfl⟩
      exact List.mem_map_of_mem member
    · intro listed
      obtain ⟨a, member, rfl⟩ := List.mem_map.mp listed
      exact ⟨typed a member, a, member, rfl⟩
  refine ⟨fun a member unnamed => ?_, typed, ?_, fun a member set => ?_, fun a member => ?_, fun t => ?_⟩
  · exact unreported a member .noId fun _ => ⟨unnamed, fun _ => Or.inl rfl⟩
  · refine nodup_map_of_no_earlier fun front a back split b earlier same => ?_
    have member : a ∈ r.activities := split ▸ List.mem_append_right _ List.mem_cons_self
    exact clean _ (Or.inl ⟨front, a, back, split, .duplicateTaskType,
      ⟨⟨b, earlier, same⟩, typedGuard a member _⟩, rfl⟩)
  · by_contra unparsed
    exact unreported a member .badTimeout fun _ =>
      ⟨⟨set, fun d parsed => unparsed ⟨d, parsed⟩⟩, typedGuard a member _⟩
  · by_contra negative
    exact unreported a member .negativeRetries fun _ =>
      ⟨Int.lt_of_not_ge negative, typedGuard a member _⟩
  · rw [← sorted]
    constructor
    · intro had
      by_contra unknown
      exact clean _ (Or.inr (Or.inr ⟨t, had, unknown, rfl⟩))
    · intro isKnown
      by_contra unhad
      exact clean _ (Or.inr (Or.inl ⟨t, isKnown, unhad, rfl⟩))

/-- A sound registry has no problem. -/
theorem no_problem_of_sound {r : ActivityRegistry} {known : List String} (sound : Sound r known)
    (p : String) : ¬Problem r known p := by
  rintro (⟨front, a, back, split, b, ⟨breaks, -⟩, -⟩ | ⟨t, isKnown, unhad, -⟩ | ⟨t, had, unknown, -⟩)
  · have member : a ∈ r.activities := split ▸ List.mem_append_right _ List.mem_cons_self
    cases b with
    | noId => exact sound.ids a member breaks
    | noTaskType => exact sound.taskTypes a member breaks
    | duplicateTaskType =>
      obtain ⟨c, earlier, same⟩ := breaks
      exact map_ne_of_nodup sound.distinct split earlier same
    | badTimeout =>
      obtain ⟨d, parsed⟩ := sound.timeouts a member breaks.1
      exact breaks.2 d parsed
    | negativeRetries =>
      have := sound.retries a member
      exact absurd breaks (Int.not_lt.mpr this)
  · obtain ⟨a, member, rfl⟩ := List.mem_map.mp ((sound.registered t).mpr isKnown)
    exact unhad ⟨sound.taskTypes a member, a, member, rfl⟩
  · obtain ⟨-, a, member, rfl⟩ := had
    exact unknown ((sound.registered _).mp (List.mem_map_of_mem member))

/-- The check passes exactly when the registry is sound, and otherwise reports every
problem, sorted, after their count. An entry without a task type is reported for its id
and its task type only (`Reported`). -/
theorem registry_check_reports_typed_entries (r : ActivityRegistry) (known : List String) :
    (r.validate known = none ↔ Sound r known) ∧
      ∀ message, r.validate known = some message →
        message = "activity registry has " ++ toString (r.problems known).length ++ " problem(s):\n- " ++
            Text.join "\n- " (r.problems known) ∧
          (r.problems known).Pairwise (· ≤ ·) ∧ ∀ p, p ∈ r.problems known ↔ Problem r known p := by
  refine ⟨?_, fun message reported => ⟨?_, problems_sorted r known, mem_problems_iff r known⟩⟩
  · have quiet : r.validate known = none ↔ r.problems known = [] := by
      unfold validate
      split <;> simp_all
    rw [quiet, List.eq_nil_iff_forall_not_mem]
    simp only [mem_problems_iff]
    exact ⟨sound_of_no_problem, no_problem_of_sound⟩
  · cases listed : r.problems known with
    | nil => simp [validate, listed] at reported
    | cons first rest =>
      simp only [validate, listed] at reported
      exact (Option.some.inj reported).symm

/-- Two entries share task type `t`, and no entry has the known task type `u`: the
registry is not sound, and its report names both problems. -/
theorem shared_task_type_and_idle_worker_reported :
    validate { activities := [{ id := "a", taskType := "t" }, { id := "b", taskType := "t" }] } ["t", "u"] =
        some "activity registry has 2 problem(s):\n- b: duplicate taskType t\n- worker u has no registry entry" ∧
      ¬Sound { activities := [{ id := "a", taskType := "t" }, { id := "b", taskType := "t" }] } ["t", "u"] ∧
      Problem { activities := [{ id := "a", taskType := "t" }, { id := "b", taskType := "t" }] } ["t", "u"]
        "b: duplicate taskType t" := by
  have listed : problems { activities := [{ id := "a", taskType := "t" }, { id := "b", taskType := "t" }] }
      ["t", "u"] = ["b: duplicate taskType t", "worker u has no registry entry"] := by
    simp [problems, entryProblems, entryLines, noteTaskType]
    exact List.mergeSort_of_pairwise (by decide)
  have checked := registry_check_reports_typed_entries
    { activities := [{ id := "a", taskType := "t" }, { id := "b", taskType := "t" }] } ["t", "u"]
  have validated : validate { activities := [{ id := "a", taskType := "t" }, { id := "b", taskType := "t" }] }
      ["t", "u"] = some "activity registry has 2 problem(s):\n- b: duplicate taskType t\n- worker u has no registry entry" := by
    rw [validate, listed]
    rfl
  refine ⟨validated, fun sound => ?_, ((checked.2 _ validated).2.2 _).mp (by simp [listed])⟩
  have passed := checked.1.mpr sound
  rw [validated] at passed
  cases passed

/-- An entry without a task type is reported for that alone: its retries are negative,
yet the report leaves them out. -/
theorem untyped_entry_retries_unreported :
    Breaks [] { id := "a", retries := -1 } .negativeRetries ∧
      problems { activities := [{ id := "a", retries := -1 }] } [] = ["a: taskType is required"] ∧
      validate { activities := [{ id := "a", retries := -1 }] } [] =
        some "activity registry has 1 problem(s):\n- a: taskType is required" := by
  have listed : problems { activities := [{ id := "a", retries := -1 }] } [] = ["a: taskType is required"] := by
    simp [problems, entryProblems, entryLines, noteTaskType]
  refine ⟨show (-1 : Int) < 0 by decide, listed, ?_⟩
  rw [validate, listed]
  rfl

end ActivityRegistry

end Admissions
