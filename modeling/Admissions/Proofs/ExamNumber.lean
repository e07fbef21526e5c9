import Admissions.Proofs.Roster.Numbering

namespace Admissions.ExamNumber

/-- The largest number issued so far, 0 when none was. -/
def highest (ns : List Int) : Int := ns.max?.getD 0

/-- `ns` are the numbers a run of forms of category `c` was given, in order, each by
`assign` from the largest number issued before it. -/
inductive Issued (bases : List (String × Int)) (c : Category) : List Application → List Int → Prop
  | start : Issued bases c [] []
  | next {forms : List Application} {ns : List Int} {a : Application} {n : Int} :
      Issued bases c forms ns → a.category = c.code → assign bases a (highest ns) = .ok n →
      Issued bases c (forms ++ [a]) (ns ++ [n])

/-- A number is issued only to a form without one, of a category, one past the
larger of the current maximum and that category's base, as a word. -/
theorem assign_ok {bases : List (String × Int)} {a : Application} {m n : Int}
    (ok : assign bases a m = .ok n) :
    a.examinationNumber = none ∧ n = Word.wrap (max m (baseOf bases a.category) + 1) := by
  unfold assign at ok
  split at ok
  · cases ok
  · rename_i unnumbered
    split at ok
    · cases ok
    · rename_i c found
      cases ok
      exact ⟨unnumbered, by rw [Category.code_of_ofCode? found]⟩

/-- A form that already carries a number is refused, whatever its category. -/
theorem assign_of_numbered (bases : List (String × Int)) {a : Application} {n : Int}
    (numbered : a.examinationNumber = some n) (m : Int) :
    assign bases a m = .error (.alreadyAssigned a.id n) := by
  simp [assign, numbered]

/-- A form without a number and of no category lacks data. -/
theorem assign_of_unknown_category (bases : List (String × Int)) {a : Application}
    (unnumbered : a.examinationNumber = none) (unknown : Category.ofCode? a.category = none)
    (m : Int) : assign bases a m = .error (.missingData (.noCategory a.id)) := by
  simp [assign, unnumbered, unknown]

/-- Over numbers none of which is below 0, the largest is the running maximum from 0. -/
theorem highest_eq_foldl {ns : List Int} (nonneg : ∀ n ∈ ns, 0 ≤ n) : highest ns = ns.foldl max 0 := by
  cases ns with
  | nil => rfl
  | cons n rest =>
    have first : max 0 n = n := Int.max_eq_right (nonneg n List.mem_cons_self)
    rw [highest, List.max?_cons', Option.getD_some, List.foldl_cons, first]

/-- While the numbers stay words, a run issues the block just above the larger of 0
and the category's base. -/
theorem Issued.eq_block {bases : List (String × Int)} {c : Category} {forms : List Application}
    {ns : List Int} (run : Issued bases c forms ns)
    (fits : max 0 (baseOf bases c.code) + ns.length ≤ Word.maxValue) :
    ns = (List.range ns.length).map fun i : Nat => max 0 (baseOf bases c.code) + i + 1 := by
  induction run with
  | start => rfl
  | @next forms ns a n _ coded assigned ih =>
    set s := max 0 (baseOf bases c.code)
    rw [List.length_append, List.length_singleton] at fits
    have block := ih (by omega)
    obtain ⟨-, numbered⟩ := assign_ok assigned
    -- the largest number so far is the block's last, or 0 before the first
    have top : highest ns = if ns.length = 0 then 0 else max 0 (s + ns.length) := by
      have nonneg : ∀ x ∈ ns, 0 ≤ x := by
        rw [block]
        intro x member
        rw [mem_block] at member
        omega
      rw [highest_eq_foldl nonneg, block, foldl_max_block, List.length_map, List.length_range]
    have next : max (highest ns) (baseOf bases c.code) + 1 = s + ns.length + 1 := by
      rw [top]
      split <;> omega
    have small : Word.minValue ≤ s + ns.length + 1 := by
      have half : (0 : Int) ≤ Int.pow 2 63 := by decide
      simp only [Word.minValue]
      omega
    rw [numbered, coded, next, Word.wrap_of_fits small (by omega), List.length_append,
      List.length_singleton, List.range_succ, List.map_append]
    nth_rewrite 1 [block]
    rfl

/-- In a category whose numbers stay words, every run of forms numbered from the
largest number issued before them gets numbers that strictly increase, never repeat
and lie above the category's base. `assign` refuses a form that carries a number with
EXAMINATION_NUMBER_ALREADY_ASSIGNED whatever its category, and a form of no category
with INSUFFICIENT_DATA. -/
theorem issued_increasing_above_base {bases : List (String × Int)} {c : Category}
    {forms : List Application} {ns : List Int} (run : Issued bases c forms ns)
    (fits : max 0 (baseOf bases c.code) + ns.length ≤ Word.maxValue) :
    (ns.Pairwise (· < ·) ∧ ns.Nodup ∧ ∀ n ∈ ns, baseOf bases c.code < n) ∧
      ∀ (a : Application) (m : Int),
        (∀ n, a.examinationNumber = some n → assign bases a m = .error (.alreadyAssigned a.id n) ∧
          (AdmissionError.alreadyAssigned a.id n).code = "EXAMINATION_NUMBER_ALREADY_ASSIGNED") ∧
        (a.examinationNumber = none → Category.ofCode? a.category = none →
          assign bases a m = .error (.missingData (.noCategory a.id)) ∧
          (AdmissionError.missingData (.noCategory a.id)).code = "INSUFFICIENT_DATA") := by
  have block := run.eq_block fits
  have increasing : ns.Pairwise (· < ·) := by
    rw [block, List.pairwise_map]
    exact List.pairwise_lt_range.imp fun below => by omega
  refine ⟨⟨increasing, increasing.nodup, ?_⟩, fun a m => ⟨fun n numbered =>
    ⟨assign_of_numbered bases numbered m, rfl⟩, fun unnumbered unknown =>
    ⟨assign_of_unknown_category bases unnumbered unknown m, rfl⟩⟩⟩
  intro n member
  rw [block, mem_block] at member
  omega

/-- Two regular forms numbered from the default bases get 1001 and 1002. -/
theorem defaultBases_regular_pair :
    Issued defaultBases .regular [{ id := "a", category := "REGULAR" }, { id := "b", category := "REGULAR" }]
        [1001, 1002] ∧
      max 0 (baseOf defaultBases Category.regular.code) + [1001, 1002].length ≤ Word.maxValue ∧
      (([1001, 1002] : List Int).Pairwise (· < ·) ∧ ([1001, 1002] : List Int).Nodup ∧
        ∀ n ∈ ([1001, 1002] : List Int), baseOf defaultBases Category.regular.code < n) := by
  have first : Issued defaultBases .regular ([] ++ [{ id := "a", category := "REGULAR" }]) ([] ++ [1001]) :=
    .next .start rfl rfl
  have run : Issued defaultBases .regular
      ([{ id := "a", category := "REGULAR" }] ++ [{ id := "b", category := "REGULAR" }]) ([1001] ++ [1002]) :=
    .next first rfl rfl
  have fits : max 0 (baseOf defaultBases Category.regular.code) + [1001, 1002].length ≤ Word.maxValue := by
    decide
  exact ⟨run, fits, (issued_increasing_above_base run fits).1⟩

/-- With the regular base at the largest word, the first regular form is numbered
with the smallest word, below the base, and so is the second. -/
theorem issued_wraps_past_largest_word :
    Issued [("REGULAR", Word.maxValue)] .regular
        [{ id := "a", category := "REGULAR" }, { id := "b", category := "REGULAR" }]
        [Word.minValue, Word.minValue] ∧
      ¬ (([Word.minValue, Word.minValue] : List Int).Pairwise (· < ·) ∨
        ([Word.minValue, Word.minValue] : List Int).Nodup ∨
        ∀ n ∈ ([Word.minValue, Word.minValue] : List Int),
          baseOf [("REGULAR", Word.maxValue)] Category.regular.code < n) := by
  have first : Issued [("REGULAR", Word.maxValue)] .regular ([] ++ [{ id := "a", category := "REGULAR" }])
      ([] ++ [Word.minValue]) :=
    .next .start rfl rfl
  have run : Issued [("REGULAR", Word.maxValue)] .regular
      ([{ id := "a", category := "REGULAR" }] ++ [{ id := "b", category := "REGULAR" }])
      ([Word.minValue] ++ [Word.minValue]) :=
    .next first rfl rfl
  exact ⟨run, by decide⟩

end Admissions.ExamNumber
