import Admissions.Proofs.Settings.Keyed

namespace Admissions.AdmissionSettings

/-! ### Written values -/

/-- A range as written that is accepted: none, or `[min, max]` with `min ≤ max`. -/
def BoundAccepted (v : List Int) : Prop := v = [] ∨ ∃ lo hi, v = [lo, hi] ∧ lo ≤ hi

theorem boundOr_ok_iff (v : List Int) (fallback : ScoreRange) :
    (∃ r, boundOr v fallback = .ok r) ↔ BoundAccepted v := by
  unfold boundOr BoundAccepted
  split
  case h_1 => simp
  case h_2 lo hi =>
    by_cases le : lo ≤ hi
    · simp [le, not_lt.mpr le]
    · simp [le, not_le.mp le]
  case h_3 v notEmpty notPair =>
    simp only [reduceCtorEq, exists_false, false_iff]
    rintro (rfl | ⟨lo, hi, rfl, -⟩)
    · exact notEmpty rfl
    · exact notPair lo hi rfl

theorem boundOr_valid {v : List Int} {fallback r : ScoreRange} (valid : fallback.Valid)
    (read : boundOr v fallback = .ok r) : r.Valid := by
  unfold boundOr at read
  split at read
  · cases read
    exact valid
  · split at read
    · cases read
    · cases read
      exact ScoreRange.ofInts_valid (by omega)
  · cases read

/-- Ranges written for a category that are accepted: each of the three is. -/
structure RangesAccepted (rc : RangeSettings) : Prop where
  depthInterview : BoundAccepted (rc.depthInterview.getD [])
  ncs : BoundAccepted (rc.ncs.getD [])
  codingTest : BoundAccepted (rc.codingTest.getD [])

/-- What a category's written ranges come to: each range as written over the current one,
and the coding test's replaced only when one is written. -/
theorem writtenRanges_eq_ok {key : String} {rc : RangeSettings} {current r : CategoryRanges} :
    writtenRanges key rc current = .ok r ↔
      boundOr (rc.depthInterview.getD []) current.depthInterview = .ok r.depthInterview ∧
      boundOr (rc.ncs.getD []) current.ncs = .ok r.ncs ∧
      if rc.codingTest.getD [] = [] then r.codingTest = current.codingTest
      else ∃ c, boundOr (rc.codingTest.getD []) ⟨Decimal.zero, Decimal.zero⟩ = .ok c ∧
        r.codingTest = some c := by
  unfold writtenRanges
  -- a refused interview or NCS range stops the writing before the coding test is read
  cases interview : boundOr (rc.depthInterview.getD []) current.depthInterview <;>
    cases ncs : boundOr (rc.ncs.getD []) current.ncs <;>
    simp [Except.map_error]
  obtain ⟨interview', ncs', coding'⟩ := r
  split
  · simp [pure, Except.pure]
    tauto
  · cases coding : boundOr (rc.codingTest.getD []) ⟨Decimal.zero, Decimal.zero⟩ <;>
      simp [pure, Except.pure]
    tauto

/-- Whether a category's ranges are accepted does not depend on its current ones. -/
theorem writtenRanges_ok_iff (key : String) (rc : RangeSettings) (current : CategoryRanges) :
    (∃ r, writtenRanges key rc current = .ok r) ↔ RangesAccepted rc := by
  constructor
  · rintro ⟨r, written⟩
    obtain ⟨interview, ncs, coding⟩ := writtenRanges_eq_ok.mp written
    refine ⟨(boundOr_ok_iff _ _).mp ⟨_, interview⟩, (boundOr_ok_iff _ _).mp ⟨_, ncs⟩, ?_⟩
    split at coding
    case isTrue empty => exact Or.inl empty
    case isFalse => exact (boundOr_ok_iff _ _).mp (coding.imp fun _ => And.left)
  · intro accepted
    obtain ⟨interview, read⟩ := (boundOr_ok_iff _ current.depthInterview).mpr accepted.depthInterview
    obtain ⟨ncs, read'⟩ := (boundOr_ok_iff _ current.ncs).mpr accepted.ncs
    by_cases empty : rc.codingTest.getD [] = []
    · exact ⟨⟨interview, ncs, current.codingTest⟩, writtenRanges_eq_ok.mpr ⟨read, read', by simp [empty]⟩⟩
    · obtain ⟨coding, read''⟩ := (boundOr_ok_iff _ ⟨Decimal.zero, Decimal.zero⟩).mpr accepted.codingTest
      exact ⟨⟨interview, ncs, some coding⟩,
        writtenRanges_eq_ok.mpr ⟨read, read', by simpa [empty] using read''⟩⟩

/-- Valid current ranges stay valid under what is written over them. -/
theorem writtenRanges_valid {key : String} {rc : RangeSettings} {current r : CategoryRanges}
    (valid : current.Valid) (written : writtenRanges key rc current = .ok r) : r.Valid := by
  obtain ⟨interview, ncs, coding⟩ := writtenRanges_eq_ok.mp written
  refine ⟨boundOr_valid valid.depthInterview interview, boundOr_valid valid.ncs ncs, ?_⟩
  split at coding
  case isTrue => exact coding ▸ valid.codingTest
  case isFalse =>
    obtain ⟨c, read, kept⟩ := coding
    have zero : ScoreRange.Valid ⟨Decimal.zero, Decimal.zero⟩ := le_refl _
    simpa [kept] using boundOr_valid zero read

theorem seatCount_eq_ok {key : String} {n m : Int} : seatCount key n = .ok m ↔ 0 ≤ n ∧ m = n := by
  unfold seatCount
  split <;> simp [eq_comm] <;> omega

theorem readMultiplier_pos {text : String} {m : Decimal} (read : readMultiplier text = .ok m) :
    0 < m.value := by
  unfold readMultiplier at read
  split at read
  · split at read
    · cases read
      exact (Decimal.sign_pos_iff _).mp (by omega)
    · cases read
  · cases read

theorem readRate_mem {text : String} {r : Decimal} (read : readRate text = .ok r) :
    0 ≤ r.value ∧ r.value ≤ 1 := by
  unfold readRate at read
  split at read
  · split at read
    · cases read
    · rename_i within
      cases read
      simp only [Bool.or_eq_true, decide_eq_true_eq, not_or, not_lt] at within
      obtain ⟨signed, notAbove⟩ := within
      have atMostOne : ¬ 1 < r.value := by
        simpa [Decimal.lt_iff_value, Decimal.value_ofInt] using notAbove
      exact ⟨(Decimal.sign_nonneg_iff _).mp signed, not_lt.mp atMostOne⟩
  · cases read

/-! ### Steps of the policy -/

/-- An optional written value: the held one when nothing is written, else the one read. -/
theorem ite_pure_eq_ok {β : Type} {c : Bool} {held x : β} {read : Except String β} :
    (if c then pure held else read) = .ok x ↔ if c then x = held else read = .ok x := by
  split <;> simp [pure, Except.pure, eq_comm]

theorem ite_pure_ok_iff {β : Type} {c : Bool} {held : β} {read : Except String β} :
    (∃ x, (if c then pure held else read) = .ok x) ↔ c ∨ ∃ x, read = .ok x := by
  cases c <;> simp [pure, Except.pure]

theorem applySeats_eq_ok {seats : List (String × Int)} {q q' : QuotaConfig} :
    applySeats seats q = .ok q' ↔
      q' = { q with seats := q'.seats } ∧
        if seats = [] then q'.seats = q.seats
        else writeKeyed "admission.seats: " (fun key n _ => seatCount key n) seats [] = .ok q'.seats := by
  unfold applySeats
  by_cases empty : seats = []
  · subst empty
    obtain ⟨total, seats, multiplier, rate, ranges⟩ := q
    obtain ⟨total', seats', multiplier', rate', ranges'⟩ := q'
    simp [pure, Except.pure]
    aesop
  · cases written : writeKeyed "admission.seats: " (fun key n _ => seatCount key n) seats [] <;>
      obtain ⟨total, seats, multiplier, rate, ranges⟩ := q <;>
      obtain ⟨total', seats', multiplier', rate', ranges'⟩ := q' <;>
      simp [empty, pure, Except.pure]
    aesop

theorem applyRanges_eq_ok {ranges : List (String × RangeSettings)} {q q' : QuotaConfig} :
    applyRanges ranges q = .ok q' ↔
      q' = { q with ranges := q'.ranges } ∧
        writeKeyed "admission.ranges: " (fun key rc current => writtenRanges key rc (current.getD .fallback))
          ranges q.ranges = .ok q'.ranges := by
  unfold applyRanges
  cases written : writeKeyed "admission.ranges: "
      (fun key rc current => writtenRanges key rc (current.getD .fallback)) ranges q.ranges <;>
    obtain ⟨total, seats, multiplier, rate, ranges⟩ := q <;>
    obtain ⟨total', seats', multiplier', rate', ranges'⟩ := q' <;>
    simp [pure, Except.pure]
  aesop

/-- The policy as a chain of its steps: the written total over the default policy, then
the seats, the multiplier, the rate and last the ranges. -/
theorem quotaVisiting_eq (a : AdmissionSettings) (seats : List (String × Int))
    (ranges : List (String × RangeSettings)) :
    a.quotaVisiting seats ranges =
      applySeats seats { QuotaConfig.default with
        totalSeats := if a.totalSeats > 0 then a.totalSeats else QuotaConfig.default.totalSeats } >>= fun q =>
      (if a.multiplier.isEmpty then pure q.multiplier else readMultiplier a.multiplier) >>= fun m =>
      (if a.otherRegionRate.isEmpty then pure q.otherRegionRate else readRate a.otherRegionRate) >>= fun r =>
      applyRanges ranges { q with multiplier := m, otherRegionRate := r } := by
  have total : (if a.totalSeats > 0 then { QuotaConfig.default with totalSeats := a.totalSeats }
      else QuotaConfig.default) = { QuotaConfig.default with
        totalSeats := if a.totalSeats > 0 then a.totalSeats else QuotaConfig.default.totalSeats } := by
    split <;> rfl
  simp only [quotaVisiting, total]
  congr 1
  funext q
  split <;> split <;> simp

/-- A policy as the settings build it, their written maps visited in the orders given:
each field is the default one or the one written over it. -/
structure Builds (a : AdmissionSettings) (seats : List (String × Int))
    (ranges : List (String × RangeSettings)) (q : QuotaConfig) : Prop where
  totalSeats : q.totalSeats = if a.totalSeats > 0 then a.totalSeats else QuotaConfig.default.totalSeats
  seats : if seats = [] then q.seats = QuotaConfig.default.seats
    else writeKeyed "admission.seats: " (fun key n _ => seatCount key n) seats [] = .ok q.seats
  multiplier : if a.multiplier.isEmpty then q.multiplier = QuotaConfig.default.multiplier
    else readMultiplier a.multiplier = .ok q.multiplier
  otherRegionRate : if a.otherRegionRate.isEmpty then q.otherRegionRate = QuotaConfig.default.otherRegionRate
    else readRate a.otherRegionRate = .ok q.otherRegionRate
  ranges : writeKeyed "admission.ranges: " (fun key rc current => writtenRanges key rc (current.getD .fallback))
    ranges QuotaConfig.default.ranges = .ok q.ranges

theorem quotaVisiting_builds {a : AdmissionSettings} {seats : List (String × Int)}
    {ranges : List (String × RangeSettings)} {q : QuotaConfig}
    (built : a.quotaVisiting seats ranges = .ok q) : Builds a seats ranges q := by
  rw [quotaVisiting_eq] at built
  obtain ⟨seated, seatsStep, rest⟩ := Except.bind_eq_ok.mp built
  obtain ⟨m, multiplied, rest⟩ := Except.bind_eq_ok.mp rest
  obtain ⟨r, rated, ranged⟩ := Except.bind_eq_ok.mp rest
  obtain ⟨shape, seatsWritten⟩ := applySeats_eq_ok.mp seatsStep
  obtain ⟨shape', rangesWritten⟩ := applyRanges_eq_ok.mp ranged
  -- every field but the seats is still the default one after the seats are written
  generalize seated.seats = out at shape seatsWritten
  subst shape
  generalize q.ranges = out' at shape' rangesWritten
  subst shape'
  exact ⟨rfl, seatsWritten, ite_pure_eq_ok.mp multiplied, ite_pure_eq_ok.mp rated, rangesWritten⟩

/-! ### Acceptance -/

/-- Settings a policy is built from, their written maps visited in the orders given: every
seat key names a category with a count that is not negative, a written multiplier and rate
read as such, and every range key names a category with accepted ranges. -/
structure Acceptable (a : AdmissionSettings) (seats : List (String × Int))
    (ranges : List (String × RangeSettings)) : Prop where
  seats : ∀ entry ∈ seats, (∃ c, categoryKey entry.1 = .ok c) ∧ 0 ≤ entry.2
  multiplier : a.multiplier.isEmpty ∨ ∃ m, readMultiplier a.multiplier = .ok m
  otherRegionRate : a.otherRegionRate.isEmpty ∨ ∃ r, readRate a.otherRegionRate = .ok r
  ranges : ∀ entry ∈ ranges, (∃ c, categoryKey entry.1 = .ok c) ∧ RangesAccepted entry.2

/-- Acceptance asks about each entry alone, so any order of the entries will do. -/
theorem Acceptable.perm {a : AdmissionSettings} {seats seats' : List (String × Int)}
    {ranges ranges' : List (String × RangeSettings)} (seatOrder : seats.Perm seats')
    (rangeOrder : ranges.Perm ranges') (accepted : Acceptable a seats ranges) :
    Acceptable a seats' ranges' :=
  ⟨fun entry member => accepted.seats entry (seatOrder.mem_iff.mpr member), accepted.multiplier,
    accepted.otherRegionRate, fun entry member => accepted.ranges entry (rangeOrder.mem_iff.mpr member)⟩

theorem applySeats_ok_iff (seats : List (String × Int)) (q : QuotaConfig) :
    (∃ q', applySeats seats q = .ok q') ↔
      ∀ entry ∈ seats, (∃ c, categoryKey entry.1 = .ok c) ∧ 0 ≤ entry.2 := by
  by_cases empty : seats = []
  · subst empty
    exact ⟨fun _ => by simp, fun _ => ⟨q, rfl⟩⟩
  · -- a seat count is refused for its own value, never for the one it replaces
    have writes := @writeKeyed_ok_iff _ _ "admission.seats: "
      (fun key n (_ : Option Int) => seatCount key n) (fun _ _ _ => Iff.rfl) seats []
    constructor
    · rintro ⟨q', step⟩
      obtain ⟨-, written⟩ := applySeats_eq_ok.mp step
      rw [if_neg empty] at written
      intro entry member
      obtain ⟨named, x, counted⟩ := writes.mp ⟨_, written⟩ entry member
      exact ⟨named, (seatCount_eq_ok.mp counted).1⟩
    · intro accepted
      obtain ⟨out, written⟩ := writes.mpr fun entry member =>
        ⟨(accepted entry member).1, entry.2, seatCount_eq_ok.mpr ⟨(accepted entry member).2, rfl⟩⟩
      exact ⟨{ q with seats := out }, applySeats_eq_ok.mpr ⟨rfl, by simpa [empty] using written⟩⟩

theorem applyRanges_ok_iff (ranges : List (String × RangeSettings)) (q : QuotaConfig) :
    (∃ q', applyRanges ranges q = .ok q') ↔
      ∀ entry ∈ ranges, (∃ c, categoryKey entry.1 = .ok c) ∧ RangesAccepted entry.2 := by
  -- ranges are accepted or not whatever ranges they are written over
  have writes := @writeKeyed_ok_iff _ _ "admission.ranges: "
    (fun key rc (current : Option CategoryRanges) => writtenRanges key rc (current.getD .fallback))
    (fun key rc _ => (writtenRanges_ok_iff key rc _).trans (writtenRanges_ok_iff key rc _).symm) ranges q.ranges
  constructor
  · rintro ⟨q', step⟩
    obtain ⟨-, written⟩ := applyRanges_eq_ok.mp step
    intro entry member
    obtain ⟨named, accepted⟩ := writes.mp ⟨_, written⟩ entry member
    exact ⟨named, (writtenRanges_ok_iff _ _ _).mp accepted⟩
  · intro accepted
    obtain ⟨out, written⟩ := writes.mpr fun entry member =>
      ⟨(accepted entry member).1, (writtenRanges_ok_iff _ _ _).mpr (accepted entry member).2⟩
    exact ⟨{ q with ranges := out }, applyRanges_eq_ok.mpr ⟨rfl, written⟩⟩

/-- A policy is given exactly when the settings are acceptable. -/
theorem quotaVisiting_ok_iff (a : AdmissionSettings) (seats : List (String × Int))
    (ranges : List (String × RangeSettings)) :
    (∃ q, a.quotaVisiting seats ranges = .ok q) ↔ Acceptable a seats ranges := by
  simp only [quotaVisiting_eq]
  constructor
  · rintro ⟨q, built⟩
    obtain ⟨seated, seatsStep, rest⟩ := Except.bind_eq_ok.mp built
    obtain ⟨m, multiplied, rest⟩ := Except.bind_eq_ok.mp rest
    obtain ⟨r, rated, ranged⟩ := Except.bind_eq_ok.mp rest
    exact ⟨(applySeats_ok_iff _ _).mp ⟨_, seatsStep⟩, ite_pure_ok_iff.mp ⟨_, multiplied⟩,
      ite_pure_ok_iff.mp ⟨_, rated⟩, (applyRanges_ok_iff _ _).mp ⟨_, ranged⟩⟩
  · rintro ⟨seats, multiplier, rate, ranges⟩
    obtain ⟨seated, seatsStep⟩ := (applySeats_ok_iff _ _).mpr seats
    obtain ⟨m, multiplied⟩ := (@ite_pure_ok_iff _ _ seated.multiplier _).mpr multiplier
    obtain ⟨r, rated⟩ := (@ite_pure_ok_iff _ _ seated.otherRegionRate _).mpr rate
    obtain ⟨q, ranged⟩ := (applyRanges_ok_iff _ { seated with multiplier := m, otherRegionRate := r }).mpr ranges
    exact ⟨q, by rw [seatsStep, Except.ok_bind, multiplied, Except.ok_bind, rated, Except.ok_bind, ranged]⟩

/-! ### Refusals -/

theorem seatCount_eq_error {key msg : String} {n : Int} :
    seatCount key n = .error msg ↔
      n < 0 ∧ msg = "admission.seats." ++ key ++ ": negative seat count " ++ Text.ofInt n := by
  unfold seatCount
  split <;> simp [*, eq_comm]

theorem readMultiplier_eq_error {text msg : String} (refused : readMultiplier text = .error msg) :
    msg = "admission.multiplier: invalid value " ++ Text.quote text := by
  unfold readMultiplier at refused
  split at refused
  · split at refused
    · cases refused
    · cases refused
      rfl
  · cases refused
    rfl

theorem readRate_eq_error {text msg : String} (refused : readRate text = .error msg) :
    msg = "admission.other_region_rate: invalid value " ++ Text.quote text := by
  unfold readRate at refused
  split at refused
  · split at refused
    · cases refused
      rfl
    · cases refused
  · cases refused
    rfl

/-- A refused range names its category's key and which of its three ranges is refused. -/
theorem writtenRanges_eq_error {key msg : String} {rc : RangeSettings} {current : CategoryRanges}
    (refused : writtenRanges key rc current = .error msg) :
    ∃ range ∈ ["depth_interview", "ncs", "coding_test"], ∃ e,
      msg = "admission.ranges." ++ key ++ "." ++ range ++ ": " ++ e := by
  unfold writtenRanges at refused
  cases interview : boundOr (rc.depthInterview.getD []) current.depthInterview with
  | error e =>
    simp only [interview, Except.throw_eq_error, Except.error_bind, Except.error.injEq] at refused
    refine ⟨"depth_interview", by simp, e, ?_⟩
    rw [← refused, show ".depth_interview: " = "." ++ "depth_interview" ++ ": " from rfl]
    simp only [String.append_assoc]
  | ok i =>
    cases ncs : boundOr (rc.ncs.getD []) current.ncs with
    | error e =>
      simp only [interview, ncs, Except.throw_eq_error, Except.error_bind, pure_bind,
        Except.error.injEq] at refused
      refine ⟨"ncs", by simp, e, ?_⟩
      rw [← refused, show ".ncs: " = "." ++ "ncs" ++ ": " from rfl]
      simp only [String.append_assoc]
    | ok n =>
      simp only [interview, ncs, pure_bind] at refused
      split at refused
      · cases refused
      · cases coding : boundOr (rc.codingTest.getD []) ⟨Decimal.zero, Decimal.zero⟩ with
        | error e =>
          simp only [coding, Except.throw_eq_error, Except.error_bind, Except.error.injEq] at refused
          refine ⟨"coding_test", by simp, e, ?_⟩
          rw [← refused, show ".coding_test: " = "." ++ "coding_test" ++ ": " from rfl]
          simp only [String.append_assoc]
        | ok c =>
          simp only [coding] at refused
          cases refused

/-- A refused seat table reports an unknown key after `admission.seats: `, or a negative
count under the key that holds it. -/
theorem applySeats_eq_error {seats : List (String × Int)} {q : QuotaConfig} {msg : String}
    (refused : applySeats seats q = .error msg) :
    (∃ e, msg = "admission.seats: " ++ e) ∨ ∃ entry ∈ seats, entry.2 < 0 ∧
      msg = "admission.seats." ++ entry.1 ++ ": negative seat count " ++ Text.ofInt entry.2 := by
  unfold applySeats at refused
  split at refused
  · cases refused
  · rcases Except.bind_eq_error.mp refused with written | ⟨out, -, done⟩
    · rcases writeKeyed_error written with unknown | ⟨entry, member, current, counted⟩
      · exact Or.inl unknown
      · exact Or.inr ⟨entry, member, seatCount_eq_error.mp counted⟩
    · cases done

/-- A refused range table reports an unknown key after `admission.ranges: `, or the key
and the range refused. -/
theorem applyRanges_eq_error {ranges : List (String × RangeSettings)} {q : QuotaConfig} {msg : String}
    (refused : applyRanges ranges q = .error msg) :
    (∃ e, msg = "admission.ranges: " ++ e) ∨ ∃ entry ∈ ranges,
      ∃ range ∈ ["depth_interview", "ncs", "coding_test"], ∃ e,
        msg = "admission.ranges." ++ entry.1 ++ "." ++ range ++ ": " ++ e := by
  unfold applyRanges at refused
  rcases Except.bind_eq_error.mp refused with written | ⟨out, -, done⟩
  · rcases writeKeyed_error written with unknown | ⟨entry, member, current, ranged⟩
    · exact Or.inl unknown
    · exact Or.inr ⟨entry, member, writtenRanges_eq_error ranged⟩
  · cases done

/-- An optional written value is refused only when written and read wrong. -/
theorem ite_pure_eq_error {β : Type} {c : Bool} {held : β} {read : Except String β} {msg : String}
    (refused : (if c then pure held else read) = .error msg) : read = .error msg := by
  cases c
  · exact refused
  · cases refused

/-- Every refusal of a policy names the setting it refuses: it starts with `admission.`
and one of `seats`, `multiplier`, `other_region_rate` and `ranges`. -/
theorem quotaVisiting_error_names_setting {a : AdmissionSettings} {seats : List (String × Int)}
    {ranges : List (String × RangeSettings)} {msg : String}
    (refused : a.quotaVisiting seats ranges = .error msg) :
    ∃ setting ∈ ["seats", "multiplier", "other_region_rate", "ranges"], ∃ rest,
      msg = "admission." ++ setting ++ rest := by
  rw [quotaVisiting_eq] at refused
  rcases Except.bind_eq_error.mp refused with seatsRefused | ⟨q, -, rest⟩
  case inl =>
    refine ⟨"seats", by simp, ?_⟩
    rcases applySeats_eq_error seatsRefused with ⟨e, rfl⟩ | ⟨entry, -, -, rfl⟩
    · refine ⟨": " ++ e, ?_⟩
      rw [show "admission.seats: " = "admission." ++ "seats" ++ ": " from rfl]
      simp only [String.append_assoc]
    · refine ⟨"." ++ entry.1 ++ ": negative seat count " ++ Text.ofInt entry.2, ?_⟩
      rw [show "admission.seats." = "admission." ++ "seats" ++ "." from rfl]
      simp only [String.append_assoc]
  rcases Except.bind_eq_error.mp rest with multiplierRefused | ⟨m, -, rest⟩
  case inl =>
    refine ⟨"multiplier", by simp, ": invalid value " ++ Text.quote a.multiplier, ?_⟩
    rw [readMultiplier_eq_error (ite_pure_eq_error multiplierRefused),
      show "admission.multiplier: invalid value " = "admission." ++ "multiplier" ++ ": invalid value " from rfl]
    simp only [String.append_assoc]
  rcases Except.bind_eq_error.mp rest with rateRefused | ⟨r, -, rangesRefused⟩
  case inl =>
    refine ⟨"other_region_rate", by simp, ": invalid value " ++ Text.quote a.otherRegionRate, ?_⟩
    rw [readRate_eq_error (ite_pure_eq_error rateRefused),
      show "admission.other_region_rate: invalid value " =
        "admission." ++ "other_region_rate" ++ ": invalid value " from rfl]
    simp only [String.append_assoc]
  refine ⟨"ranges", by simp, ?_⟩
  rcases applyRanges_eq_error rangesRefused with ⟨e, rfl⟩ | ⟨entry, -, range, -, e, rfl⟩
  · refine ⟨": " ++ e, ?_⟩
    rw [show "admission.ranges: " = "admission." ++ "ranges" ++ ": " from rfl]
    simp only [String.append_assoc]
  · refine ⟨"." ++ entry.1 ++ "." ++ range ++ ": " ++ e, ?_⟩
    rw [show "admission.ranges." = "admission." ++ "ranges" ++ "." from rfl]
    simp only [String.append_assoc]

/-! ### Sanity -/

theorem getD_fallback_valid {current : Option CategoryRanges} (held : ∀ r ∈ current, r.Valid) :
    (current.getD .fallback).Valid := by
  cases current with
  | none => exact CategoryRanges.fallback_valid
  | some r => exact held r rfl

/-- Every policy the settings build is sane: the default one is, and every value written
over it passes a check that keeps it so. -/
theorem Builds.sane {a : AdmissionSettings} {seats : List (String × Int)}
    {ranges : List (String × RangeSettings)} {q : QuotaConfig} (built : Builds a seats ranges q) :
    q.Sane := by
  have rate : 0 ≤ q.otherRegionRate.value ∧ q.otherRegionRate.value ≤ 1 := by
    have read := built.otherRegionRate
    split at read
    · rw [read]
      exact ⟨QuotaConfig.default_sane.rateNonneg, QuotaConfig.default_sane.rateAtMostOne⟩
    · exact readRate_mem read
  refine ⟨?seats, ?multiplier, rate.1, rate.2, ?ranges⟩
  case seats =>
    have written := built.seats
    split at written
    · rw [written]
      exact QuotaConfig.default_sane.seats
    · refine writeKeyed_values (P := (0 ≤ ·)) (fun _ _ _ _ counted _ => ?_) (by simp) written
      obtain ⟨nonneg, rfl⟩ := seatCount_eq_ok.mp counted
      exact nonneg
  case multiplier =>
    have read := built.multiplier
    split at read
    · rw [read]
      exact QuotaConfig.default_sane.multiplier
    · exact readMultiplier_pos read
  case ranges =>
    exact writeKeyed_values (P := CategoryRanges.Valid)
      (fun _ _ _ _ written held => writtenRanges_valid (getD_fallback_valid held) written)
      QuotaConfig.default_sane.ranges built.ranges

/-- A policy the settings give, their written maps visited in any order, has no negative
seat count, a positive multiplier, a rate from 0 to 1 and valid ranges for every
category. Each target is the exact ceiling of seats times multiplier taken as a word, so
while that ceiling is a word the target is the ceiling itself and the regional cap lies
between 0 and the target. -/
theorem accepted_policy_targets {a : AdmissionSettings} {seats : List (String × Int)}
    {ranges : List (String × RangeSettings)} {q : QuotaConfig}
    (accepted : a.quotaVisiting seats ranges = .ok q) (c : Category) :
    0 ≤ q.seatsOf c ∧ 0 < q.multiplier.value ∧ 0 ≤ q.otherRegionRate.value ∧
      q.otherRegionRate.value ≤ 1 ∧ (q.rangesFor c).Valid ∧
      q.firstRoundTarget c = Word.wrap ⌈(q.seatsOf c : ℚ) * q.multiplier.value⌉ ∧
      (⌈(q.seatsOf c : ℚ) * q.multiplier.value⌉ ≤ Word.maxValue →
        q.firstRoundTarget c = ⌈(q.seatsOf c : ℚ) * q.multiplier.value⌉ ∧
        0 ≤ q.regionalCap (q.firstRoundTarget c) ∧
        q.regionalCap (q.firstRoundTarget c) ≤ q.firstRoundTarget c) := by
  have sane := (quotaVisiting_builds accepted).sane
  exact ⟨sane.seatsOf_nonneg c, sane.multiplier, sane.rateNonneg, sane.rateAtMostOne,
    sane.rangesFor_valid c, q.firstRoundTarget_eq c, sane.targets_of_fits c⟩

/-- Ten regular seats, the multiplier left at its default of 1.3. -/
def tenRegularSeats : AdmissionSettings := { seats := some [("regular", 10)] }

theorem ten_regular_seats_target_thirteen :
    ∃ q, tenRegularSeats.quotaVisiting [("regular", 10)] [] = .ok q ∧
      q.firstRoundTarget .regular = 13 ∧ 0 ≤ q.regionalCap 13 ∧ q.regionalCap 13 ≤ 13 := by
  have computed : (tenRegularSeats.quotaVisiting [("regular", 10)] []).toOption.map
      (fun q => (q.seatsOf .regular, q.multiplier.mantissa, q.multiplier.exponent,
        q.firstRoundTarget .regular)) =
      some (10, 13, -1, 13) := by
    decide +kernel
  cases built : tenRegularSeats.quotaVisiting [("regular", 10)] [] with
  | error e => simp [built, Except.toOption] at computed
  | ok q =>
    simp only [built, Except.toOption, Option.map_some, Option.some.injEq, Prod.mk.injEq] at computed
    obtain ⟨seats, mantissa, exponent, target⟩ := computed
    have ceiling : ⌈(q.seatsOf .regular : ℚ) * q.multiplier.value⌉ = 13 := by
      rw [seats, Decimal.value, mantissa, exponent]
      norm_num
    obtain ⟨-, -, -, -, -, -, whileWord⟩ := accepted_policy_targets built .regular
    have bounds := whileWord (by rw [ceiling]; decide)
    rw [target] at bounds
    exact ⟨q, rfl, target, bounds.2⟩

/-- Ten regular seats at a multiplier of `1e30`, which the settings accept. -/
def hugeMultiplier : AdmissionSettings := { seats := some [("regular", 10)], multiplier := "1e30" }

/-- The exact target of `10 × 1e30` is past the largest word: the target the policy sets
wraps to a negative number, and so does its regional cap. -/
theorem huge_multiplier_target_wraps :
    ∃ q, hugeMultiplier.quotaVisiting [("regular", 10)] [] = .ok q ∧
      ⌈(q.seatsOf .regular : ℚ) * q.multiplier.value⌉ = 10 ^ 31 ∧
      q.firstRoundTarget .regular = -4570789518076018688 ∧
      q.regionalCap (q.firstRoundTarget .regular) = -2285394759038009344 := by
  have computed : (hugeMultiplier.quotaVisiting [("regular", 10)] []).toOption.map
      (fun q => (q.seatsOf .regular, q.multiplier.mantissa, q.multiplier.exponent,
        q.firstRoundTarget .regular, q.regionalCap (q.firstRoundTarget .regular))) =
      some (10, 1, 30, -4570789518076018688, -2285394759038009344) := by
    decide +kernel
  cases built : hugeMultiplier.quotaVisiting [("regular", 10)] [] with
  | error e => simp [built, Except.toOption] at computed
  | ok q =>
    simp only [built, Except.toOption, Option.map_some, Option.some.injEq, Prod.mk.injEq] at computed
    obtain ⟨seats, mantissa, exponent, target, cap⟩ := computed
    refine ⟨q, rfl, ?_, target, cap⟩
    rw [seats, Decimal.value, mantissa, exponent]
    norm_num

/-! ### Orders of visiting -/

theorem namedCategories_perm {α : Type} {entries entries' : List (String × α)}
    (order : entries.Perm entries') : (namedCategories entries).Perm (namedCategories entries') :=
  order.filterMap _

/-- A value written or left at its default reads the same in every run. -/
theorem written_eq {β : Type} {c : Bool} {held x y : β} {read : Except String β}
    (first : if c then x = held else read = .ok x) (second : if c then y = held else read = .ok y) :
    x = y := by
  cases c with
  | true => exact first.trans second.symm
  | false => exact Except.ok.inj ((first : read = .ok x).symm.trans second)

/-- Two builds from orders of the same entries read alike when no two keys of a map name
one category. -/
theorem Builds.agrees {a : AdmissionSettings} {seats seats' : List (String × Int)}
    {ranges ranges' : List (String × RangeSettings)} {q q' : QuotaConfig}
    (built : Builds a seats ranges q) (built' : Builds a seats' ranges' q')
    (seatOrder : seats.Perm seats') (rangeOrder : ranges.Perm ranges')
    (distinctSeats : (namedCategories seats).Nodup) (distinctRanges : (namedCategories ranges).Nodup) :
    q.Agrees q' where
  totalSeats := built.totalSeats.trans built'.totalSeats.symm
  seats k := by
    have written := built.seats
    have written' := built'.seats
    have bothEmpty : seats' = [] ↔ seats = [] := by
      rw [← List.length_eq_zero_iff, ← List.length_eq_zero_iff, seatOrder.length_eq]
    by_cases empty : seats = []
    · rw [if_pos empty] at written
      rw [if_pos (bothEmpty.mpr empty)] at written'
      rw [written, written']
    · rw [if_neg empty] at written
      rw [if_neg (mt bothEmpty.mp empty)] at written'
      exact writeKeyed_lookupKey_perm seatOrder distinctSeats written written' k
  multiplier := written_eq built.multiplier built'.multiplier
  otherRegionRate := written_eq built.otherRegionRate built'.otherRegionRate
  ranges k := writeKeyed_lookupKey_perm rangeOrder distinctRanges built.ranges built'.ranges k

theorem basesVisiting_ok_iff (written : List (String × Int)) :
    (∃ x, basesVisiting written = .ok x) ↔ ∀ entry ∈ written, ∃ c, categoryKey entry.1 = .ok c := by
  unfold basesVisiting
  by_cases empty : written = []
  · subst empty
    simp
  · have given := @writeKeyed_ok_iff _ _ "admission.examination_number_base: "
      (fun _ base (_ : Option Int) => pure base) (fun _ _ _ => Iff.rfl) written []
    rw [if_neg (by simpa using empty), given]
    simp [pure, Except.pure]

/-- Bases are refused only for a key that names no category. -/
theorem basesVisiting_eq_error {written : List (String × Int)} {msg : String}
    (refused : basesVisiting written = .error msg) :
    ∃ e, msg = "admission.examination_number_base: " ++ e := by
  unfold basesVisiting at refused
  split at refused
  · cases refused
  · rcases writeKeyed_error refused with unknown | ⟨entry, -, current, valued⟩
    · exact unknown
    · cases valued

theorem basesVisiting_lookupKey_perm {written written' : List (String × Int)} {x x' : List (String × Int)}
    (order : written.Perm written') (distinct : (namedCategories written).Nodup)
    (given : basesVisiting written = .ok x) (given' : basesVisiting written' = .ok x') (k : String) :
    lookupKey x k = lookupKey x' k := by
  unfold basesVisiting at given given'
  rw [← order.isEmpty_eq] at given'
  by_cases empty : written.isEmpty
  · rw [if_pos empty] at given given'
    rw [← Except.ok.inj given, ← Except.ok.inj given']
  · rw [if_neg empty] at given given'
    exact writeKeyed_lookupKey_perm order distinct given given' k

/-- Settings mean the same in every order their written maps may be visited in, as far as
that can hold. Whether a policy is given depends only on which entries the maps hold, as
`Acceptable` says, and whether bases are given only on every base key naming a category;
so never on the order. When no two keys of a map name one category, every order gives
policies that read alike and bases that agree under every key. -/
theorem settings_alike_in_every_order (a : AdmissionSettings)
    {seats seats' : List (String × Int)} {ranges ranges' : List (String × RangeSettings)}
    {bases bases' : List (String × Int)}
    (seatOrder : seats.Perm (a.seats.getD [])) (seatOrder' : seats'.Perm (a.seats.getD []))
    (rangeOrder : ranges.Perm (a.ranges.getD [])) (rangeOrder' : ranges'.Perm (a.ranges.getD []))
    (baseOrder : bases.Perm (a.examinationNumbers.getD []))
    (baseOrder' : bases'.Perm (a.examinationNumbers.getD [])) :
    ((∃ q, a.quotaVisiting seats ranges = .ok q) ↔ Acceptable a (a.seats.getD []) (a.ranges.getD [])) ∧
      ((∃ q, a.quotaVisiting seats ranges = .ok q) ↔ ∃ q, a.quotaVisiting seats' ranges' = .ok q) ∧
      ((∃ x, basesVisiting bases = .ok x) ↔
        ∀ entry ∈ a.examinationNumbers.getD [], ∃ c, categoryKey entry.1 = .ok c) ∧
      ((∃ x, basesVisiting bases = .ok x) ↔ ∃ x, basesVisiting bases' = .ok x) ∧
      ((namedCategories (a.seats.getD [])).Nodup → (namedCategories (a.ranges.getD [])).Nodup →
        ∀ q q', a.quotaVisiting seats ranges = .ok q → a.quotaVisiting seats' ranges' = .ok q' →
          q.Agrees q') ∧
      ((namedCategories (a.examinationNumbers.getD [])).Nodup →
        ∀ x x', basesVisiting bases = .ok x → basesVisiting bases' = .ok x' →
          ∀ k, lookupKey x k = lookupKey x' k) := by
  -- acceptance of any order is acceptance of the written maps themselves
  have policyOk {s : List (String × Int)} {r : List (String × RangeSettings)}
      (seatOrder : s.Perm (a.seats.getD [])) (rangeOrder : r.Perm (a.ranges.getD [])) :
      (∃ q, a.quotaVisiting s r = .ok q) ↔ Acceptable a (a.seats.getD []) (a.ranges.getD []) :=
    (quotaVisiting_ok_iff a s r).trans
      ⟨Acceptable.perm seatOrder rangeOrder, Acceptable.perm seatOrder.symm rangeOrder.symm⟩
  have basesOk {b : List (String × Int)} (order : b.Perm (a.examinationNumbers.getD [])) :
      (∃ x, basesVisiting b = .ok x) ↔
        ∀ entry ∈ a.examinationNumbers.getD [], ∃ c, categoryKey entry.1 = .ok c :=
    (basesVisiting_ok_iff b).trans
      ⟨fun named entry member => named entry (order.mem_iff.mpr member),
        fun named entry member => named entry (order.mem_iff.mp member)⟩
  refine ⟨policyOk seatOrder rangeOrder,
    (policyOk seatOrder rangeOrder).trans (policyOk seatOrder' rangeOrder').symm,
    basesOk baseOrder, (basesOk baseOrder).trans (basesOk baseOrder').symm, ?agree, ?agreeBases⟩
  case agree =>
    intro distinctSeats distinctRanges q q' built built'
    exact (quotaVisiting_builds built).agrees (quotaVisiting_builds built')
      (seatOrder.trans seatOrder'.symm) (rangeOrder.trans rangeOrder'.symm)
      ((namedCategories_perm seatOrder).nodup_iff.mpr distinctSeats)
      ((namedCategories_perm rangeOrder).nodup_iff.mpr distinctRanges)
  case agreeBases =>
    intro distinct x x' given given'
    exact basesVisiting_lookupKey_perm (baseOrder.trans baseOrder'.symm)
      ((namedCategories_perm baseOrder).nodup_iff.mpr distinct) given given'

/-- Seats and bases for two categories, each named once. -/
def twoCategories : AdmissionSettings :=
  { seats := some [("regular", 3), ("meister_talent", 2)],
    examinationNumbers := some [("REGULAR", 100), ("MEISTER_TALENT", 200)] }

theorem two_categories_alike_in_both_orders :
    ∃ q q', twoCategories.quotaVisiting [("regular", 3), ("meister_talent", 2)] [] = .ok q ∧
      twoCategories.quotaVisiting [("meister_talent", 2), ("regular", 3)] [] = .ok q' ∧ q.Agrees q' := by
  obtain ⟨-, sameOk, -, -, agree, -⟩ := settings_alike_in_every_order twoCategories (List.Perm.refl _)
    (List.Perm.swap ("regular", 3) ("meister_talent", 2) []) (List.Perm.refl []) (List.Perm.refl [])
    (List.Perm.refl _) (List.Perm.refl _)
  have given : (twoCategories.quotaVisiting [("regular", 3), ("meister_talent", 2)] []).toOption.isSome := by
    decide +kernel
  cases built : twoCategories.quotaVisiting [("regular", 3), ("meister_talent", 2)] [] with
  | error e => simp [built, Except.toOption] at given
  | ok q =>
    obtain ⟨q', built'⟩ := sameOk.mp ⟨q, built⟩
    exact ⟨q, q', rfl, built', agree (by decide +kernel) (by decide +kernel) q q' built built'⟩

/-- Seats that name the regular category twice, by its code and by its lower-case code. -/
def aliasedSeats : AdmissionSettings := { seats := some [("REGULAR", 1), ("regular", 2)] }

/-- Visited as written, which is key order, the lower-case key comes last and its two seats
stand; visited the other way round, the single seat does. -/
theorem aliased_seats_follow_visiting_order :
    [("regular", 2), ("REGULAR", 1)].Perm (aliasedSeats.seats.getD []) ∧
      (aliasedSeats.quotaVisiting (aliasedSeats.seats.getD []) []).toOption.map
        (·.seatsOf .regular) = some 2 ∧
      (aliasedSeats.quotaVisiting [("regular", 2), ("REGULAR", 1)] []).toOption.map
        (·.seatsOf .regular) = some 1 :=
  ⟨List.Perm.swap _ _ [], by decide +kernel, by decide +kernel⟩

end Admissions.AdmissionSettings
