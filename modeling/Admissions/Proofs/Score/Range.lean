import Mathlib.Tactic.Linarith
import Admissions.Proofs.Decimal
import Admissions.Proofs.Roster.Numbering
import Admissions.Score.FirstRound

namespace Admissions

theorem Word.wrap_eq_self {i : Int} (fits : Word.fits i = true) : Word.wrap i = i := by
  simp only [Word.fits, Bool.and_eq_true, decide_eq_true_eq] at fits
  exact Word.wrap_of_fits fits.1 fits.2

theorem Word.fits_of_nonneg {i : Int} (nonneg : 0 ≤ i) (bounded : i ≤ Word.maxValue) :
    Word.fits i = true := by
  have half : Int.pow 2 63 = 9223372036854775808 := by decide
  simp only [Word.fits, Word.minValue, half, Bool.and_eq_true, decide_eq_true_eq]
  exact ⟨by omega, bounded⟩

namespace FormType

/-- The least subject score of a form type's scale: 80 on the general scale of the general
and supernumerary forms, 48 on the special scale. -/
def subjectFloor (t : FormType) : ℚ := if t.isSpecial then 48 else 80

/-- The greatest subject score of a form type's scale: 200 and 120. -/
def subjectCeiling (t : FormType) : ℚ := if t.isSpecial then 120 else 200

end FormType

namespace Score

open Decimal

theorem foldr_add_nonneg {l : List Int} (nonneg : ∀ x ∈ l, 0 ≤ x) : 0 ≤ l.foldr (· + ·) 0 := by
  induction l with
  | nil => exact Int.le_refl 0
  | cons x rest ih =>
    have head := nonneg x List.mem_cons_self
    have tail := ih fun y member => nonneg y (List.mem_cons_of_mem x member)
    simp only [List.foldr_cons]
    omega

theorem mem_of_reportedYears {α : Type} {l : List (Option α)} {years : List α}
    (reported : reportedYears l = some years) : ∀ y ∈ years, some y ∈ l := by
  induction l generalizing years with
  | nil =>
    cases reported
    simp
  | cons x rest ih =>
    cases x with
    | none => cases reported
    | some y =>
      obtain ⟨later, found, rfl⟩ := Option.map_eq_some_iff.mp reported
      rintro z (_ | ⟨_, member⟩)
      · exact List.mem_cons_self
      · exact List.mem_cons_of_mem _ (ih found z member)

/-! ### Subjects -/

theorem achievementPoints_mem (level : String) :
    0 ≤ achievementPoints level ∧ achievementPoints level ≤ 5 := by
  unfold achievementPoints
  split <;> decide

/-- A subject's points lie between none and five per unit of its weight, which is positive. -/
theorem subjectPoints_mem (s : Subject) :
    0 ≤ (subjectPoints s).1 ∧ (subjectPoints s).1 ≤ 5 * (subjectPoints s).2 ∧ 0 < (subjectPoints s).2 := by
  have level := achievementPoints_mem s.achievementLevel
  unfold subjectPoints
  split <;> (dsimp only; omega)

/-- The points of a list of subjects, as `average` adds them. -/
def pointTotal (subjects : List Subject) : Int :=
  (subjects.map fun s => (subjectPoints s).1).foldr (· + ·) 0

/-- The weight of a list of subjects, as `average` adds it. -/
def weightTotal (subjects : List Subject) : Int :=
  (subjects.map fun s => (subjectPoints s).2).foldr (· + ·) 0

theorem average_eq (subjects : List Subject) :
    average subjects = if weightTotal subjects = 0 then Decimal.zero
      else Decimal.ofInt (pointTotal subjects) / Decimal.ofInt (weightTotal subjects) := rfl

theorem pointTotal_mem (subjects : List Subject) :
    0 ≤ pointTotal subjects ∧ pointTotal subjects ≤ 5 * weightTotal subjects ∧ 0 ≤ weightTotal subjects := by
  induction subjects with
  | nil => simp [pointTotal, weightTotal]
  | cons s rest ih =>
    have head := subjectPoints_mem s
    simp only [pointTotal, weightTotal, List.map_cons, List.foldr_cons] at ih ⊢
    omega

/-- An average, rounded at sixteen places, of points worth between nothing and five per
unit of weight lies between 0 and 5. -/
theorem average_value_mem (subjects : List Subject) :
    0 ≤ (average subjects).value ∧ (average subjects).value ≤ 5 := by
  obtain ⟨pointsNonneg, pointsLe, weightNonneg⟩ := pointTotal_mem subjects
  rw [average_eq]
  split
  · simp
  · rename_i weighed
    have positive : 0 < weightTotal subjects := by omega
    have scale : (0 : Int) < pow10 16 := by decide
    have numerator := Int.mul_nonneg pointsNonneg scale.le
    have scaled : pointTotal subjects * pow10 16 ≤ (5 * pow10 16) * weightTotal subjects := by
      nlinarith
    have low : (0 : ℚ) ≤ roundQuotient (pointTotal subjects * pow10 16) (weightTotal subjects) := by
      exact_mod_cast roundQuotient_nonneg numerator positive
    have high : (roundQuotient (pointTotal subjects * pow10 16) (weightTotal subjects) : ℚ) ≤ 5 * 10 ^ 16 := by
      have := roundQuotient_le numerator positive scaled
      rw [← pow10_cast]
      exact_mod_cast this
    rw [value_ofInt_div weighed]
    constructor
    · exact div_nonneg low (by positivity)
    · rw [div_le_iff₀ (by positivity)]
      exact high

/-- The value of a scale's subject score, from the values of its averages. -/
theorem subjectScore_value (sc : Scale) (subjects : List Subject) (qualifying : Bool) :
    (sc.subjectScore subjects qualifying).value =
      if qualifying then sc.base.value + sc.qualifyingWeight.value * 2 * (average subjects).value
      else sc.base.value + sc.secondYearWeight.value *
          ((semesterAverage subjects 2 1).value + (semesterAverage subjects 2 2).value) +
        sc.thirdYearWeight.value * 2 * (semesterAverage subjects 3 1).value := by
  unfold Scale.subjectScore
  split <;> simp [value_add, value_mul]

/-- A scale's subject score lies between its base and any `top` at least its base plus ten
times its year weights and its base plus ten times its qualifying weight: averages lie
between 0 and 5, and the years' averages count twice. -/
theorem subjectScore_mem (sc : Scale) (top : ℚ) (second : 0 ≤ sc.secondYearWeight.value)
    (third : 0 ≤ sc.thirdYearWeight.value) (qualifies : 0 ≤ sc.qualifyingWeight.value)
    (yearsTop : sc.base.value + 10 * sc.secondYearWeight.value + 10 * sc.thirdYearWeight.value ≤ top)
    (qualifyingTop : sc.base.value + 10 * sc.qualifyingWeight.value ≤ top)
    (subjects : List Subject) (qualifying : Bool) :
    sc.base.value ≤ (sc.subjectScore subjects qualifying).value ∧
      (sc.subjectScore subjects qualifying).value ≤ top := by
  have all := average_value_mem subjects
  have first := average_value_mem (subjects.filter fun s => s.grade = 2 ∧ s.semester = 1)
  have secondSemester := average_value_mem (subjects.filter fun s => s.grade = 2 ∧ s.semester = 2)
  have thirdYear := average_value_mem (subjects.filter fun s => s.grade = 3 ∧ s.semester = 1)
  rw [subjectScore_value]
  unfold semesterAverage
  split
  · constructor <;> nlinarith
  · constructor <;> nlinarith

theorem generalScale_mem (subjects : List Subject) (qualifying : Bool) :
    80 ≤ (generalScale.subjectScore subjects qualifying).value ∧
      (generalScale.subjectScore subjects qualifying).value ≤ 200 := by
  have within := subjectScore_mem generalScale 200 (by norm_num [generalScale, value_mk])
    (by norm_num [generalScale, value_mk]) (by norm_num [generalScale, value_mk])
    (by norm_num [generalScale, value_mk]) (by norm_num [generalScale, value_mk]) subjects qualifying
  simpa [generalScale] using within

theorem specialScale_mem (subjects : List Subject) (qualifying : Bool) :
    48 ≤ (specialScale.subjectScore subjects qualifying).value ∧
      (specialScale.subjectScore subjects qualifying).value ≤ 120 := by
  have within := subjectScore_mem specialScale 120 (by norm_num [specialScale, value_mk])
    (by norm_num [specialScale, value_mk]) (by norm_num [specialScale, value_mk])
    (by norm_num [specialScale, value_mk]) (by norm_num [specialScale, value_mk]) subjects qualifying
  simpa [specialScale] using within

/-- A form of a known type is scored on its type's scale, within that scale's bounds. -/
theorem subjectGrade_mem {a : Application} {t : FormType} (typed : FormType.ofCode? a.formType = some t) :
    t.subjectFloor ≤ (subjectGrade a).value ∧ (subjectGrade a).value ≤ t.subjectCeiling := by
  have special : t.isSpecial = !(t.isRegular || t.isSupernumerary) := by
    simp [FormType.isSpecial]
  unfold subjectGrade scaleOf
  rw [typed]
  dsimp only
  cases general : (t.isRegular || t.isSupernumerary)
  · simpa [FormType.subjectFloor, FormType.subjectCeiling, special, general] using
      specialScale_mem _ _
  · simpa [FormType.subjectFloor, FormType.subjectCeiling, special, general] using
      generalScale_mem _ _

/-! ### Attendance -/

def absenceTotal (years : List Attendance) : Int := (years.map (·.absence)).foldr (· + ·) 0

/-- Lesser marks (lateness, early leave and class absence) over the reported years, added
exactly. -/
def lesserTotal (years : List Attendance) : Int :=
  (years.map fun y => y.lateness + y.earlyLeave + y.classAbsence).foldr (· + ·) 0

/-- Absences with a third of the lesser marks, cut toward zero. -/
def convertedAbsences (years : List Attendance) : Int := absenceTotal years + (lesserTotal years).tdiv 3

/-- The attendance score the rule gives without word limits: eighteen less the converted
absences, and 0 past sixteen. -/
def exactAttendance (years : List Attendance) : Int :=
  if convertedAbsences years > 16 then 0 else 18 - convertedAbsences years

/-- The attendance sums of reported years stay words: the absences, the lesser marks, the
converted absences, and eighteen less those. -/
structure AttendanceFits (years : List Attendance) : Prop where
  absences : Word.fits (absenceTotal years) = true
  lesser : Word.fits (lesserTotal years) = true
  converted : Word.fits (convertedAbsences years) = true
  remaining : Word.fits (18 - convertedAbsences years) = true

/-- While its sums stay words, attendance is scored by the rule as stated. -/
theorem attendanceOf_eq_exact {years : List Attendance} (fits : AttendanceFits years) :
    attendanceOf years = exactAttendance years := by
  have converted : Word.wrap (Word.wrap (absenceTotal years) + (Word.wrap (lesserTotal years)).tdiv 3) =
      convertedAbsences years := by
    rw [Word.wrap_eq_self fits.absences, Word.wrap_eq_self fits.lesser]
    exact Word.wrap_eq_self fits.converted
  change (if Word.wrap (Word.wrap (absenceTotal years) + (Word.wrap (lesserTotal years)).tdiv 3) > 16 then 0
    else Word.wrap (18 - Word.wrap (Word.wrap (absenceTotal years) + (Word.wrap (lesserTotal years)).tdiv 3))) = _
  rw [converted, Word.wrap_eq_self fits.remaining]
  rfl

section Counts

variable {years : List Attendance}
  (counts : ∀ y ∈ years, 0 ≤ y.absence ∧ 0 ≤ y.lateness ∧ 0 ≤ y.earlyLeave ∧ 0 ≤ y.classAbsence)
include counts

theorem totals_nonneg : 0 ≤ absenceTotal years ∧ 0 ≤ lesserTotal years := by
  constructor
  · refine foldr_add_nonneg fun x member => ?_
    obtain ⟨y, kept, rfl⟩ := List.mem_map.mp member
    exact (counts y kept).1
  · refine foldr_add_nonneg fun x member => ?_
    obtain ⟨y, kept, rfl⟩ := List.mem_map.mp member
    have := counts y kept
    omega

theorem convertedAbsences_nonneg : 0 ≤ convertedAbsences years := by
  obtain ⟨absences, lesser⟩ := totals_nonneg counts
  have := Int.tdiv_nonneg lesser (by decide : (0 : Int) ≤ 3)
  unfold convertedAbsences
  omega

/-- Counts that are not negative, whose absences and lesser marks add up to at most the
largest word, keep every attendance sum a word. -/
theorem AttendanceFits.of_nonneg (bounded : absenceTotal years + lesserTotal years ≤ Word.maxValue) :
    AttendanceFits years := by
  obtain ⟨absences, lesser⟩ := totals_nonneg counts
  have third : (lesserTotal years).tdiv 3 = lesserTotal years / 3 := Int.tdiv_eq_ediv_of_nonneg lesser
  have largest : Word.maxValue = 9223372036854775807 := by decide
  refine ⟨Word.fits_of_nonneg absences (by omega), Word.fits_of_nonneg lesser (by omega), ?_, ?_⟩
  · exact Word.fits_of_nonneg (by unfold convertedAbsences; omega) (by unfold convertedAbsences; omega)
  · have half : Int.pow 2 63 = 9223372036854775808 := by decide
    simp only [Word.fits, Word.minValue, largest, half, Bool.and_eq_true, decide_eq_true_eq]
    unfold convertedAbsences
    omega

end Counts

theorem exactAttendance_mem {years : List Attendance} (converted : 0 ≤ convertedAbsences years) :
    0 ≤ exactAttendance years ∧ exactAttendance years ≤ 18 := by
  unfold exactAttendance
  split <;> omega

/-- Attendance lies between 0 and 18 for counts that are not negative while their sums stay
below the largest word; an unreported year or the qualification examination gives 14. -/
theorem attendance_mem {a : Application}
    (counts : ∀ y, some y ∈ a.grade.attendance →
      0 ≤ y.absence ∧ 0 ≤ y.lateness ∧ 0 ≤ y.earlyLeave ∧ 0 ≤ y.classAbsence)
    (withinWords : ∀ years, reportedYears a.grade.attendance = some years →
      absenceTotal years + lesserTotal years ≤ Word.maxValue) :
    0 ≤ attendance a ∧ attendance a ≤ 18 := by
  unfold attendance
  split
  · decide
  · split
    · rename_i years reported
      have yearCounts := fun y member => counts y (mem_of_reportedYears reported y member)
      have fits := AttendanceFits.of_nonneg yearCounts (withinWords years reported)
      rw [attendanceOf_eq_exact fits]
      exact exactAttendance_mem (convertedAbsences_nonneg yearCounts)
    · decide

/-! ### Volunteering and bonus -/

/-- From fifteen to thirty hours, volunteering gives eighteen less half a point per missing
hour, rounded half away from zero. -/
theorem volunteerOf_of_mem {total : Int} (low : 15 ≤ total) (high : total ≤ 30) :
    volunteerOf total = roundQuotient (5 * total + 30) 10 := by
  have below : ¬ total < 15 := by omega
  have above : ¬ total > 30 := by omega
  simp only [volunteerOf, below, above, if_false]
  change (Decimal.round (add (ofInt 18) (neg (mul (ofInt (30 - total)) ⟨5, -1⟩))) 0).intPart = _
  simp [Decimal.round, add, neg, mul, ofInt, mantissaAt, intPart, rescale, pow10]
  congr 1
  omega

/-- Volunteering gives nothing under fifteen hours and 11 to 18 from there. -/
theorem volunteerOf_mem (total : Int) :
    volunteerOf total = 0 ∨ 11 ≤ volunteerOf total ∧ volunteerOf total ≤ 18 := by
  by_cases few : total < 15
  · simp [volunteerOf, few]
  by_cases many : total > 30
  · simp [volunteerOf, few, many]
  rw [volunteerOf_of_mem (by omega) (by omega), roundQuotient_of_nonneg (by omega) (by decide)]
  split <;> omega

theorem volunteer_mem (a : Application) :
    volunteer a = 0 ∨ 11 ≤ volunteer a ∧ volunteer a ≤ 18 := by
  unfold volunteer
  split
  · decide
  · split
    · exact volunteerOf_mem _
    · decide

theorem certificatePoints_nonneg (c : String) : 0 ≤ certificatePoints c := by
  unfold certificatePoints
  split <;> decide

theorem bonus_mem (a : Application) : 0 ≤ bonus a ∧ bonus a ≤ 4 := by
  have points : 0 ≤ (a.grade.certificates.map certificatePoints).foldr (· + ·) 0 :=
    foldr_add_nonneg fun x member => by
      obtain ⟨c, -, rfl⟩ := List.mem_map.mp member
      exact certificatePoints_nonneg c
  unfold bonus
  omega

end Score

/-! ### The first-round breakdown -/

/-- The bounds of a first-round breakdown on the scale of form type `t`: the subject score
within the scale, attendance from 0 to 18, volunteering 0 or from 11 to 18, a bonus from 0
to 4, and a first-round score from the scale's floor to its ceiling plus 40. -/
structure ScoreBreakdown.WithinScale (t : FormType) (s : ScoreBreakdown) : Prop where
  subjectGrade : t.subjectFloor ≤ s.subjectGrade.value ∧ s.subjectGrade.value ≤ t.subjectCeiling
  attendance : 0 ≤ s.attendance.value ∧ s.attendance.value ≤ 18
  volunteer : s.volunteer.value = 0 ∨ 11 ≤ s.volunteer.value ∧ s.volunteer.value ≤ 18
  bonus : 0 ≤ s.bonus.value ∧ s.bonus.value ≤ 4
  firstRound : ∃ f, s.firstRound = some f ∧ t.subjectFloor ≤ f.value ∧ f.value ≤ t.subjectCeiling + 40

namespace Score

open Decimal

/-- The first-round breakdown of a form is its four parts and their sum. -/
theorem firstRound_parts (a : Application) :
    (firstRound a).subjectGrade = subjectGrade a ∧ (firstRound a).attendance = ofInt (attendance a) ∧
      (firstRound a).volunteer = ofInt (volunteer a) ∧ (firstRound a).bonus = ofInt (bonus a) ∧
      (firstRound a).firstRound = some (subjectGrade a + ofInt (attendance a) + ofInt (volunteer a) +
        ofInt (bonus a)) :=
  ⟨rfl, rfl, rfl, rfl, rfl⟩

/-- First-round scores stay inside their scale. For a form of a known type whose attendance
counts are not negative and, over the reported years, add up (absences and lesser marks)
to at most the largest word, the subject score lies on its type's scale (80 to 200 for the
general and supernumerary forms, 48 to 120 for the special ones), attendance between 0 and
18, volunteering at 0 or between 11 and 18, the bonus between 0 and 4, and the first-round
score between the scale's floor and its ceiling plus 40. -/
theorem first_round_within_scale {a : Application} {t : FormType}
    (typed : FormType.ofCode? a.formType = some t)
    (counts : ∀ y, some y ∈ a.grade.attendance →
      0 ≤ y.absence ∧ 0 ≤ y.lateness ∧ 0 ≤ y.earlyLeave ∧ 0 ≤ y.classAbsence)
    (withinWords : ∀ years, reportedYears a.grade.attendance = some years →
      absenceTotal years + lesserTotal years ≤ Word.maxValue) :
    (firstRound a).WithinScale t := by
  obtain ⟨subjects, attended, volunteered, bonused, summed⟩ := firstRound_parts a
  have subject := subjectGrade_mem typed
  have attending : (0 : ℚ) ≤ attendance a ∧ (attendance a : ℚ) ≤ 18 := by
    have := attendance_mem counts withinWords
    exact ⟨by exact_mod_cast this.1, by exact_mod_cast this.2⟩
  have volunteering : (volunteer a : ℚ) = 0 ∨ 11 ≤ (volunteer a : ℚ) ∧ (volunteer a : ℚ) ≤ 18 := by
    rcases volunteer_mem a with none | ⟨low, high⟩
    · exact .inl (by exact_mod_cast none)
    · exact .inr ⟨by exact_mod_cast low, by exact_mod_cast high⟩
  have bonusing : (0 : ℚ) ≤ bonus a ∧ (bonus a : ℚ) ≤ 4 := by
    have := bonus_mem a
    exact ⟨by exact_mod_cast this.1, by exact_mod_cast this.2⟩
  have volunteerBounds : (0 : ℚ) ≤ volunteer a ∧ (volunteer a : ℚ) ≤ 18 := by
    rcases volunteering with none | ⟨low, high⟩
    · rw [none]
      norm_num
    · exact ⟨by linarith, high⟩
  refine ⟨?_, ?_, ?_, ?_, ⟨_, summed, ?_⟩⟩
  · rw [subjects]
    exact subject
  · rw [attended, value_ofInt]
    exact attending
  · rw [volunteered, value_ofInt]
    exact volunteering
  · rw [bonused, value_ofInt]
    exact bonusing
  · simp only [value_add, value_ofInt]
    constructor <;> linarith

/-- A general form from a graduate: an A in mathematics in the first semester of the second
year, one absence, and ten volunteer hours a year. -/
def graduateForm : Application :=
  { formType := "REGULAR", education := { graduationType := "GRADUATED" },
    grade := { subjects := some [{ name := mathematics, grade := 2, semester := 1, achievementLevel := "A" }],
               attendance := [some { absence := 1 }, some {}, some {}],
               volunteerHours := [some 10, some 10, some 10] } }

theorem graduateForm_within_scale :
    FormType.ofCode? graduateForm.formType = some .regular ∧
      (∀ y, some y ∈ graduateForm.grade.attendance →
        0 ≤ y.absence ∧ 0 ≤ y.lateness ∧ 0 ≤ y.earlyLeave ∧ 0 ≤ y.classAbsence) ∧
      (∀ years, reportedYears graduateForm.grade.attendance = some years →
        absenceTotal years + lesserTotal years ≤ Word.maxValue) ∧
      (firstRound graduateForm).WithinScale .regular := by
  have typed : FormType.ofCode? graduateForm.formType = some .regular := rfl
  have counts : ∀ y, some y ∈ graduateForm.grade.attendance →
      0 ≤ y.absence ∧ 0 ≤ y.lateness ∧ 0 ≤ y.earlyLeave ∧ 0 ≤ y.classAbsence := by
    intro y member
    simp only [graduateForm, List.mem_cons, Option.some.injEq, List.not_mem_nil, or_false] at member
    rcases member with rfl | rfl | rfl <;> decide
  have withinWords : ∀ years, reportedYears graduateForm.grade.attendance = some years →
      absenceTotal years + lesserTotal years ≤ Word.maxValue := by
    intro years reported
    cases reported
    decide
  exact ⟨typed, counts, withinWords, first_round_within_scale typed counts withinWords⟩

/-- A general form whose absences are the largest word in the first year and one in the
second: their sum comes around to the smallest word. -/
def wrappedAbsenceForm : Application :=
  { formType := "REGULAR", education := { graduationType := "GRADUATED" },
    grade := { attendance := [some { absence := 9223372036854775807 }, some { absence := 1 }, some {}],
               volunteerHours := [some 10, some 10, some 10] } }

/-- Past the largest word the attendance score leaves its scale: eighteen less the smallest
word comes around to a score far below zero. -/
theorem wrapped_absences_leave_scale :
    attendance wrappedAbsenceForm = -9223372036854775790 ∧
      ¬ (firstRound wrappedAbsenceForm).WithinScale .regular := by
  have scored : attendance wrappedAbsenceForm = -9223372036854775790 := by decide
  refine ⟨scored, fun within => ?_⟩
  have nonneg := within.attendance.1
  rw [(firstRound_parts _).2.1, value_ofInt, scored] at nonneg
  norm_num at nonneg

end Score

end Admissions
