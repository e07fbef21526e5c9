import Admissions.Proofs.Score.Range

namespace Admissions

namespace Score

open Decimal

/-! ### Better raw inputs -/

/-- The achievement levels from lowest to highest; a level not listed ranks below them all. -/
def achievementLevels : List String := ["E", "D", "C", "B", "A"]

/-- The rank of a level: 1 for E up to 5 for A, and 0 for a level not listed. -/
def levelRank (level : String) : Nat := ((achievementLevels.idxOf? level).map (· + 1)).getD 0

theorem achievementPoints_eq_levelRank (level : String) : achievementPoints level = levelRank level := by
  unfold achievementPoints
  split
  case h_6 notA notB notC notD notE =>
    have unlisted : achievementLevels.idxOf? level = none := by
      rw [List.idxOf?_eq_none_iff]
      simp only [achievementLevels, List.mem_cons, List.not_mem_nil, or_false]
      rintro (listed | listed | listed | listed | listed)
      exacts [notE listed, notD listed, notC listed, notB listed, notA listed]
    simp [levelRank, unlisted]
  all_goals rfl

/-- `s'` is the subject `s` with an achievement level at least as high. -/
def LevelRaised (s s' : Subject) : Prop :=
  s' = { s with achievementLevel := s'.achievementLevel } ∧
    levelRank s.achievementLevel ≤ levelRank s'.achievementLevel

/-- At most as many of each attendance mark. -/
def FewerMarks (y y' : Attendance) : Prop :=
  y'.absence ≤ y.absence ∧ y'.lateness ≤ y.lateness ∧ y'.earlyLeave ≤ y.earlyLeave ∧
    y'.classAbsence ≤ y.classAbsence

theorem FewerMarks.refl (y : Attendance) : FewerMarks y y :=
  ⟨Int.le_refl _, Int.le_refl _, Int.le_refl _, Int.le_refl _⟩

/-- `b` is the form `a` with better raw inputs: achievement levels raised, attendance marks
lowered and volunteer hours raised, year by year, and certificates added; the form type and
the graduation type are kept, and the years reported stay the same. -/
structure Improves (a b : Application) : Prop where
  formType : b.formType = a.formType
  graduation : b.education.graduationType = a.education.graduationType
  subjects : Option.Rel (List.Forall₂ LevelRaised) a.grade.subjects b.grade.subjects
  attendance : List.Forall₂ (Option.Rel FewerMarks) a.grade.attendance b.grade.attendance
  volunteerHours : List.Forall₂ (Option.Rel (· ≤ ·)) a.grade.volunteerHours b.grade.volunteerHours
  certificates : a.grade.certificates.Sublist b.grade.certificates

/-- No sum the first round takes of a form's counts leaves the words: the attendance sums
of its reported years, and its volunteer hours. -/
structure SumsFit (a : Application) : Prop where
  attendance : ∀ years, reportedYears a.grade.attendance = some years → AttendanceFits years
  volunteerHours : ∀ hours, reportedYears a.grade.volunteerHours = some hours →
    Word.fits (hours.foldr (· + ·) 0) = true

/-- Years related one by one are reported together, and then related one by one. -/
theorem reportedYears_rel {α β : Type} {r : α → β → Prop} {l : List (Option α)} {l' : List (Option β)}
    (related : List.Forall₂ (Option.Rel r) l l') :
    (reportedYears l = none ∧ reportedYears l' = none) ∨
      ∃ years years', reportedYears l = some years ∧ reportedYears l' = some years' ∧
        List.Forall₂ r years years' := by
  induction related with
  | nil => exact .inr ⟨[], [], rfl, rfl, .nil⟩
  | @cons x x' _ _ head _ ih =>
    cases head with
    | none => exact .inl ⟨rfl, rfl⟩
    | some year =>
      rcases ih with ⟨unreported, unreported'⟩ | ⟨years, years', reported, reported', rest⟩
      · exact .inl ⟨by simp [reportedYears, unreported], by simp [reportedYears, unreported']⟩
      · exact .inr ⟨_, _, by simp [reportedYears, reported], by simp [reportedYears, reported'],
          .cons year rest⟩

theorem forall₂_getD {α β : Type} {r : α → β → Prop} {o : Option (List α)} {o' : Option (List β)}
    (related : Option.Rel (List.Forall₂ r) o o') : List.Forall₂ r (o.getD []) (o'.getD []) := by
  cases related with
  | some pointwise => exact pointwise
  | none => exact .nil

theorem foldr_add_le {l l' : List Int} (pointwise : List.Forall₂ (· ≤ ·) l l') :
    l.foldr (· + ·) 0 ≤ l'.foldr (· + ·) 0 := by
  induction pointwise with
  | nil => exact Int.le_refl 0
  | cons head _ ih =>
    simp only [List.foldr_cons]
    omega

/-- Adding terms that are not negative never lowers a sum. -/
theorem foldr_add_le_of_sublist {l l' : List Int} (kept : l.Sublist l') (nonneg : ∀ x ∈ l', 0 ≤ x) :
    l.foldr (· + ·) 0 ≤ l'.foldr (· + ·) 0 := by
  induction kept with
  | slnil => exact Int.le_refl 0
  | cons x _ ih =>
    have added := nonneg x List.mem_cons_self
    have rest := ih fun y member => nonneg y (List.mem_cons_of_mem x member)
    simp only [List.foldr_cons]
    omega
  | cons_cons x _ ih =>
    have rest := ih fun y member => nonneg y (List.mem_cons_of_mem x member)
    simp only [List.foldr_cons]
    omega

/-! ### Subjects -/

theorem LevelRaised.subjectPoints {s s' : Subject} (raised : LevelRaised s s') :
    (subjectPoints s).1 ≤ (subjectPoints s').1 ∧ (subjectPoints s).2 = (subjectPoints s').2 := by
  obtain ⟨same, higher⟩ := raised
  have points : achievementPoints s.achievementLevel ≤ achievementPoints s'.achievementLevel := by
    rw [achievementPoints_eq_levelRank, achievementPoints_eq_levelRank]
    exact_mod_cast higher
  have named : s'.name = s.name := by rw [same]
  unfold Score.subjectPoints
  rw [named]
  split <;> (dsimp only; omega)

theorem pointTotal_le_of_raised {l l' : List Subject} (raised : List.Forall₂ LevelRaised l l') :
    pointTotal l ≤ pointTotal l' ∧ weightTotal l = weightTotal l' := by
  induction raised with
  | nil => exact ⟨Int.le_refl 0, rfl⟩
  | cons head _ ih =>
    have step := head.subjectPoints
    simp only [pointTotal, weightTotal, List.map_cons, List.foldr_cons] at ih ⊢
    omega

/-- Raising levels keeps every subject in its year and semester. -/
theorem filter_raised {l l' : List Subject} (raised : List.Forall₂ LevelRaised l l') (grade semester : Int) :
    List.Forall₂ LevelRaised (l.filter fun s => s.grade = grade ∧ s.semester = semester)
      (l'.filter fun s => s.grade = grade ∧ s.semester = semester) := by
  induction raised with
  | nil => exact .nil
  | @cons s s' _ _ head _ ih =>
    have placed : s'.grade = s.grade ∧ s'.semester = s.semester := by
      rw [head.1]
      exact ⟨rfl, rfl⟩
    simp only [List.filter_cons, placed.1, placed.2]
    split
    · exact .cons head ih
    · exact ih

theorem average_value_mono {l l' : List Subject} (raised : List.Forall₂ LevelRaised l l') :
    (average l).value ≤ (average l').value := by
  obtain ⟨points, weights⟩ := pointTotal_le_of_raised raised
  obtain ⟨pointsNonneg, -, weightNonneg⟩ := pointTotal_mem l
  rw [average_eq, average_eq, ← weights]
  split
  · exact le_refl _
  · rename_i weighed
    have positive : 0 < weightTotal l := by omega
    have scale : (0 : Int) < pow10 16 := by decide
    have scaled : pointTotal l * pow10 16 ≤ pointTotal l' * pow10 16 :=
      Int.mul_le_mul_of_nonneg_right points scale.le
    have rounded := roundQuotient_mono (Int.mul_nonneg pointsNonneg scale.le) scaled positive
    rw [value_ofInt_div weighed, value_ofInt_div weighed]
    apply div_le_div_of_nonneg_right _ (by positivity)
    exact_mod_cast rounded

/-- A scale with weights that are not negative scores raised levels at least as high. -/
theorem subjectScore_mono (sc : Scale) (second : 0 ≤ sc.secondYearWeight.value)
    (third : 0 ≤ sc.thirdYearWeight.value) (qualifies : 0 ≤ sc.qualifyingWeight.value)
    {l l' : List Subject} (raised : List.Forall₂ LevelRaised l l') (qualifying : Bool) :
    (sc.subjectScore l qualifying).value ≤ (sc.subjectScore l' qualifying).value := by
  have all := average_value_mono raised
  have first := average_value_mono (filter_raised raised 2 1)
  have secondSemester := average_value_mono (filter_raised raised 2 2)
  have thirdYear := average_value_mono (filter_raised raised 3 1)
  rw [subjectScore_value, subjectScore_value]
  unfold semesterAverage
  split
  · nlinarith
  · nlinarith

/-- Both scales weigh averages by amounts that are not negative. -/
theorem scaleOf_weights {formType : String} {sc : Scale} (scaled : scaleOf formType = some sc) :
    0 ≤ sc.secondYearWeight.value ∧ 0 ≤ sc.thirdYearWeight.value ∧ 0 ≤ sc.qualifyingWeight.value := by
  unfold scaleOf at scaled
  split at scaled
  · split at scaled <;> cases scaled <;> norm_num [generalScale, specialScale, value_mk]
  · cases scaled

theorem subjectGrade_mono {a b : Application} (better : Improves a b) :
    (subjectGrade a).value ≤ (subjectGrade b).value := by
  have raised := forall₂_getD better.subjects
  unfold subjectGrade
  rw [better.formType, better.graduation]
  split
  · rename_i sc scaled
    obtain ⟨second, third, qualifies⟩ := scaleOf_weights scaled
    exact subjectScore_mono sc second third qualifies raised _
  · exact le_refl _

/-! ### Attendance, volunteering and bonus -/

theorem totals_le_of_fewer {years years' : List Attendance}
    (fewer : List.Forall₂ FewerMarks years years') :
    absenceTotal years' ≤ absenceTotal years ∧ lesserTotal years' ≤ lesserTotal years := by
  induction fewer with
  | nil => exact ⟨Int.le_refl 0, Int.le_refl 0⟩
  | cons head _ ih =>
    obtain ⟨absence, lateness, earlyLeave, classAbsence⟩ := head
    simp only [absenceTotal, lesserTotal, List.map_cons, List.foldr_cons] at ih ⊢
    omega

/-- Fewer marks leave fewer converted absences, so no less attendance by the rule. -/
theorem exactAttendance_mono {years years' : List Attendance}
    (fewer : List.Forall₂ FewerMarks years years') :
    exactAttendance years ≤ exactAttendance years' := by
  obtain ⟨absences, lesser⟩ := totals_le_of_fewer fewer
  have third := Int.tdiv_le_tdiv (by decide : (0 : Int) < 3) lesser
  unfold exactAttendance convertedAbsences
  split <;> split <;> omega

theorem attendance_mono {a b : Application} (better : Improves a b) (fitA : SumsFit a)
    (fitB : SumsFit b) : attendance a ≤ attendance b := by
  unfold attendance
  rw [better.graduation]
  split
  · exact Int.le_refl 14
  · rcases reportedYears_rel better.attendance with
      ⟨unreported, unreported'⟩ | ⟨years, years', reported, reported', fewer⟩
    · rw [unreported, unreported']
    · rw [reported, reported']
      dsimp only
      rw [attendanceOf_eq_exact (fitA.attendance years reported),
        attendanceOf_eq_exact (fitB.attendance years' reported')]
      exact exactAttendance_mono fewer

/-- From fifteen to thirty hours, volunteering gives the hours' half plus three and a half,
rounded up from the half. -/
theorem volunteerOf_eq_div {total : Int} (low : 15 ≤ total) (high : total ≤ 30) :
    volunteerOf total = (5 * total + 35) / 10 := by
  rw [volunteerOf_of_mem low high, roundQuotient_of_nonneg (by omega) (by decide)]
  split <;> omega

theorem volunteerOf_mono {total total' : Int} (more : total ≤ total') :
    volunteerOf total ≤ volunteerOf total' := by
  by_cases few : total < 15
  · have none : volunteerOf total = 0 := by simp [volunteerOf, few]
    rw [none]
    rcases volunteerOf_mem total' with zero | ⟨low, -⟩ <;> omega
  by_cases many' : total' > 30
  · have full : volunteerOf total' = 18 := by simp [volunteerOf, show ¬ total' < 15 by omega, many']
    rw [full]
    rcases volunteerOf_mem total with zero | ⟨-, high⟩ <;> omega
  rw [volunteerOf_eq_div (by omega) (by omega), volunteerOf_eq_div (by omega) (by omega)]
  omega

theorem volunteer_mono {a b : Application} (better : Improves a b) (fitA : SumsFit a)
    (fitB : SumsFit b) : volunteer a ≤ volunteer b := by
  unfold volunteer
  rw [better.graduation]
  split
  · exact Int.le_refl 14
  · rcases reportedYears_rel better.volunteerHours with
      ⟨unreported, unreported'⟩ | ⟨hours, hours', reported, reported', more⟩
    · rw [unreported, unreported']
    · rw [reported, reported']
      dsimp only
      rw [Word.wrap_eq_self (fitA.volunteerHours hours reported),
        Word.wrap_eq_self (fitB.volunteerHours hours' reported')]
      exact volunteerOf_mono (foldr_add_le more)

theorem bonus_mono {a b : Application} (better : Improves a b) : bonus a ≤ bonus b := by
  have points := foldr_add_le_of_sublist (better.certificates.map certificatePoints)
    fun x member => by
      obtain ⟨c, -, rfl⟩ := List.mem_map.mp member
      exact certificatePoints_nonneg c
  unfold bonus
  omega

end Score

/-- Each part of the first-round breakdown `s'` is at least that part of `s`, and so is
its first-round score. -/
structure ScoreBreakdown.NoLower (s s' : ScoreBreakdown) : Prop where
  subjectGrade : s.subjectGrade.value ≤ s'.subjectGrade.value
  attendance : s.attendance.value ≤ s'.attendance.value
  volunteer : s.volunteer.value ≤ s'.volunteer.value
  bonus : s.bonus.value ≤ s'.bonus.value
  firstRound : ∃ f f', s.firstRound = some f ∧ s'.firstRound = some f' ∧ f.value ≤ f'.value

namespace Score

open Decimal

/-- A better record never scores lower. When `b` is the form `a` with raised achievement
levels, fewer attendance marks, more volunteer hours or added certificates, and no sum of
either form's counts leaves the 64-bit words, none of the four first-round parts of `b`
is below that of `a`, and neither is its first-round score. -/
theorem better_record_never_scores_lower {a b : Application} (better : Improves a b)
    (fitA : SumsFit a) (fitB : SumsFit b) : (firstRound a).NoLower (firstRound b) := by
  obtain ⟨subjectsA, attendedA, volunteeredA, bonusedA, summedA⟩ := firstRound_parts a
  obtain ⟨subjectsB, attendedB, volunteeredB, bonusedB, summedB⟩ := firstRound_parts b
  have subjects := subjectGrade_mono better
  have attending : (attendance a : ℚ) ≤ attendance b := by
    exact_mod_cast attendance_mono better fitA fitB
  have volunteering : (volunteer a : ℚ) ≤ volunteer b := by
    exact_mod_cast volunteer_mono better fitA fitB
  have bonusing : (bonus a : ℚ) ≤ bonus b := by
    exact_mod_cast bonus_mono better
  refine ⟨?_, ?_, ?_, ?_, ⟨_, _, summedA, summedB, ?_⟩⟩
  · rw [subjectsA, subjectsB]
    exact subjects
  · rw [attendedA, attendedB, value_ofInt, value_ofInt]
    exact attending
  · rw [volunteeredA, volunteeredB, value_ofInt, value_ofInt]
    exact volunteering
  · rw [bonusedA, bonusedB, value_ofInt, value_ofInt]
    exact bonusing
  · simp only [value_add, value_ofInt]
    linarith

/-- `graduateForm` with a B in mathematics in place of its A. -/
def graduateFormWithB : Application :=
  { graduateForm with grade := { graduateForm.grade with
      subjects := some [{ name := mathematics, grade := 2, semester := 1, achievementLevel := "B" }] } }

theorem graduateForm_sumsFit (form : Application)
    (attendance : form.grade.attendance = [some { absence := 1 }, some {}, some {}])
    (hours : form.grade.volunteerHours = [some 10, some 10, some 10]) : SumsFit form where
  attendance years reported := by
    rw [attendance] at reported
    cases reported
    refine AttendanceFits.of_nonneg (fun y member => ?_) (by decide)
    simp only [List.mem_cons, List.not_mem_nil, or_false] at member
    rcases member with rfl | rfl | rfl <;> decide
  volunteerHours total reported := by
    rw [hours] at reported
    cases reported
    decide

/-- Raising the mathematics B of the graduate's form to an A lowers none of its scores. -/
theorem raised_mathematics_scores_no_lower :
    Improves graduateFormWithB graduateForm ∧ SumsFit graduateFormWithB ∧ SumsFit graduateForm ∧
      (firstRound graduateFormWithB).NoLower (firstRound graduateForm) := by
  have better : Improves graduateFormWithB graduateForm :=
    ⟨rfl, rfl, .some (.cons ⟨rfl, by decide⟩ .nil),
      .cons (.some (.refl _)) (.cons (.some (.refl _)) (.cons (.some (.refl _)) .nil)),
      .cons (.some (Int.le_refl 10)) (.cons (.some (Int.le_refl 10)) (.cons (.some (Int.le_refl 10)) .nil)),
      List.Sublist.refl _⟩
  have fitB := graduateForm_sumsFit graduateFormWithB rfl rfl
  have fitA := graduateForm_sumsFit graduateForm rfl rfl
  exact ⟨better, fitB, fitA, better_record_never_scores_lower better fitB fitA⟩

/-- A graduate's general form with clean attendance and volunteer hours of the largest
word, `hours`, and none over its three years. -/
def wrappedHoursForm (hours : Int) : Application :=
  { formType := "REGULAR", education := { graduationType := "GRADUATED" },
    grade := { attendance := [some {}, some {}, some {}],
               volunteerHours := [some 9223372036854775807, some hours, some 0] } }

/-- Past the largest word a better record scores lower: one more volunteer hour on top of
the largest word brings the total around below zero, and volunteering falls from 18 to 0. -/
theorem extra_hour_past_largest_word_scores_lower :
    Improves (wrappedHoursForm 0) (wrappedHoursForm 1) ∧
      (firstRound (wrappedHoursForm 1)).volunteer.value < (firstRound (wrappedHoursForm 0)).volunteer.value := by
  have clean := FewerMarks.refl {}
  have better : Improves (wrappedHoursForm 0) (wrappedHoursForm 1) :=
    ⟨rfl, rfl, .none, .cons (.some clean) (.cons (.some clean) (.cons (.some clean) .nil)),
      .cons (.some (Int.le_refl _)) (.cons (.some (by decide)) (.cons (.some (Int.le_refl 0)) .nil)),
      List.Sublist.refl _⟩
  have full : volunteer (wrappedHoursForm 0) = 18 := by decide
  have none : volunteer (wrappedHoursForm 1) = 0 := by decide
  refine ⟨better, ?_⟩
  rw [(firstRound_parts _).2.2.1, (firstRound_parts _).2.2.1, value_ofInt, value_ofInt, full, none]
  norm_num

end Score

end Admissions
