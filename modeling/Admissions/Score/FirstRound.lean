import Admissions.Application
import Admissions.Decimal.Text
import Admissions.Word

namespace Admissions

namespace Score

/-- Points of an achievement level; an unknown level is worth nothing. -/
def achievementPoints : String → Int
  | "A" => 5
  | "B" => 4
  | "C" => 3
  | "D" => 2
  | "E" => 1
  | _ => 0

/-- Bonus points of a certificate; an unknown certificate is worth nothing. -/
def certificatePoints : String → Int
  | "CRAFTSMAN_INFORMATION_PROCESSING" => 4
  | "CRAFTSMAN_INFORMATION_EQUIPMENT_OPERATION" => 4
  | "CRAFTSMAN_COMPUTER" => 4
  | "COMPUTER_SPECIALIST_LEVEL_1" => 3
  | "COMPUTER_SPECIALIST_LEVEL_2" => 2
  | "COMPUTER_SPECIALIST_LEVEL_3" => 1
  | _ => 0

def mathematics : String := "수학"

/-- Points and weight of a subject: mathematics has double both. -/
def subjectPoints (s : Subject) : Int × Int :=
  if s.name = mathematics then (achievementPoints s.achievementLevel * 2, 2)
  else (achievementPoints s.achievementLevel, 1)

/-- The weighted average of points; zero for no subjects. -/
def average (subjects : List Subject) : Decimal :=
  let total := (subjects.map fun s => (subjectPoints s).1).foldr (· + ·) 0
  let count := (subjects.map fun s => (subjectPoints s).2).foldr (· + ·) 0
  if count = 0 then Decimal.zero else Decimal.ofInt total / Decimal.ofInt count

def semesterAverage (subjects : List Subject) (grade semester : Int) : Decimal :=
  average (subjects.filter fun s => s.grade = grade ∧ s.semester = semester)

/-- The numbers of a scoring scale. -/
structure Scale where
  base : Decimal
  secondYearWeight : Decimal
  thirdYearWeight : Decimal
  qualifyingWeight : Decimal

/-- The general scale, out of 200. -/
def generalScale : Scale := ⟨80, ⟨48, -1⟩, ⟨72, -1⟩, 12⟩

/-- The special scale, out of 120. -/
def specialScale : Scale := ⟨48, ⟨288, -2⟩, ⟨432, -2⟩, ⟨72, -1⟩⟩

def Scale.subjectScore (sc : Scale) (subjects : List Subject) (qualifying : Bool) : Decimal :=
  if qualifying then sc.base + sc.qualifyingWeight * 2 * average subjects
  else
    sc.base + sc.secondYearWeight * (semesterAverage subjects 2 1 + semesterAverage subjects 2 2) +
      sc.thirdYearWeight * 2 * semesterAverage subjects 3 1

/-- The scale a form type is scored on, if any. -/
def scaleOf (formType : String) : Option Scale :=
  match FormType.ofCode? formType with
  | some t => if t.isRegular || t.isSupernumerary then some generalScale else some specialScale
  | none => none

/-- The subject score of a form; zero for a form type that names nothing. -/
def subjectGrade (a : Application) : Decimal :=
  match scaleOf a.formType with
  | some sc =>
    sc.subjectScore (a.grade.subjects.getD []) (a.education.graduationType = qualificationExamination)
  | none => Decimal.zero

/-- The values of all years, when every year is reported. -/
def reportedYears {α : Type} : List (Option α) → Option (List α)
  | [] => some []
  | none :: _ => none
  | some a :: rest => (reportedYears rest).map (a :: ·)

def attendanceOf (years : List Attendance) : Int :=
  let absence := Word.wrap ((years.map (·.absence)).foldr (· + ·) 0)
  let minor :=
    Word.wrap ((years.map fun y => y.lateness + y.earlyLeave + y.classAbsence).foldr (· + ·) 0)
  let converted := Word.wrap (absence + minor.tdiv 3)
  if converted > 16 then 0 else Word.wrap (18 - converted)

def attendance (a : Application) : Int :=
  if a.education.graduationType = qualificationExamination then 14
  else
    match reportedYears a.grade.attendance with
    | some years => attendanceOf years
    | none => 14

def volunteerOf (total : Int) : Int :=
  if total < 15 then 0
  else if total > 30 then 18
  else ((Decimal.ofInt 18 - Decimal.ofInt (30 - total) * ⟨5, -1⟩).round 0).intPart

def volunteer (a : Application) : Int :=
  if a.education.graduationType = qualificationExamination then 14
  else
    match reportedYears a.grade.volunteerHours with
    | some hours => volunteerOf (Word.wrap (hours.foldr (· + ·) 0))
    | none => 14

/-- The bonus score: certificate points, at most 4. -/
def bonus (a : Application) : Int :=
  min 4 ((a.grade.certificates.map certificatePoints).foldr (· + ·) 0)

/-- The first-round score of a breakdown: the sum of its four parts. -/
def ScoreBreakdown.firstRoundOf (s : ScoreBreakdown) : Decimal :=
  s.subjectGrade + s.attendance + s.volunteer + s.bonus

/-- Scores the first round, keeping the second-round scores and the total. -/
def firstRound (a : Application) : ScoreBreakdown :=
  let s := { a.score with
    subjectGrade := subjectGrade a
    attendance := Decimal.ofInt (attendance a)
    volunteer := Decimal.ofInt (volunteer a)
    bonus := Decimal.ofInt (bonus a) }
  { s with firstRound := some (ScoreBreakdown.firstRoundOf s) }

/-- A score on result sheets: three places, a half going away from zero. -/
def format (v : Decimal) : String := v.toFixed 3

end Score

end Admissions
