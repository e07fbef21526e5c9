import Admissions.Decimal.Basic
import Admissions.Time.Instant
import Admissions.Category
import Admissions.Status

namespace Admissions

/-- Attendance over one school year. -/
structure Attendance where
  absence : Int := 0
  lateness : Int := 0
  earlyLeave : Int := 0
  classAbsence : Int := 0
  deriving Repr, Inhabited, BEq

/-- One subject's achievement in one semester. -/
structure Subject where
  name : String := ""
  grade : Int := 0
  semester : Int := 0
  achievementLevel : String := ""
  deriving Repr, Inhabited, BEq

/-- The records the first round is scored from. Attendance and volunteer hours
have one place per school year, three in all; an empty place is a year not
reported. -/
structure Grade where
  /-- `none` when no list was given. -/
  subjects : Option (List Subject) := none
  attendance : List (Option Attendance) := [none, none, none]
  volunteerHours : List (Option Int) := [none, none, none]
  certificates : List String := []
  /-- Subjects past the end of the list that a longer list read earlier left
  behind (see `Decoder.refill`). -/
  spareSubjects : List Subject := []
  /-- Certificates past the end of the list likewise. -/
  spareCertificates : List String := []
  deriving Repr, Inhabited

/-- The scores of a form. The first four are always present; the others are
set as the rounds go. -/
structure ScoreBreakdown where
  subjectGrade : Decimal := Decimal.zero
  attendance : Decimal := Decimal.zero
  volunteer : Decimal := Decimal.zero
  bonus : Decimal := Decimal.zero
  depthInterview : Option Decimal := none
  ncs : Option Decimal := none
  codingTest : Option Decimal := none
  firstRound : Option Decimal := none
  total : Option Decimal := none
  deriving Repr, Inhabited

/-- The applicant's contact details. -/
structure Applicant where
  name : String := ""
  phoneNumber : String := ""
  email : String := ""
  deriving Repr, Inhabited

/-- The applicant's school. -/
structure Education where
  graduationType : String := ""
  schoolName : String := ""
  schoolLocation : String := ""
  deriving Repr, Inhabited

/-- An application form. -/
structure Application where
  id : String := ""
  userId : String := ""
  formType : String := ""
  category : String := ""
  applicant : Applicant := {}
  education : Education := {}
  otherRegion : Bool := false
  examinationNumber : Option Int := none
  status : String := ""
  grade : Grade := {}
  score : ScoreBreakdown := {}
  submittedAt : Instant := Instant.zero
  deriving Repr, Inhabited

namespace Application

/-- The examination number, 0 when none is issued. -/
def examNo (a : Application) : Int := a.examinationNumber.getD 0

/-- A copy as a new record: an empty subject list is copied as no list. -/
def copy (a : Application) : Application :=
  { a with grade := { a.grade with
      subjects := match a.grade.subjects with
        | some [] => none
        | other => other } }

end Application

/-- The graduation type of applicants who passed the qualification examination
instead of finishing middle school. -/
def qualificationExamination : String := "QUALIFICATION_EXAMINATION"

end Admissions
