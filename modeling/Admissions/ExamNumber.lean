import Admissions.Application
import Admissions.AdmissionError

namespace Admissions

namespace ExamNumber

/-- The bases used when none are configured: 1000 for the general category, then
2000, 3000, 4000 and 5000 in category order. -/
def defaultBases : List (String × Int) :=
  [("REGULAR", 1000), ("MEISTER_TALENT", 2000), ("SOCIAL_INTEGRATION", 3000),
    ("NATIONAL_VETERANS_EDUCATION", 4000), ("SPECIAL_ADMISSION", 5000)]

/-- The base of a category's numbers: the first one configured for its code, 0
when none is. -/
def baseOf (bases : List (String × Int)) (code : String) : Int :=
  ((bases.find? (·.1 == code)).map (·.2)).getD 0

/-- The next number for a form, given the highest number issued in its category. -/
def assign (bases : List (String × Int)) (a : Application) (currentMax : Int) :
    Except AdmissionError Int :=
  match a.examinationNumber with
  | some n => .error (.alreadyAssigned a.id n)
  | none =>
    match Category.ofCode? a.category with
    | none => .error (.missingData (.noCategory a.id))
    | some c => .ok (Word.wrap (max currentMax (baseOf bases c.code) + 1))

end ExamNumber

end Admissions
