import Admissions.Text.Quote

namespace Admissions

/-- A category of admission, each with its own seats. -/
inductive Category where
  | regular
  | meisterTalent
  | socialIntegration
  | nationalVeteransEducation
  | specialAdmission
  deriving DecidableEq, Repr, Inhabited

namespace Category

def all : List Category :=
  [.regular, .meisterTalent, .socialIntegration, .nationalVeteransEducation, .specialAdmission]

def code : Category → String
  | .regular => "REGULAR"
  | .meisterTalent => "MEISTER_TALENT"
  | .socialIntegration => "SOCIAL_INTEGRATION"
  | .nationalVeteransEducation => "NATIONAL_VETERANS_EDUCATION"
  | .specialAdmission => "SPECIAL_ADMISSION"

def label : Category → String
  | .regular => "일반전형"
  | .meisterTalent => "마이스터인재전형"
  | .socialIntegration => "사회통합전형"
  | .nationalVeteransEducation => "국가보훈대상자 중 교육지원대상자녀"
  | .specialAdmission => "특례입학대상자"

def usesCodingTest : Category → Bool
  | .meisterTalent => true
  | _ => false

def ofCode? (s : String) : Option Category := all.find? (·.code == s)

/-- The label of a code, empty for a text that is no category. -/
def labelOf (s : String) : String := ((ofCode? s).map label).getD ""

/-- Whether the category under a code has a coding test; a text that is no category has
none. -/
def usesCodingTestOf (s : String) : Bool := (ofCode? s).any usesCodingTest

/-- Reads a category from its exact code or its exact label. -/
def parse (s : String) : Except String Category :=
  match ofCode? s with
  | some c => .ok c
  | none =>
    match all.find? (·.label == s) with
    | some c => .ok c
    | none => .error ("unknown category " ++ Text.quote s)

end Category

/-- A form type: how an applicant applies. -/
inductive FormType where
  | regular
  | meisterTalent
  | nationalBasicLiving
  | nearPoverty
  | nationalVeterans
  | oneParent
  | fromNorthKorea
  | multicultural
  | teenHouseholder
  | multiChildren
  | farmingAndFishing
  | nationalVeteransEducation
  | specialAdmission
  deriving DecidableEq, Repr, Inhabited

namespace FormType

def all : List FormType :=
  [.regular, .meisterTalent, .nationalBasicLiving, .nearPoverty, .nationalVeterans, .oneParent,
    .fromNorthKorea, .multicultural, .teenHouseholder, .multiChildren, .farmingAndFishing,
    .nationalVeteransEducation, .specialAdmission]

def code : FormType → String
  | .regular => "REGULAR"
  | .meisterTalent => "MEISTER_TALENT"
  | .nationalBasicLiving => "NATIONAL_BASIC_LIVING"
  | .nearPoverty => "NEAR_POVERTY"
  | .nationalVeterans => "NATIONAL_VETERANS"
  | .oneParent => "ONE_PARENT"
  | .fromNorthKorea => "FROM_NORTH_KOREA"
  | .multicultural => "MULTICULTURAL"
  | .teenHouseholder => "TEEN_HOUSEHOLDER"
  | .multiChildren => "MULTI_CHILDREN"
  | .farmingAndFishing => "FARMING_AND_FISHING"
  | .nationalVeteransEducation => "NATIONAL_VETERANS_EDUCATION"
  | .specialAdmission => "SPECIAL_ADMISSION"

def category : FormType → Category
  | .regular => .regular
  | .meisterTalent => .meisterTalent
  | .nationalVeteransEducation => .nationalVeteransEducation
  | .specialAdmission => .specialAdmission
  | _ => .socialIntegration

def ofCode? (s : String) : Option FormType := all.find? (·.code == s)

def isRegular : FormType → Bool
  | .regular => true
  | _ => false

def isSupernumerary : FormType → Bool
  | .nationalVeteransEducation => true
  | .specialAdmission => true
  | _ => false

/-- Forms scored on the special scale: all but the general and the
supernumerary ones. -/
def isSpecial (t : FormType) : Bool := !t.isRegular && !t.isSupernumerary

end FormType

end Admissions
