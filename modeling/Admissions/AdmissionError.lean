import Admissions.Text.Quote
import Admissions.Word

namespace Admissions

/-- Column letters: 0 is `A`, 25 is `Z`, 26 is `AA`, and so on. -/
def columnLetters (col : Nat) : List Char :=
  let c := Char.ofNat ('A'.toNat + col % 26)
  if col < 26 then [c]
  else columnLetters (col / 26 - 1) ++ [c]
termination_by col
decreasing_by omega

/-- The spreadsheet name of a cell of a zero-based grid: column letters, then the
row counted from one. A negative column has no letters. -/
def cellName (row col : Int) : String :=
  let letters := if col < 0 then [] else columnLetters col.toNat
  String.ofList letters ++ Text.ofInt (Word.wrap (row + 1))

/-- The two kinds of bad cell. -/
inductive CellFault where
  /-- The cell holds the wrong kind of value, or a value no column allows. -/
  | invalidType
  /-- The cell's score lies outside its category's range. -/
  | outOfRange
  deriving DecidableEq, Repr, Inhabited

def CellFault.code : CellFault → String
  | .invalidType => "INVALID_CELL_TYPE"
  | .outOfRange => "SCORE_OUT_OF_RANGE"

/-- A bad cell of a score sheet. -/
structure CellError where
  row : Int
  column : Int
  cell : String
  fault : CellFault
  reason : String
  deriving Repr, Inhabited

/-- Why an application lacks what a step needs. -/
inductive MissingData where
  | unknownCategory (id category : String)
  | noFirstRoundScore (id : String)
  | noExaminationNumber (id : String)
  | noSecondRoundScore (id : String)
  | noCategory (id : String)
  deriving Repr, Inhabited

/-- Why a score sheet does not pair with the first-round passers. -/
inductive NumberMismatch where
  | unnumbered (id : String)
  | heldTwice (number : Int)
  | listedTwice (number : Int)
  | notAPasser (number : Int)
  | categoryDiffers (number : Int) (recorded listed : String)
  | missing (numbers : List Int)
  deriving Repr, Inhabited

/-- A refusal of the admission rules. -/
inductive AdmissionError where
  /-- Bad cells of a score sheet, in the order found. -/
  | sheet (cells : List CellError)
  /-- The sheet lists a different number of applicants than expected. -/
  | rowCount (found expected : Int)
  | numberMismatch (m : NumberMismatch)
  | alreadyAssigned (id : String) (number : Int)
  | missingData (m : MissingData)
  /-- A record that should be a first-round passer is not. -/
  | notFirstPassed (id status : String)
  deriving Repr, Inhabited

namespace AdmissionError

def hasInvalidType (cells : List CellError) : Bool := cells.any (·.fault == .invalidType)

def hasOutOfRange (cells : List CellError) : Bool := cells.any (·.fault == .outOfRange)

/-- The code of a refusal; a sheet with any cell of the wrong type is an invalid
cell type, otherwise a score out of range. -/
def code : AdmissionError → String
  | .sheet cells => if hasInvalidType cells then "INVALID_CELL_TYPE" else "SCORE_OUT_OF_RANGE"
  | .rowCount .. => "ROW_COUNT_MISMATCH"
  | .numberMismatch _ => "EXAMINATION_NUMBER_MISMATCH"
  | .alreadyAssigned .. => "EXAMINATION_NUMBER_ALREADY_ASSIGNED"
  | .missingData _ => "INSUFFICIENT_DATA"
  | .notFirstPassed .. => "INVALID_STATUS_TRANSITION"

def numberList (ns : List Int) : String := "[" ++ Text.join " " (ns.map Text.ofInt) ++ "]"

def detail : AdmissionError → String
  | .sheet cells =>
    "score sheet has " ++ toString cells.length ++ " invalid cell(s):" ++
      String.join (cells.map fun c => "\n- " ++ c.cell ++ ": " ++ c.reason)
  | .rowCount found expected =>
    "sheet has " ++ Text.ofInt found ++ " applicants, expected " ++ Text.ofInt expected
  | .numberMismatch m =>
    match m with
    | .unnumbered id => "application " ++ id ++ " has no examination number"
    | .heldTwice n => "examination number " ++ Text.ofInt n ++ " is held by more than one application"
    | .listedTwice n => "examination number " ++ Text.ofInt n ++ " appears twice on the sheet"
    | .notAPasser n => "examination number " ++ Text.ofInt n ++ " is not a first round passer"
    | .categoryDiffers n recorded listed =>
      "examination number " ++ Text.ofInt n ++ " is " ++ recorded ++ ", sheet says " ++ listed
    | .missing ns => "examination numbers " ++ numberList ns ++ " are missing from the sheet"
  | .alreadyAssigned id n => "application " ++ id ++ " already has examination number " ++ Text.ofInt n
  | .missingData m =>
    match m with
    | .unknownCategory id c => "application " ++ id ++ " has unknown category " ++ Text.quote c
    | .noFirstRoundScore id => "application " ++ id ++ " has no first round score"
    | .noExaminationNumber id => "application " ++ id ++ " has no examination number"
    | .noSecondRoundScore id => "application " ++ id ++ " has no second round score"
    | .noCategory id => "application " ++ id ++ " has no category"
  | .notFirstPassed id status => "application " ++ id ++ " is " ++ status ++ ", not FIRST_PASSED"

/-- The message of a refusal: the code and the particulars, except for a sheet,
whose message is its list of cells. -/
def message : AdmissionError → String
  | .sheet cells => detail (.sheet cells)
  | e => e.code ++ ": " ++ e.detail

end AdmissionError

end Admissions
