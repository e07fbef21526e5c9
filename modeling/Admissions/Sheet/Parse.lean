import Admissions.Sheet.Cell
import Admissions.Quota
import Admissions.AdmissionError
import Admissions.Score.SecondRound

namespace Admissions

/-- One applicant's line of the score sheet. -/
structure ScoreSheetRow where
  sheetRow : Nat
  examinationNumber : Int
  name : String
  category : String
  present : Bool
  depthInterview : Option Decimal := none
  ncs : Option Decimal := none
  codingTest : Option Decimal := none
  deriving Repr, Inhabited

namespace ScoreSheetRow

/-- The second-round scores of a row; unset interview and NCS scores are zero. -/
def input (r : ScoreSheetRow) : SecondRoundInput :=
  ⟨r.depthInterview.getD Decimal.zero, r.ncs.getD Decimal.zero, r.codingTest⟩

end ScoreSheetRow

namespace Sheet

def examNoColumn : Nat := 0
def nameColumn : Nat := 1
def categoryColumn : Nat := 2
def interviewColumn : Nat := 3
def ncsColumn : Nat := 4
def codingColumn : Nat := 5
def presenceColumn : Nat := 6

/-- What each column holds, in messages. -/
def columnName : Nat → String
  | 0 => "examination number"
  | 1 => "name"
  | 2 => "category"
  | 3 => "depth interview score"
  | 4 => "ncs score"
  | 5 => "coding test score"
  | _ => "presence"

def maxExaminationNumber : Decimal := Decimal.ofInt Word.maxValue

def typeFault (r col : Nat) (want : String) (got : CellKind) : CellError :=
  ⟨r, col, cellName r col, .invalidType,
    columnName col ++ " must be " ++ want ++ ", got " ++ got.name⟩

/-- A cell whose kind is none of those allowed. -/
def expectKind (g : Grid) (r col : Nat) (kinds : List CellKind) : List CellError :=
  let got := (g.cell r col).kind
  if kinds.contains got then []
  else [typeFault r col (Text.join " or " (kinds.map CellKind.name)) got]

/-- The faults of kind in a row, in the order they are checked, and the row's
category when its cell names one. -/
def typeFaults (g : Grid) (r : Nat) : List CellError × Option Category :=
  let kinds := expectKind g r examNoColumn [.numeric] ++ expectKind g r nameColumn [.text] ++
    expectKind g r categoryColumn [.text] ++ expectKind g r presenceColumn [.boolean]
  let presence := g.cell r presenceColumn
  let present := presence.kind == .boolean && presence.boolValue
  let scores :=
    if present then
      expectKind g r interviewColumn [.numeric] ++ expectKind g r ncsColumn [.numeric] ++
        expectKind g r codingColumn [.numeric, .blank]
    else []
  let examNo := g.cell r examNoColumn
  let number :=
    match examNo with
    | .number v =>
      if !v.isInteger || v.sign ≤ 0 || maxExaminationNumber.lt v then
        [CellError.mk r examNoColumn (cellName r examNoColumn) .invalidType
          ("examination number must be a positive whole number, got " ++ v.toString)]
      else []
    | _ => []
  let (categoryFault, category) :=
    match g.cell r categoryColumn with
    | .text label =>
      match Category.parse (Text.trimSpace label) with
      | .ok c => ([], some c)
      | .error _ =>
        ([CellError.mk r categoryColumn (cellName r categoryColumn) .invalidType
          ("unknown category " ++ Text.quote label)], none)
    | _ => ([], none)
  let coding :=
    if present ∧ (category.map Category.usesCodingTest).getD false ∧
        (g.cell r codingColumn).kind = .blank then
      [typeFault r codingColumn CellKind.numeric.name .blank]
    else []
  (kinds ++ scores ++ number ++ categoryFault ++ coding, category)

def rangeFault (r col : Nat) (v : Decimal) (bound : ScoreRange) (category : String) :
    List CellError :=
  if bound.contains v then []
  else [⟨r, col, cellName r col, .outOfRange,
    columnName col ++ " " ++ v.toString ++ " is outside [" ++ bound.min.toString ++ ", " ++
      bound.max.toString ++ "] for " ++ category⟩]

/-- Reads one row that is not blank: the row, or its faults. -/
def parseRow (g : Grid) (q : QuotaConfig) (r : Nat) : Except (List CellError) ScoreSheetRow :=
  let (faults, category) := typeFaults g r
  if !faults.isEmpty then .error faults
  else
    let code := (category.map Category.code).getD ""
    let presence := g.cell r presenceColumn
    let present := presence.kind == .boolean && presence.boolValue
    let row : ScoreSheetRow :=
      { sheetRow := r, examinationNumber := (g.cell r examNoColumn).numberValue.intPart,
        name := (g.cell r nameColumn).textValue, category := code, present := present }
    if !present then .ok row
    else
      let c := category.getD .regular
      let ranges := q.rangesFor c
      let interview := (g.cell r interviewColumn).numberValue
      let ncs := (g.cell r ncsColumn).numberValue
      let base := rangeFault r interviewColumn interview ranges.depthInterview code ++
        rangeFault r ncsColumn ncs ranges.ncs code
      let (codingFaults, coding) :=
        match ranges.codingTest with
        | some bound =>
          if c.usesCodingTest then
            let v := (g.cell r codingColumn).numberValue
            (rangeFault r codingColumn v bound code, some v)
          else ([], none)
        | none => ([], none)
      let all := base ++ codingFaults
      if all.isEmpty then
        .ok { row with depthInterview := some interview, ncs := some ncs, codingTest := coding }
      else .error all

/-- Rows and faults of the data rows, in grid order; blank rows are skipped. -/
def readRows (g : Grid) (q : QuotaConfig) : List ScoreSheetRow × List CellError :=
  ((List.range g.length).drop 1).foldl (fun (rows, faults) r =>
    if g.blankRow r then (rows, faults)
    else
      match parseRow g q r with
      | .ok row => (rows ++ [row], faults)
      | .error errs => (rows, faults ++ errs)) ([], [])

/-- Reads the score sheet: its rows sorted by examination number (equal numbers
in grid order), or every bad cell, or a count different from `expected`. -/
def parse (g : Grid) (expected : Int) (q : QuotaConfig) : Except AdmissionError (List ScoreSheetRow) :=
  let (rows, faults) := readRows g q
  if !faults.isEmpty then .error (.sheet faults)
  else
    let sorted := rows.mergeSort fun a b => a.examinationNumber ≤ b.examinationNumber
    if (sorted.length : Int) ≠ expected then .error (.rowCount sorted.length expected)
    else .ok sorted

end Sheet

end Admissions
