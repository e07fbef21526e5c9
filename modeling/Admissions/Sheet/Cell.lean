import Admissions.Json.Decode

namespace Admissions

/-- One cell of a score sheet. -/
inductive Cell where
  | blank
  | number (value : Decimal)
  | text (value : String)
  | boolean (value : Bool)
  deriving Repr, Inhabited

/-- The kind of a cell. -/
inductive CellKind where
  | blank
  | numeric
  | text
  | boolean
  deriving DecidableEq, Repr, Inhabited

namespace CellKind

def name : CellKind → String
  | .blank => "blank"
  | .numeric => "numeric"
  | .text => "text"
  | .boolean => "boolean"

end CellKind

namespace Cell

def kind : Cell → CellKind
  | .blank => .blank
  | .number _ => .numeric
  | .text _ => .text
  | .boolean _ => .boolean

/-- The number of a numeric cell; zero for the others. -/
def numberValue : Cell → Decimal
  | .number v => v
  | _ => Decimal.zero

/-- The text of a text cell; empty for the others. -/
def textValue : Cell → String
  | .text s => s
  | _ => ""

/-- The truth value of a truth cell; false for the others. -/
def boolValue : Cell → Bool
  | .boolean b => b
  | _ => false

def ofJson (j : Json) : Except String Cell :=
  match j with
  | .null => .ok .blank
  | .str s => .ok (if s.isEmpty then .blank else .text s)
  | .bool b => .ok (.boolean b)
  | .num lit =>
    match Decimal.ofString lit with
    | .ok d => .ok (.number d)
    | .error _ => .error ("unsupported cell value " ++ lit)
  | other => .error ("unsupported cell value " ++ other.source)

def toJson : Cell → Json
  | .blank => .null
  | .number v => .num v.toString
  | .text s => .str s
  | .boolean b => .bool b

/-- Reads a cell inside a document; a refused value stops the reading. -/
def decoder : Decoder Cell := fun _ j _ =>
  match ofJson j with
  | .ok c => pure c
  | .error msg => Decoding.refuse msg

end Cell

/-- A sheet as rows of cells; row 0 is the header. -/
abbrev Grid := List (List Cell)

namespace Grid

/-- Reads a grid: an array of arrays of cells. -/
def decoder : Decoder Grid :=
  Decoder.list (Decoder.list Cell.decoder .blank "[]admission.Cell") [] "admission.Grid"

/-- The cell at a place; a place past the end of its row is blank. -/
def cell (g : Grid) (row col : Nat) : Cell := ((g.getD row []).getD col .blank)

/-- Whether a row has no cell that is not blank. -/
def blankRow (g : Grid) (row : Nat) : Bool := (g.getD row []).all (·.kind == .blank)

def toJson (g : Grid) : Json := .arr (g.map fun row => .arr (row.map Cell.toJson))

end Grid

end Admissions
