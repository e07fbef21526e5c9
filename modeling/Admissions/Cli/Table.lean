import Admissions.Text.Quote

namespace Admissions

namespace TextTable

/-- A line of text being laid out: its cells and the text that ends it. -/
structure Line where
  cells : List String
  ending : String
  deriving Inhabited

def spaces (n : Nat) : String := String.ofList (List.replicate n ' ')

/-- A line written with the widths of the columns known so far: a cell in such a
column is padded to the column's width, a cell past them is written as it is. -/
def Line.write (widths : List Nat) (l : Line) : String :=
  String.join (l.cells.zipIdx.map fun (c, j) =>
    c ++ match widths[j]? with
      | some w => spaces (w - c.length)
      | none => "") ++ l.ending

/-- Whether a line has a cell in column `j`, a cell other than its last. -/
def Line.inColumn (j : Nat) (l : Line) : Bool := j + 1 < l.cells.length

/-- The width of column `j` in a block: its widest cell plus two. -/
def blockWidth (j : Nat) (block : List Line) : Nat :=
  (block.map fun l => ((l.cells[j]?).map String.length).getD 0 + 2).foldl max 0

/-- Lays out lines whose first `widths.length` columns are known: the lines are cut
into runs that do or do not have a cell in the next column; a run that does is a
block of that column, laid out with its width added. -/
def layout : Nat → List Nat → List Line → String
  | 0, widths, ls => String.join (ls.map (·.write widths))
  | fuel + 1, widths, ls =>
    let j := widths.length
    String.join ((ls.splitBy fun a b => a.inColumn j == b.inColumn j).map fun run =>
      if run.any (·.inColumn j) then layout fuel (widths ++ [blockWidth j run]) run
      else String.join (run.map (·.write widths)))

def layoutSection (ls : List Line) : String :=
  layout ((ls.map (·.cells.length)).foldl max 0) [] ls

/-- A writer part way through a text: what it has written, the lines of the
section still open, and the cells of the line being read. -/
structure Columns where
  out : String := ""
  lines : List Line := []
  cells : List String := []
  cell : String := ""
  deriving Inhabited

namespace Columns

def feed (w : Columns) (c : Char) : Columns :=
  if c = '\t' || c = '\x0b' then { w with cells := w.cells ++ [w.cell], cell := "" }
  else if c = '\n' || c = '\x0c' then
    let cells := w.cells ++ [w.cell]
    let lines := w.lines ++ [⟨cells, "\n"⟩]
    if c = '\x0c' || cells.length = 1 then
      { out := w.out ++ layoutSection lines }
    else { w with lines, cells := [], cell := "" }
  else { w with cell := w.cell.push c }

/-- Lays out what is left: the last line, if it has any cell, ends without a line
break. -/
def finish (w : Columns) : String :=
  let cells := if w.cell.isEmpty then w.cells else w.cells ++ [w.cell]
  w.out ++ layoutSection (w.lines ++ [⟨cells, ""⟩])

end Columns

def columns (text : String) : String :=
  (text.toList.foldl Columns.feed {}).finish

def rule (heading : String) : String := String.ofList (List.replicate heading.length '─')

def render (headers : List String) (rows : List (List String)) : String :=
  columns (String.join ((headers :: headers.map rule :: rows).map fun r => "\t".intercalate r ++ "\n"))

end TextTable

end Admissions
