import Admissions.Text.Case
import Admissions.Text.Script

namespace Admissions

/-- A set of code points: sorted ranges that neither overlap nor touch. -/
structure CharRanges where
  ranges : Array (Nat × Nat)
  deriving BEq, Repr, Inhabited

namespace CharRanges

def maxCode : Nat := 0x10FFFF

/-- Sorted ranges with overlapping and touching neighbours joined; `acc` holds the
ranges joined so far, the last one first. -/
def joinSorted : List (Nat × Nat) → List (Nat × Nat) → List (Nat × Nat)
  | [], acc => acc.reverse
  | (lo, hi) :: rest, (plo, phi) :: acc =>
    if lo ≤ phi + 1 then joinSorted rest ((plo, max phi hi) :: acc)
    else joinSorted rest ((lo, hi) :: (plo, phi) :: acc)
  | r :: rest, [] => joinSorted rest [r]

/-- The set of the code points in any of some ranges, each given low end first. -/
def ofList (rs : List (Nat × Nat)) : CharRanges :=
  ⟨(joinSorted (rs.mergeSort fun a b => a.1 ≤ b.1) []).toArray⟩

/-- The empty set. -/
def empty : CharRanges := ⟨#[]⟩

def all : CharRanges := ⟨#[(0, maxCode)]⟩

def single (v : Nat) : CharRanges := ⟨#[(v, v)]⟩

def union (a b : CharRanges) : CharRanges := ofList (a.ranges.toList ++ b.ranges.toList)

/-- The gaps between sorted ranges, from `start` on. -/
def gaps : List (Nat × Nat) → Nat → List (Nat × Nat)
  | [], start => if start ≤ maxCode then [(start, maxCode)] else []
  | (lo, hi) :: rest, start =>
    (if start < lo then [(start, lo - 1)] else []) ++ gaps rest (hi + 1)

/-- The code points not in a set. -/
def complement (a : CharRanges) : CharRanges := ⟨(gaps a.ranges.toList 0).toArray⟩

/-- Whether one of the ranges from index `lo` up to `hi` (not included) holds `v`,
halving the search at most `fuel` times. -/
def search (rs : Array (Nat × Nat)) (v : Nat) : Nat → Nat → Nat → Bool
  | 0, _, _ => false
  | fuel + 1, lo, hi =>
    if hi ≤ lo then false
    else
      let mid := (lo + hi) / 2
      match rs[mid]? with
      | some (a, b) =>
        if v < a then search rs v fuel lo mid
        else if b < v then search rs v fuel (mid + 1) hi
        else true
      | none => false

def contains (a : CharRanges) (v : Nat) : Bool := search a.ranges v 64 0 a.ranges.size

def count (a : CharRanges) : Nat := a.ranges.foldl (fun n (lo, hi) => n + (hi + 1 - lo)) 0

/-- The code points a code point folds together with, itself first among them when
it is the least; a code point that is no character folds with nothing. -/
def orbit (v : Nat) : List Nat := if v.isValidChar then Text.foldOrbit (Char.ofNat v) else [v]

def leastFold (v : Nat) : Nat := (orbit v).foldl min v

/-- The code points of a run of a folding table: every `step`-th one from `low` to
`high`. -/
def runMembers (r : Text.CaseRun) : List Nat :=
  (List.range ((r.high - r.low) / max r.step 1 + 1)).map fun i => r.low + i * max r.step 1

def foldMembers : List Nat :=
  Text.foldRuns.toList.flatMap fun r =>
    runMembers r ++ (runMembers r).map fun (v : Nat) => ((v : Int) + r.shift).toNat

/-- The set closed under case folding: with every code point that folds together
with a member. Only code points that fold with others can join. -/
def foldClosed (a : CharRanges) : CharRanges :=
  let joining := foldMembers.filter fun v =>
    !a.contains v && (orbit v).any a.contains
  if joining.isEmpty then a else ofList (a.ranges.toList ++ joining.map fun v => (v, v))

/-- The code points of the runs of a table whose value passes a test; each run
lasts up to the start of the next. -/
def ofRuns (runs : Array (Nat × String)) (keep : String → Bool) : CharRanges :=
  let rs := runs.toList
  ofList ((rs.zip rs.tail).filterMap fun ((start, value), (next, _)) =>
    if keep value && start < next then some (start, next - 1) else none)

def ofCategories (keep : String → Bool) : CharRanges := ofRuns Text.categoryRuns keep

def ofScript (name : String) : CharRanges := ofRuns Text.scriptRuns (· == name)

end CharRanges

namespace CharClass

/-- The ASCII classes named in brackets, as `[:name:]`. -/
def bracketNamed : String → Option CharRanges
  | "alnum" => some (.ofList [(48, 57), (65, 90), (97, 122)])
  | "alpha" => some (.ofList [(65, 90), (97, 122)])
  | "ascii" => some (.ofList [(0, 127)])
  | "blank" => some (.ofList [(9, 9), (32, 32)])
  | "cntrl" => some (.ofList [(0, 31), (127, 127)])
  | "digit" => some (.ofList [(48, 57)])
  | "graph" => some (.ofList [(33, 126)])
  | "lower" => some (.ofList [(97, 122)])
  | "print" => some (.ofList [(32, 126)])
  | "punct" => some (.ofList [(33, 47), (58, 64), (91, 96), (123, 126)])
  | "space" => some (.ofList [(9, 13), (32, 32)])
  | "upper" => some (.ofList [(65, 90)])
  | "word" => some (.ofList [(48, 57), (65, 90), (95, 95), (97, 122)])
  | "xdigit" => some (.ofList [(48, 57), (65, 70), (97, 102)])
  | _ => none

/-- The classes of the escapes `\d`, `\s` and `\w`, and whether the escape names
the complement (`\D`, `\S`, `\W`). -/
def escapeNamed : Char → Option (CharRanges × Bool)
  | 'd' => some (.ofList [(48, 57)], false)
  | 'D' => some (.ofList [(48, 57)], true)
  | 's' => some (.ofList [(9, 10), (12, 13), (32, 32)], false)
  | 'S' => some (.ofList [(9, 10), (12, 13), (32, 32)], true)
  | 'w' => some (.ofList [(48, 57), (65, 90), (95, 95), (97, 122)], false)
  | 'W' => some (.ofList [(48, 57), (65, 90), (95, 95), (97, 122)], true)
  | _ => none

/-- A Unicode class name as it is compared: ASCII letters in lower case, without
spaces, underscores and hyphens. -/
def looseName (name : String) : String :=
  String.ofList (name.toList.filterMap fun c =>
    if c = ' ' || c = '_' || c = '-' then none
    else if 'A' ≤ c && c ≤ 'Z' then some (Char.ofNat (c.toNat + 32))
    else some c)

/-- The general categories a class may name: the two-letter ones and the major
classes. -/
def categoryCodes : List String :=
  ["C", "Cc", "Cf", "Cn", "Co", "Cs", "L", "Ll", "Lm", "Lo", "Lt", "Lu", "M", "Mc", "Me", "Mn",
    "N", "Nd", "Nl", "No", "P", "Pc", "Pd", "Pe", "Pf", "Pi", "Po", "Ps", "S", "Sc", "Sk", "Sm",
    "So", "Z", "Zl", "Zp", "Zs"]

/-- The long names and aliases of the general categories, with the categories they
stand for. -/
def categoryAliases : List (String × String) :=
  [("Cased_Letter", "LC"), ("Close_Punctuation", "Pe"), ("Combining_Mark", "M"),
    ("Connector_Punctuation", "Pc"), ("Control", "Cc"), ("Currency_Symbol", "Sc"),
    ("Dash_Punctuation", "Pd"), ("Decimal_Number", "Nd"), ("Enclosing_Mark", "Me"),
    ("Final_Punctuation", "Pf"), ("Format", "Cf"), ("Initial_Punctuation", "Pi"),
    ("Letter", "L"), ("Letter_Number", "Nl"), ("Line_Separator", "Zl"),
    ("Lowercase_Letter", "Ll"), ("Mark", "M"), ("Math_Symbol", "Sm"),
    ("Modifier_Letter", "Lm"), ("Modifier_Symbol", "Sk"), ("Nonspacing_Mark", "Mn"),
    ("Number", "N"), ("Open_Punctuation", "Ps"), ("Other", "C"), ("Other_Letter", "Lo"),
    ("Other_Number", "No"), ("Other_Punctuation", "Po"), ("Other_Symbol", "So"),
    ("Paragraph_Separator", "Zp"), ("Private_Use", "Co"), ("Punctuation", "P"),
    ("Separator", "Z"), ("Space_Separator", "Zs"), ("Spacing_Mark", "Mc"),
    ("Surrogate", "Cs"), ("Symbol", "S"), ("Titlecase_Letter", "Lt"),
    ("Unassigned", "Cn"), ("Uppercase_Letter", "Lu"), ("cntrl", "Cc"), ("digit", "Nd"),
    ("punct", "P")]

/-- The code points of a general category; a major class holds every category of
its letter, and `LC` the cased letters. -/
def categorySet (code : String) : CharRanges :=
  if code = "LC" then CharRanges.ofCategories fun c => c == "Lu" || c == "Ll" || c == "Lt"
  else if code.length = 1 then CharRanges.ofCategories (·.startsWith code)
  else CharRanges.ofCategories (· == code)

/-- The set a Unicode class name names, the name compared loosely, and whether the
set takes in the code points that fold together with its members when case is
ignored. It does for every name but the cased letters: `LC` is no category of the
character database but stands for three of them, and has no table of such code
points beside it. -/
def unicodeNamed (name : String) : Option (CharRanges × Bool) :=
  let key := looseName name
  if key = "any" then some (CharRanges.all, true)
  else if key = "assigned" then some ((categorySet "Cn").complement, true)
  else if key = "ascii" then some (.ofList [(0, 127)], true)
  else if key = "lc" then some (categorySet "LC", false)
  else match categoryCodes.find? (looseName · == key) with
    | some code => some (categorySet code, true)
    | none =>
      match Text.scriptNames.toList.find? fun s => s != "Unknown" && looseName s == key with
      | some script => some (CharRanges.ofScript script, true)
      | none =>
        (categoryAliases.find? (looseName ·.1 == key)).map fun (_, code) => (categorySet code, code != "LC")

end CharClass

end Admissions
