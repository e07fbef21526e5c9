import Admissions.Json.Write
import Admissions.Decimal.Binary
import Admissions.Pattern.Machine

namespace Admissions

/-- The kinds of value a schema can ask for. -/
inductive ValueKind where
  | array
  | boolean
  | integer
  | number
  | null
  | object
  | string
  deriving BEq, DecidableEq, Repr, Inhabited

namespace ValueKind

def all : List ValueKind := [.array, .boolean, .integer, .number, .null, .object, .string]

def name : ValueKind → String
  | .array => "array"
  | .boolean => "boolean"
  | .integer => "integer"
  | .number => "number"
  | .null => "null"
  | .object => "object"
  | .string => "string"

def ofName? (s : String) : Option ValueKind := all.find? (·.name == s)

end ValueKind

/-- The drafts of the schema language. A schema that names none is read with the
keywords of every draft, taking `exclusiveMinimum` and `exclusiveMaximum` either as
the draft 4 flags or as bounds of their own. -/
inductive Draft where
  | draft4
  | draft6
  | draft7
  | mixed
  deriving BEq, DecidableEq, Repr, Inhabited

namespace Draft

/-- The number of a draft; the mixed reading comes after every draft. -/
def rank : Draft → Nat
  | .draft4 => 4
  | .draft6 => 6
  | .draft7 => 7
  | .mixed => 1000

/-- Whether a draft has the keywords of draft `n`. -/
def hasKeywordsOf (d : Draft) (n : Nat) : Bool := d.rank ≥ n

/-- The draft a `$schema` address names. -/
def ofAddress : String → Option Draft
  | "http://json-schema.org/draft-04/schema" => some .draft4
  | "http://json-schema.org/draft-06/schema" => some .draft6
  | "http://json-schema.org/draft-07/schema" => some .draft7
  | _ => none

end Draft

namespace Json

/-- How deeply values nest inside a value; a scalar has depth 1. -/
def depth : Json → Nat
  | .arr items _ => 1 + (items.attach.map fun ⟨x, _⟩ => x.depth).foldl max 0
  | .obj fields _ => 1 + (fields.attach.map fun ⟨(_, v), _⟩ => v.depth).foldl max 0
  | _ => 1
termination_by j => sizeOf j
decreasing_by
  all_goals simp_wf
  · have := List.sizeOf_lt_of_mem ‹_ ∈ items›; omega
  · have := List.sizeOf_lt_of_mem ‹_ ∈ fields›; simp at this; omega

def size : Json → Nat
  | .arr items _ => 1 + (items.attach.map fun ⟨x, _⟩ => x.size).foldr (· + ·) 0
  | .obj fields _ => 1 + (fields.attach.map fun ⟨(_, v), _⟩ => v.size).foldr (· + ·) 0
  | _ => 1
termination_by j => sizeOf j
decreasing_by
  all_goals simp_wf
  · have := List.sizeOf_lt_of_mem ‹_ ∈ items›; omega
  · have := List.sizeOf_lt_of_mem ‹_ ∈ fields›; simp at this; omega

/-- The members of an object as a keyed map holds them: the last of repeated keys
wins, in order of first appearance. -/
def members {α : Type} (fields : List (String × α)) : List (String × α) :=
  let keys := (fields.map (·.1)).eraseDups
  keys.filterMap fun k => (fields.reverse.find? (·.1 == k)).map fun kv => (k, kv.2)

/-- A value with every object reduced to its members. -/
def collapse : Json → Json
  | .arr items _ => .arr (items.attach.map fun ⟨x, _⟩ => x.collapse)
  | .obj fields _ => .obj (members (fields.attach.map fun ⟨(k, v), _⟩ => (k, v.collapse)))
  | j => j
termination_by j => sizeOf j
decreasing_by
  all_goals simp_wf
  · have := List.sizeOf_lt_of_mem ‹_ ∈ items›; omega
  · have := List.sizeOf_lt_of_mem ‹_ ∈ fields›; simp at this; omega

def member? (j : Json) (key : String) : Option Json :=
  match j with
  | .obj fields _ => (fields.reverse.find? (·.1 == key)).map (·.2)
  | _ => none

/-- The digits and the power of ten a number literal writes: the literal is
`digits × 10^power`. -/
def literalParts (lit : String) : Int × Int :=
  let cs := lit.toList
  let (neg, cs) := match cs with
    | '-' :: rest => (true, rest)
    | _ => (false, cs)
  let (body, exp) := match cs.findIdx? (fun c => c = 'e' || c = 'E') with
    | some i =>
      let e := cs.drop (i + 1)
      let (eneg, edigits) := match e with
        | '-' :: rest => (true, rest)
        | '+' :: rest => (false, rest)
        | _ => (false, e)
      let v : Int := (edigits.foldl (fun (n : Nat) (c : Char) => n * 10 + (c.toNat - 48)) 0 : Nat)
      (cs.take i, if eneg then -v else v)
    | none => (cs, 0)
  let (whole, frac) := match body.findIdx? (· = '.') with
    | some i => (body.take i, body.drop (i + 1))
    | none => (body, [])
  let m : Nat := (whole ++ frac).foldl (fun (n : Nat) (c : Char) => n * 10 + (c.toNat - 48)) 0
  (if neg then -(m : Int) else m, exp - frac.length)

/-- The exponent a number literal writes after its `e`; zero when it has none. -/
def literalExponent (lit : String) : Int :=
  match lit.toList.dropWhile (fun c => c ≠ 'e' && c ≠ 'E') with
  | [] => 0
  | _ :: rest =>
    let (neg, digits) := match rest with
      | '-' :: more => (true, more)
      | '+' :: more => (false, more)
      | more => (false, more)
    let v : Int := (digits.foldl (fun (n : Nat) (c : Char) => n * 10 + (c.toNat - 48)) 0 : Nat)
    if neg then -v else v

/-- The exact value of a number literal as an arbitrary-precision fraction reads it:
the written exponent must be a 64-bit integer, and unless the digits are all zero
the power of ten they come to must lie within a million of zero. -/
def exactValue? (lit : String) : Option Decimal :=
  let (m, e) := literalParts lit
  let x := literalExponent lit
  if x < -Int.pow 2 63 || x ≥ Int.pow 2 63 then none
  else if m = 0 then some ⟨0, 0⟩
  else if e.natAbs > 1000000 then none
  else some ⟨m, e⟩

/-- The double nearest to a number literal; `none` when it is too large. -/
def double? (lit : String) : Option Binary64 :=
  let (m, e) := literalParts lit
  Binary64.ofDecimal ⟨m, e⟩ (lit.startsWith "-")

/-- Whether a value is a number with no fractional part. -/
def isWholeNumber : Json → Bool
  | .num lit => ((exactValue? lit).map Decimal.isInteger).getD false
  | _ => false

/-- The characters of a string body with the escapes of canonical text: those of
compact text, and the markup characters and line separators as `\u` escapes. -/
def escapeMarkup : List Char → List Char
  | [] => []
  | c :: cs =>
    let head : List Char :=
      if c = '<' || c = '>' || c = '&' || c = '\u2028' || c = '\u2029' then
        '\\' :: 'u' :: (hexDigits 4 c.toNat).toList
      else escapeChars [c]
    head ++ escapeMarkup cs

/-- The canonical text of a value, or the refusal of the first number, in the
order the text is written, that is too large for a double. -/
def canonical : Json → Except String String
  | .null => .ok "null"
  | .bool true => .ok "true"
  | .bool false => .ok "false"
  | .num lit =>
    match double? lit with
    | some x => .ok x.jsonText
    | none => .error ("json: cannot unmarshal number " ++ lit ++ " into Go value of type float64")
  | .str s => .ok ("\"" ++ String.ofList (escapeMarkup s.toList) ++ "\"")
  | .arr items _ => do
    let texts ← items.attach.mapM fun ⟨x, _⟩ => x.canonical
    return "[" ++ ",".intercalate texts ++ "]"
  | .obj fields _ =>
    let texts := fields.attach.map fun ⟨(k, v), _⟩ => (k, v.canonical)
    let sorted := (members texts).mergeSort fun a b => decide (a.1 ≤ b.1)
    (sorted.mapM fun ((k, t) : String × Except String String) =>
      t.map fun t => "\"" ++ String.ofList (escapeMarkup k.toList) ++ "\":" ++ t).map fun ts =>
      "\x7b" ++ ",".intercalate ts ++ "\x7d"
termination_by j => sizeOf j
decreasing_by
  all_goals simp_wf
  · have := List.sizeOf_lt_of_mem ‹_ ∈ items›; omega
  · have := List.sizeOf_lt_of_mem ‹_ ∈ fields›; simp at this; omega

end Json

end Admissions
