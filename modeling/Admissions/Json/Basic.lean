namespace Admissions

/-- Two lower-case hexadecimal digits of a byte, or `width` digits in general. -/
def hexDigits (width n : Nat) : String :=
  let ds := Nat.toDigits 16 n
  String.ofList (List.replicate (width - ds.length) '0' ++ ds)

/-- A JSON value. Numbers hold their literal text; objects hold their members
in order of appearance, duplicates included. An array or object read from text keeps
the text it was written as where that is not its compact text. -/
inductive Json where
  | null
  | bool (b : Bool)
  | num (literal : String)
  | str (s : String)
  | arr (items : List Json) (written : Option String := none)
  | obj (fields : List (String × Json)) (written : Option String := none)
  deriving Inhabited, Repr, BEq

namespace Json

def kindName : Json → String
  | .null => "null"
  | .bool _ => "bool"
  | .num _ => "number"
  | .str _ => "string"
  | .arr .. => "array"
  | .obj .. => "object"

/-- The member named exactly `key`; of duplicates, the last one written. -/
def field? (j : Json) (key : String) : Option Json :=
  match j with
  | .obj fields _ => (fields.reverse.find? (·.1 == key)).map (·.2)
  | _ => none

/-- A member that is present and not `null`. -/
def given? (j : Json) (key : String) : Option Json :=
  match j.field? key with
  | some .null => none
  | other => other

def ofNat (n : Nat) : Json := .num (toString n)

/-- A number written from an integer, with a leading minus when negative. -/
def ofInt (i : Int) : Json :=
  if i < 0 then .num ("-" ++ toString i.natAbs) else .num (toString i.natAbs)

/-- `null` for an absent value. -/
def ofOption {α : Type} (f : α → Json) : Option α → Json
  | some a => f a
  | none => .null

def ofStrings (xs : List String) : Json := .arr (xs.map .str)

/-- Sorts the members of every object by key and keeps the last of duplicates,
which is how a keyed map is written out. -/
def sortKeys : Json → Json
  | .arr items _ => .arr (items.attach.map fun ⟨x, _⟩ => x.sortKeys)
  | .obj fields _ =>
    let kept := fields.attach.map fun ⟨(k, v), _⟩ => (k, v.sortKeys)
    let distinct := kept.reverse.foldl
      (fun acc kv => if acc.any (·.1 == kv.1) then acc else acc ++ [kv]) []
    .obj (distinct.mergeSort fun a b => decide (a.1 ≤ b.1))
  | other => other
termination_by j => sizeOf j
decreasing_by
  all_goals simp_wf
  · have := List.sizeOf_lt_of_mem ‹_ ∈ items›; omega
  · have := List.sizeOf_lt_of_mem ‹_ ∈ fields›; simp at this; omega

end Json

end Admissions
