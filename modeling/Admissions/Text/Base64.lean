namespace Admissions

namespace Base64

/-- The value of a base-64 digit. -/
def digit (c : Char) : Option Nat :=
  if 'A' ≤ c && c ≤ 'Z' then some (c.toNat - 65)
  else if 'a' ≤ c && c ≤ 'z' then some (c.toNat - 71)
  else if '0' ≤ c && c ≤ '9' then some (c.toNat + 4)
  else if c = '+' then some 62
  else if c = '/' then some 63
  else none

/-- The bytes of groups of four characters, padding allowed in the last group only. -/
def groups : List Char → Option (List Nat)
  | [] => some []
  | [a, b, '=', '='] => do
    let x ← digit a
    let y ← digit b
    return [(x * 4 + y / 16) % 256]
  | [a, b, c, '='] => do
    let x ← digit a
    let y ← digit b
    let z ← digit c
    return [(x * 4 + y / 16) % 256, (y * 16 + z / 4) % 256]
  | a :: b :: c :: d :: rest => do
    let x ← digit a
    let y ← digit b
    let z ← digit c
    let w ← digit d
    let more ← groups rest
    return [(x * 4 + y / 16) % 256, (y * 16 + z / 4) % 256, (z * 64 + w) % 256] ++ more
  | _ => none

/-- The bytes of padded base-64 text; `none` when it is not such text. -/
def decode? (s : String) : Option (List Nat) :=
  let cs := s.toList.filter fun c => c ≠ '\r' && c ≠ '\n'
  if cs.length % 4 ≠ 0 then none else groups cs

end Base64

end Admissions
