import Admissions.Decimal.Text
import Admissions.Text.Quote

namespace Admissions

namespace Numeral

/-- The value of a digit in any base up to 36. -/
def digitValue (c : Char) : Option Nat :=
  if '0' ≤ c && c ≤ '9' then some (c.toNat - '0'.toNat)
  else if 'a' ≤ c && c ≤ 'z' then some (c.toNat - 'a'.toNat + 10)
  else if 'A' ≤ c && c ≤ 'Z' then some (c.toNat - 'A'.toNat + 10)
  else none

/-- Whether the underscores of a numeral each stand between digits. -/
def underscoresFit (cs : List Char) : Bool :=
  let cs := match cs with
    | '-' :: rest => rest
    | '+' :: rest => rest
    | _ => cs
  let (hex, start, body) := match cs with
    | '0' :: p :: rest =>
      let l := Text.lowerChar p
      if l = 'b' || l = 'o' || l = 'x' then (decide (l = 'x'), '0', rest) else (false, '^', cs)
    | _ => (false, '^', cs)
  let isDigit (c : Char) : Bool :=
    c.isDigit || (hex && 'a' ≤ Text.lowerChar c && Text.lowerChar c ≤ 'f')
  let last := body.foldl (fun (saw : Char) c =>
    if saw = '×' then saw
    else if isDigit c then '0'
    else if c = '_' then (if saw = '0' then '_' else '×')
    else if saw = '_' then '×'
    else '!') start
  last ≠ '_' && last ≠ '×'

/-- The value of the digits of a numeral in a base, skipping underscores when
they are allowed; refuses a digit outside the base, and refuses as out of range
once the value passes `limit`. -/
def digitsIn (base limit : Nat) (underscores : Bool) : List Char → Nat → Except IntTextError Nat
  | [], acc => .ok acc
  | c :: cs, acc =>
    if c = '_' && underscores then digitsIn base limit underscores cs acc
    else match digitValue c with
      | some d =>
        if d ≥ base then .error .malformed
        else
          let next := acc * base + d
          if next > limit then .error .outOfRange else digitsIn base limit underscores cs next
      | none => .error .malformed

/-- Reads an unsigned numeral with a base prefix, up to `limit`. -/
def readNat (limit : Nat) (cs : List Char) : Except IntTextError Nat :=
  if cs.isEmpty then .error .malformed else
  let (base, digits) : Nat × List Char := match cs with
    | '0' :: p :: rest =>
      let l := Text.lowerChar p
      if rest.length ≥ 1 && l = 'b' then (2, rest)
      else if rest.length ≥ 1 && l = 'o' then (8, rest)
      else if rest.length ≥ 1 && l = 'x' then (16, rest)
      else (8, p :: rest)
    | '0' :: rest => (8, rest)
    | _ => (10, cs)
  match digitsIn base limit true digits 0 with
  | .error e => .error e
  | .ok n =>
    if digits.contains '_' && !underscoresFit cs then .error .malformed else .ok n

/-- Reads a signed numeral with a base prefix as an integer of `bits` bits. -/
def readInt (bits : Nat) (cs : List Char) : Except IntTextError Int :=
  let (neg, body) := match cs with
    | '-' :: rest => (true, rest)
    | '+' :: rest => (false, rest)
    | _ => (false, cs)
  match readNat (Nat.pow 2 64 - 1) body with
  | .error e => .error e
  | .ok n =>
    if neg then (if n > Nat.pow 2 (bits - 1) then .error .outOfRange else .ok (-(n : Int)))
    else (if n ≥ Nat.pow 2 (bits - 1) then .error .outOfRange else .ok n)

/-- The report of a numeral that did not read, naming the function that read it. -/
def refusal (fn : String) (text : String) : IntTextError → String
  | .malformed => "strconv." ++ fn ++ ": parsing " ++ Text.quote text ++ ": invalid syntax"
  | .outOfRange => "strconv." ++ fn ++ ": parsing " ++ Text.quote text ++ ": value out of range"

/-- Reads a boolean: `1`, `t`, `T`, `TRUE`, `true`, `True` and their negatives. -/
def readBool (s : String) : Option Bool :=
  match s with
  | "1" | "t" | "T" | "TRUE" | "true" | "True" => some true
  | "0" | "f" | "F" | "FALSE" | "false" | "False" => some false
  | _ => none

end Numeral

end Admissions
