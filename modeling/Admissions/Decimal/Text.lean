import Admissions.Decimal.Basic

namespace Admissions

/-- Why a text is not a decimal. -/
inductive DecimalTextError where
  /-- The exponent has a character other than a sign and digits, or none. -/
  | exponentNotNumeric (text : String)
  /-- The exponent, or the exponent after the point is counted, leaves 32 bits. -/
  | exponentTooLong (text : String)
  /-- More than one point. -/
  | tooManyPoints (text : String)
  /-- The digits are not a signed integer. -/
  | notANumber (text : String)
  deriving Repr, BEq

namespace DecimalTextError

def message : DecimalTextError → String
  | .exponentNotNumeric t => "can't convert " ++ t ++ " to decimal: exponent is not numeric"
  | .exponentTooLong t => "can't convert " ++ t ++ " to decimal: fractional part too long"
  | .tooManyPoints t => "can't convert " ++ t ++ " to decimal: too many .s"
  | .notANumber t => "can't convert " ++ t ++ " to decimal"

end DecimalTextError

/-- Why a text is not a signed integer of a given width. -/
inductive IntTextError where
  | malformed
  | outOfRange
  deriving Repr, BEq

/-- The value of decimal digits, refusing any other character, and refusing as
soon as the value passes `limit`. The first of the two faults met wins. -/
def digitsValue (limit : Nat) : List Char → Nat → Except IntTextError Nat
  | [], acc => .ok acc
  | c :: cs, acc =>
    if c.isDigit then
      let next := acc * 10 + (c.toNat - '0'.toNat)
      if next > limit then .error .outOfRange else digitsValue limit cs next
    else .error .malformed

/-- Reads a signed integer of `bits` bits: an optional `+` or `-`, then at least
one digit. -/
def readSignedInt (bits : Nat) (cs : List Char) : Except IntTextError Int :=
  let (neg, body) := match cs with
    | '-' :: rest => (true, rest)
    | '+' :: rest => (false, rest)
    | _ => (false, cs)
  if body.isEmpty then .error .malformed
  else
    match digitsValue (Nat.pow 2 bits - 1) body 0 with
    | .error e => .error e
    | .ok n =>
      if neg then (if n > Nat.pow 2 (bits - 1) then .error .outOfRange else .ok (-(n : Int)))
      else (if n ≥ Nat.pow 2 (bits - 1) then .error .outOfRange else .ok n)

/-- Reads an integer of any size: an optional sign, then at least one digit. -/
def readBigInt (cs : List Char) : Option Int :=
  let (neg, body) := match cs with
    | '-' :: rest => (true, rest)
    | '+' :: rest => (false, rest)
    | _ => (false, cs)
  if body.isEmpty || !body.all Char.isDigit then none
  else
    let n := body.foldl (fun acc c => acc * 10 + (c.toNat - '0'.toNat)) 0
    some (if neg then -(n : Int) else n)

namespace Decimal

def minExponent : Int := -Int.pow 2 31
def maxExponent : Int := Int.pow 2 31 - 1

def ofChars (cs : List Char) : Except DecimalTextError Decimal := do
  let whole := String.ofList cs
  let (body, exp) ← match cs.findIdx? (fun c => c = 'e' || c = 'E') with
    | none => pure (cs, (0 : Int))
    | some i =>
      match readSignedInt 32 (cs.drop (i + 1)) with
      | .ok e => pure (cs.take i, e)
      | .error .outOfRange => .error (.exponentTooLong whole)
      | .error .malformed => .error (.exponentNotNumeric whole)
  let text := String.ofList body
  if (body.filter (· = '.')).length > 1 then .error (.tooManyPoints text)
  else
    let intChars := body.filter (· ≠ '.')
    let fracLen := match body.findIdx? (· = '.') with
      | some i => body.length - (i + 1)
      | none => 0
    let exponent := exp - fracLen
    let mantissa ← if intChars.length ≤ 18 then
        match readSignedInt 64 intChars with
        | .ok m => pure m
        | .error _ => .error (.notANumber text)
      else
        match readBigInt intChars with
        | some m => pure m
        | none => .error (.notANumber text)
    if exponent < minExponent ∨ exponent > maxExponent then .error (.exponentTooLong whole)
    else pure ⟨mantissa, exponent⟩

def ofString (s : String) : Except DecimalTextError Decimal := ofChars s.toList

def natDigits (n : Nat) : List Char := Nat.toDigits 10 n

/-- Integer digits and fractional digits of the absolute value, the fraction
written with exactly `-exponent` digits. -/
def splitDigits (d : Decimal) : List Char × List Char :=
  if 0 ≤ d.exponent then (natDigits (d.mantissaAt 0).natAbs, [])
  else
    let places := (-d.exponent).toNat
    let ds := natDigits d.mantissa.natAbs
    if ds.length > places then (ds.take (ds.length - places), ds.drop (ds.length - places))
    else (['0'], List.replicate (places - ds.length) '0' ++ ds)

def trimZeros (cs : List Char) : List Char := (cs.reverse.dropWhile (· = '0')).reverse

/-- Plain notation: no exponent, no trailing fractional zeros, no minus on zero. -/
def toText (d : Decimal) (keepZeros : Bool) : String :=
  let (intDigits, frac) := d.splitDigits
  let frac := if keepZeros then frac else trimZeros frac
  let number := if frac.isEmpty then intDigits else intDigits ++ '.' :: frac
  String.ofList (if d.mantissa < 0 then '-' :: number else number)

/-- The text of a value: `1.50` is written `1.5`, `1e3` is `1000`, `-0` is `0`. -/
protected def toString (d : Decimal) : String := d.toText false

instance : ToString Decimal := ⟨Decimal.toString⟩

/-- The value rounded to `places` places and written with all of them. -/
def toFixed (d : Decimal) (places : Nat) : String := (d.round places).toText true

end Decimal

end Admissions
