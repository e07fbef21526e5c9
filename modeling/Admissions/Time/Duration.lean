import Admissions.Time.Text
import Admissions.Decimal.Binary

namespace Admissions

/-- Why a text is not a duration. -/
inductive DurationError where
  | invalid (text : String)
  | missingUnit (text : String)
  | unknownUnit (unit text : String)
  deriving Repr, BEq

namespace DurationError

def message : DurationError → String
  | .invalid t => "time: invalid duration " ++ quoteTimeText t
  | .missingUnit t => "time: missing unit in duration " ++ quoteTimeText t
  | .unknownUnit u t => "time: unknown unit " ++ quoteTimeText u ++ " in duration " ++ quoteTimeText t

end DurationError

namespace Duration

def unitNanos : String → Option Nat
  | "ns" => some 1
  | "us" => some 1000
  | "µs" => some 1000
  | "μs" => some 1000
  | "ms" => some 1000000
  | "s" => some 1000000000
  | "m" => some 60000000000
  | "h" => some 3600000000000
  | _ => none

/-- The largest count of nanoseconds a duration may reach in magnitude while read. -/
def limit : Nat := Nat.pow 2 63

def numeric (c : Char) : Bool := c = '.' || c.isDigit

/-- Reads the digits of a fraction: the value of the leading digits, kept while it
stays within `2^63`, and their scale, ten to the number of digits kept, as a double
reaches it by repeated multiplication by ten, in units of `2^-1074` (`none` once it
overflows). Digits past the last one kept add nothing. -/
def fraction : List Char → Nat → Option Nat → Nat × Option Nat
  | [], x, scale => (x, scale)
  | d :: ds, x, scale =>
    let y := x * 10 + (d.toNat - 48)
    if x > (limit - 1) / 10 || y > limit then (x, scale)
    else fraction ds y (scale.bind fun s => Binary64.roundScaled (s * 10) 1)

/-- The nanoseconds of the fraction `f / scale` of a unit, as doubles compute them:
`f` and `unit / scale` each rounded to a double, their product rounded, and the
result cut to a whole number. An infinite scale gives nothing. -/
def fractionNanos (f : Nat) (scale : Option Nat) (unit : Nat) : Nat :=
  let one := Nat.pow 2 1074
  match scale, Binary64.roundUnits f 1 with
  | some s, some a =>
    match Binary64.roundScaled (unit * one * one) s with
    | some b => (Binary64.roundScaled (a * b) one).getD 0 / one
    | none => 0
  | _, _ => 0

/-- One term at the front: its nanoseconds and what follows it. A whole part past
`2^63` is refused before the unit is read. -/
def readTerm (orig : String) (s : List Char) : Except DurationError (Nat × List Char) :=
  let whole := s.takeWhile Char.isDigit
  let afterWhole := s.dropWhile Char.isDigit
  let v := whole.foldl (fun acc d => acc * 10 + (d.toNat - 48)) 0
  let (frac, afterFrac) := match afterWhole with
    | '.' :: more => (more.takeWhile Char.isDigit, more.dropWhile Char.isDigit)
    | other => ([], other)
  if v > limit ∨ whole.isEmpty ∧ frac.isEmpty then .error (.invalid orig)
  else
    let unit := afterFrac.takeWhile fun d => !numeric d
    if unit.isEmpty then .error (.missingUnit orig)
    else
      match unitNanos (String.ofList unit) with
      | none => .error (.unknownUnit (String.ofList unit) orig)
      | some u =>
        let (f, scale) := fraction frac 0 (some (Nat.pow 2 1074))
        let value := v * u + (if f > 0 then fractionNanos f scale u else 0)
        if v > limit / u ∨ value > limit then .error (.invalid orig)
        else .ok (value, afterFrac.drop unit.length)

/-- Reads the terms of a duration after its sign, adding their nanoseconds in a
64-bit word, where two terms of `2^63` make zero. Each term takes at least one
character, so `fuel` of the text's length suffices. -/
def readTerms (orig : String) : Nat → Nat → List Char → Except DurationError Nat
  | _, total, [] => .ok total
  | 0, _, _ => .error (.invalid orig)
  | fuel + 1, total, c :: cs =>
    if !numeric c then .error (.invalid orig)
    else
      match readTerm orig (c :: cs) with
      | .error e => .error e
      | .ok (value, rest) =>
        let sum := (total + value) % Nat.pow 2 64
        if sum > limit then .error (.invalid orig)
        else readTerms orig fuel sum rest

def parse (text : String) : Except DurationError Int :=
  let cs := text.toList
  let (neg, body) := match cs with
    | '-' :: rest => (true, rest)
    | '+' :: rest => (false, rest)
    | _ => (false, cs)
  if body = ['0'] then .ok 0
  else if body.isEmpty then .error (.invalid text)
  else
    match readTerms text (body.length + 1) 0 body with
    | .error e => .error e
    | .ok n =>
      if neg then .ok (-(n : Int))
      else if n > limit - 1 then .error (.invalid text)
      else .ok n

end Duration

end Admissions
