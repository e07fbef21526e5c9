import Admissions.Decimal.Text

namespace Admissions

namespace Binary

/-- `n / d` rounded to the nearest integer, a tie going to the even one. -/
def roundHalfEven (n d : Nat) : Nat :=
  let q := n / d
  let r := n % d
  if 2 * r > d || (2 * r = d && q % 2 = 1) then q + 1 else q

/-- The number of decimal digits of a positive number; one for zero. -/
def digitCount (n : Nat) : Nat := (Nat.toDigits 10 n).length

/-- The floor of the binary logarithm of the fraction `n / d`, both positive. -/
def log2Ratio (n d : Nat) : Int :=
  let guess : Int := (n.log2 : Int) - (d.log2 : Int)
  let reaches : Bool :=
    if 0 ≤ guess then decide (n ≥ d * Nat.pow 2 guess.toNat) else decide (n * Nat.pow 2 (-guess).toNat ≥ d)
  if reaches then guess else guess - 1

/-- The fraction `n / d` rounded to a number of `p` significant bits, a tie going
to the even one: the significand `m`, with `2^(p-1) ≤ m < 2^p`, and the exponent
`e` of `m × 2^e`. -/
def roundToBits (p n d : Nat) : Nat × Int :=
  let shift : Int := (p : Int) - 1 - log2Ratio n d
  let m := if 0 ≤ shift then roundHalfEven (n * Nat.pow 2 shift.toNat) d
    else roundHalfEven n (d * Nat.pow 2 (-shift).toNat)
  if m = Nat.pow 2 p then (Nat.pow 2 (p - 1), -shift + 1) else (m, -shift)

/-- The decimal digits of `m × 2^e` without trailing zeros, and the place of the
decimal point: the value is `0.d₁d₂… × 10^point`. Zero has no digits. -/
def exactDigits (m : Nat) (e : Int) : List Nat × Int :=
  if m = 0 then ([], 0) else
  let (n, places) : Nat × Nat :=
    if 0 ≤ e then (m * Nat.pow 2 e.toNat, 0) else (m * Nat.pow 5 (-e).toNat, (-e).toNat)
  let ds := (Nat.toDigits 10 n).map fun c => c.toNat - 48
  let trimmed := (ds.reverse.dropWhile (· = 0)).reverse
  (trimmed, (ds.length : Int) - places)

def digitsValue (ds : List Nat) : Nat := ds.foldl (fun v d => 10 * v + d) 0

def natDigitList (n : Nat) : List Nat := (Nat.toDigits 10 n).map fun c => c.toNat - 48

def digitChars (ds : List Nat) : List Char := ds.map fun d => Char.ofNat (48 + d)

/-- Digits in exponent notation, `d.ddde±XX`, with `places` digits after the point
(padded with zeros) and at least two exponent digits. -/
def formatE (neg : Bool) (ds : List Nat) (point : Int) (places : Nat) : String :=
  let first := ds.headD 0
  let more := (ds.drop 1).take places
  let frac := more ++ List.replicate (places - more.length) 0
  let exp : Int := if ds.isEmpty then 0 else point - 1
  let expDigits := natDigitList exp.natAbs
  let expText := if exp.natAbs < 10 then 0 :: expDigits else expDigits
  (if neg then "-" else "") ++ String.ofList (digitChars [first]) ++
    (if places > 0 then "." ++ String.ofList (digitChars frac) else "") ++
    "e" ++ (if exp < 0 then "-" else "+") ++ String.ofList (digitChars expText)

/-- Digits in plain notation with `places` digits after the point. -/
def formatF (neg : Bool) (ds : List Nat) (point : Int) (places : Nat) : String :=
  let intPart : List Nat :=
    if 0 < point then
      let whole := ds.take point.toNat
      whole ++ List.replicate (point.toNat - whole.length) 0
    else [0]
  let frac : List Nat := (List.range places).map fun (i : Nat) =>
    let j : Int := point + (i : Int)
    if 0 ≤ j then (ds[j.toNat]?).getD 0 else 0
  (if neg then "-" else "") ++ String.ofList (digitChars intPart) ++
    (if places > 0 then "." ++ String.ofList (digitChars frac) else "")

/-- Shortest digits in the general notation: exponent notation when the exponent
is below `-4` or from `6` on, plain notation otherwise. -/
def formatG (neg : Bool) (ds : List Nat) (point : Int) : String :=
  let exp := point - 1
  if exp < -4 || exp ≥ 6 then formatE neg ds point (ds.length - 1)
  else formatF neg ds point ((ds.length : Int) - point).toNat

end Binary

/-- A finite double: its sign and its magnitude in units of `2^-1074`. -/
structure Binary64 where
  neg : Bool
  units : Nat
  deriving BEq, Repr, Inhabited

namespace Binary64

open Binary

def maxUnits : Nat := (Nat.pow 2 53 - 1) * Nat.pow 2 2045

/-- The magnitude of `a / d` units rounded to the nearest double, in units; `none`
when it overflows. -/
def roundScaled (a d : Nat) : Option Nat :=
  let units :=
    if a / d < Nat.pow 2 53 then roundHalfEven a d
    else
      let (m, e) := roundToBits 53 a d
      m * Nat.pow 2 e.toNat
  if units > maxUnits then none else some units

/-- The magnitude `n / d` rounded to the nearest double, in units; `none` when it
overflows. -/
def roundUnits (n d : Nat) : Option Nat := roundScaled (n * Nat.pow 2 1074) d

/-- The double nearest to a decimal, with the sign `negZero` gives zero; `none`
when it overflows. A value below `10^-330` is zero, and one of `10^310` or more
overflows. -/
def ofDecimal (x : Decimal) (negZero : Bool) : Option Binary64 :=
  let neg := x.mantissa < 0 || (x.mantissa = 0 && negZero)
  let m := x.mantissa.natAbs
  if m = 0 then some ⟨neg, 0⟩ else
  let size : Int := (digitCount m : Int) + x.exponent
  if size > 310 then none
  else if size < -330 then some ⟨neg, 0⟩
  else
    let (n, d) : Nat × Nat :=
      if 0 ≤ x.exponent then (m * Nat.pow 10 x.exponent.toNat, 1) else (m, Nat.pow 10 (-x.exponent).toNat)
    (roundUnits n d).map fun u => ⟨neg, u⟩

/-- Reads a number literal to the nearest double; a minus sign is kept on zero. -/
def ofText (s : String) : Option Binary64 :=
  match Decimal.ofString s with
  | .ok d => ofDecimal d (s.startsWith "-")
  | .error _ => none

def toDecimal (x : Binary64) : Decimal :=
  let mag : Int := ((x.units * Nat.pow 5 1074 : Nat) : Int)
  ⟨if x.neg then -mag else mag, -1074⟩

/-- The spacing of doubles at a magnitude, in units, as a power of two: its
exponent. -/
def spacingExp (units : Nat) : Nat := if units < Nat.pow 2 53 then 0 else units.log2 + 1 - 53

/-- The shortest digits of a double and the place of its decimal point: the value
is `0.d₁d₂… × 10^point`. Zero has no digits. -/
def shortest (x : Binary64) : List Nat × Int :=
  if x.units = 0 then ([], 0) else
  let s := spacingExp x.units
  -- the double, its midpoints and the candidates, in units of 10^-1075
  let unit := Nat.pow 5 1075
  let v := 2 * x.units * unit
  let upper := v + Nat.pow 2 s * unit
  let border := s ≥ 1 && x.units = Nat.pow 2 (s + 52)
  let lower := if border then v - Nat.pow 2 (s - 1) * unit else v - Nat.pow 2 s * unit
  let inclusive := (x.units / Nat.pow 2 s) % 2 = 0
  -- the candidates at scale 10^j: multiples of 10^j between the midpoints
  let lowest (j : Nat) : Nat :=
    let q := lower / Nat.pow 10 j
    let exact := lower % Nat.pow 10 j = 0
    if exact then (if inclusive then q else q + 1) else q + 1
  let highest (j : Nat) : Nat :=
    let q := upper / Nat.pow 10 j
    if upper % Nat.pow 10 j = 0 && !inclusive then q - 1 else q
  let pick (j : Nat) : Nat :=
    let lo := lowest j
    let hi := highest j
    let q := v / Nat.pow 10 j
    let r := v % Nat.pow 10 j
    let up := 2 * r > Nat.pow 10 j || (2 * r = Nat.pow 10 j && q % 2 = 1)
    if q < lo then lo else if up && q < hi then q + 1 else q
  let rec search : Nat → Nat
    | 0 => 0
    | j + 1 => if lowest (j + 1) ≤ highest (j + 1) then j + 1 else search j
  let j := search (digitCount upper)
  let ds := natDigitList (pick j)
  (ds, (ds.length : Int) + j - 1075)

def textF (x : Binary64) : String :=
  let (ds, point) := x.shortest
  formatF x.neg ds point ((ds.length : Int) - point).toNat

def textE (x : Binary64) : String :=
  let (ds, point) := x.shortest
  formatE x.neg ds point (ds.length - 1)

def textG (x : Binary64) : String :=
  let (ds, point) := x.shortest
  formatG x.neg ds point

/-- The text a JSON encoder writes: plain notation from `1e-6` up to below `1e21`,
exponent notation outside, with a negative exponent written without padding. -/
def jsonText (x : Binary64) : String :=
  let (ds, point) := x.shortest
  -- the magnitude is below 1e-6 when point < -5, and at least 1e21 when point > 21
  let small := !ds.isEmpty && point < -5
  let large := point > 21
  if small || large then
    let t := formatE x.neg ds point (ds.length - 1)
    match t.splitOn "e-0" with
    | [mant, e] => mant ++ "e-" ++ e
    | _ => t
  else formatF x.neg ds point ((ds.length : Int) - point).toNat

/-- The integer a conversion to a 64-bit integer gives: the value cut toward zero,
or `-2^63` when that is out of range. -/
def toInt64 (x : Binary64) : Int :=
  let whole : Nat := x.units / Nat.pow 2 1074
  let i : Int := if x.neg then -(whole : Int) else whole
  if i < -Int.pow 2 63 || i ≥ Int.pow 2 63 then -Int.pow 2 63 else i

def isWhole (x : Binary64) : Bool := x.units % Nat.pow 2 1074 = 0

end Binary64

/-- An arbitrary-precision binary number made from an exact fraction, written the
way its general notation writes it at the shortest precision. -/
def Decimal.binaryText (x : Decimal) : String :=
  let neg := x.mantissa < 0
  let m := x.mantissa.natAbs
  if m = 0 then "0" else
  let (n0, d0) : Nat × Nat :=
    if 0 ≤ x.exponent then (m * Nat.pow 10 x.exponent.toNat, 1) else (m, Nat.pow 10 (-x.exponent).toNat)
  let g := Nat.gcd n0 d0
  let n := n0 / g
  let d := d0 / g
  let p := max (max (n.log2 + 1) (d.log2 + 1)) 64
  let (sig, e) := Binary.roundToBits p n d
  let (digits, point) := Binary.exactDigits sig e
  let (lowDigits, _) := Binary.exactDigits (2 * sig - 1) (e - 1)
  let (highDigits, _) := Binary.exactDigits (2 * sig + 1) (e - 1)
  let inclusive := sig % 2 = 0
  let at_ (ds : List Nat) (i : Nat) : Nat := (ds[i]?).getD 0
  -- the digits rounded to `k` of them, and the place of the point after rounding
  let roundDown (k : Nat) : List Nat × Int :=
    if k ≥ digits.length then (digits, point) else
    ((digits.take k).reverse.dropWhile (· = 0) |>.reverse, point)
  let roundUp (k : Nat) : List Nat × Int :=
    if k ≥ digits.length then (digits, point) else
    let kept := digits.take k
    let nines := (kept.reverse.takeWhile (· = 9)).length
    if nines = kept.length then ([1], point + 1)
    else
      let keep := kept.take (kept.length - nines - 1)
      (keep ++ [at_ kept (kept.length - nines - 1) + 1], point)
  let nearest (k : Nat) : List Nat × Int :=
    if k ≥ digits.length then (digits, point) else
    let next := at_ digits k
    let up := if next = 5 && k + 1 = digits.length then k > 0 && at_ digits (k - 1) % 2 = 1
      else next ≥ 5
    if up then roundUp k else roundDown k
  let rec walk : List Nat → Nat → List Nat × Int
    | [], _ => (digits, point)
    | dm :: rest, i =>
      let l := at_ lowDigits i
      let u := at_ highDigits i
      let okDown := l != dm || (inclusive && i + 1 = lowDigits.length)
      let okUp := dm != u && (inclusive || dm + 1 < u || i + 1 < highDigits.length)
      if okDown && okUp then nearest (i + 1)
      else if okDown then roundDown (i + 1)
      else if okUp then roundUp (i + 1)
      else walk rest (i + 1)
  let (ds, pt) := walk digits 0
  Binary.formatG neg ds pt

end Admissions
