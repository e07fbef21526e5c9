namespace Admissions

/-- An exact decimal number, `mantissa × 10 ^ exponent`. Two representations of
one value compare equal under `cmp`. -/
structure Decimal where
  mantissa : Int
  exponent : Int
  deriving Repr, Inhabited

namespace Decimal

def zero : Decimal := ⟨0, 0⟩

def ofInt (i : Int) : Decimal := ⟨i, 0⟩

instance : OfNat Decimal n := ⟨ofInt n⟩

/-- `10 ^ n` as an integer. -/
def pow10 (n : Nat) : Int := Int.pow 10 n

/-- The quotient `num / den` rounded to an integer, a half going away from zero. -/
def roundQuotient (num den : Int) : Int :=
  let q := num.tdiv den
  let r := num.tmod den
  if 2 * r.natAbs < den.natAbs then q
  else if (num < 0) = (den < 0) then q + 1
  else q - 1

/-- The mantissa written at exponent `e`, exact when `e` is not above the
decimal's own exponent and cut toward zero otherwise. -/
def mantissaAt (d : Decimal) (e : Int) : Int :=
  if e ≤ d.exponent then d.mantissa * pow10 (d.exponent - e).toNat
  else d.mantissa.tdiv (pow10 (e - d.exponent).toNat)

/-- The same value at exponent `e`, cut toward zero when `e` is coarser. -/
def rescale (d : Decimal) (e : Int) : Decimal := ⟨d.mantissaAt e, e⟩

def add (a b : Decimal) : Decimal :=
  let e := min a.exponent b.exponent
  ⟨a.mantissaAt e + b.mantissaAt e, e⟩

def neg (a : Decimal) : Decimal := ⟨-a.mantissa, a.exponent⟩

def sub (a b : Decimal) : Decimal := a.add b.neg

def mul (a b : Decimal) : Decimal := ⟨a.mantissa * b.mantissa, a.exponent + b.exponent⟩

instance : Add Decimal := ⟨add⟩
instance : Sub Decimal := ⟨sub⟩
instance : Mul Decimal := ⟨mul⟩
instance : Neg Decimal := ⟨neg⟩

/-- The quotient rounded to `places` fractional digits, a half going away from
zero. The divisor must not be zero; a zero divisor gives zero. -/
def divRound (a b : Decimal) (places : Nat) : Decimal :=
  let shift := a.exponent - b.exponent + places
  let (num, den) :=
    if 0 ≤ shift then (a.mantissa * pow10 shift.toNat, b.mantissa)
    else (a.mantissa, b.mantissa * pow10 (-shift).toNat)
  if den = 0 then zero else ⟨roundQuotient num den, -(places : Int)⟩

def quotientPlaces : Nat := 16

/-- The quotient of the service's arithmetic: sixteen places, half away from zero. -/
def div (a b : Decimal) : Decimal := a.divRound b quotientPlaces

instance : Div Decimal := ⟨div⟩

/-- Rounds to `places` fractional digits, a half going away from zero. A decimal
already written with exactly that many places is returned as it is. -/
def round (d : Decimal) (places : Int) : Decimal :=
  if d.exponent = -places then d
  else if -places ≤ d.exponent then d.rescale (-places)
  else ⟨roundQuotient d.mantissa (pow10 (-places - d.exponent).toNat), -places⟩

/-- The least integer not below the value. -/
def ceil (d : Decimal) : Decimal :=
  if 0 ≤ d.exponent then d
  else
    let den := pow10 (-d.exponent).toNat
    ⟨d.mantissa / den + (if d.mantissa % den = 0 then 0 else 1), 0⟩

/-- The integer part, cut toward zero. -/
def intPart (d : Decimal) : Int := (d.rescale 0).mantissa

def cmp (a b : Decimal) : Ordering :=
  let e := min a.exponent b.exponent
  compare (a.mantissaAt e) (b.mantissaAt e)

def equal (a b : Decimal) : Bool := a.cmp b == .eq

instance : BEq Decimal := ⟨equal⟩

def lt (a b : Decimal) : Bool := a.cmp b == .lt

def le (a b : Decimal) : Bool := a.cmp b != .gt

/-- The sign: -1, 0 or 1. -/
def sign (d : Decimal) : Int := if d.mantissa < 0 then -1 else if d.mantissa = 0 then 0 else 1

def isInteger (d : Decimal) : Bool :=
  0 ≤ d.exponent || d.mantissa % pow10 (-d.exponent).toNat = 0

end Decimal

end Admissions
