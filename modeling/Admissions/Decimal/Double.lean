import Admissions.Decimal.Binary

namespace Admissions

/-- A double: finite, infinite with a sign, or not a number. -/
inductive Double where
  | finite (x : Binary64)
  | infinity (neg : Bool)
  | nan
  deriving Repr, Inhabited

namespace Double

/-- The double nearest to a decimal, with the sign `negZero` gives zero; `none`
when it overflows. -/
def ofDecimal? (d : Decimal) (negZero : Bool) : Option Double :=
  (Binary64.ofDecimal d negZero).map finite

def ofInt (i : Int) : Double :=
  match Binary64.ofDecimal ⟨i, 0⟩ false with
  | some x => .finite x
  | none => .infinity (i < 0)

/-- Whether two doubles are the same number; not-a-number equals nothing, and the
two zeros are equal. -/
def same : Double → Double → Bool
  | .finite x, .finite y => x.units == y.units && (x.neg == y.neg || x.units == 0)
  | .infinity a, .infinity b => a == b
  | _, _ => false

/-- Whether the double is zero, of either sign. -/
def isZero : Double → Bool
  | .finite x => x.units == 0
  | _ => false

/-- The shortest text in plain notation; the infinities are `+Inf` and `-Inf`,
and not-a-number is `NaN`. -/
def plainText : Double → String
  | .finite x => x.textF
  | .infinity neg => if neg then "-Inf" else "+Inf"
  | .nan => "NaN"

/-- The shortest text in the general notation, with the special values written as
in `plainText`. -/
def generalText : Double → String
  | .finite x => x.textG
  | .infinity neg => if neg then "-Inf" else "+Inf"
  | .nan => "NaN"

/-- The integer a conversion to 64 bits gives: the finite value cut toward zero,
and `-2^63` for a value out of range, an infinity or not-a-number. -/
def toInt64 : Double → Int
  | .finite x => x.toInt64
  | _ => -Int.pow 2 63

end Double

end Admissions
