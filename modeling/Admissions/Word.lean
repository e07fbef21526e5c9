namespace Admissions

namespace Word

def modulus : Int := Int.pow 2 64

/-- The largest word, 2^63 - 1. -/
def maxValue : Int := Int.pow 2 63 - 1

/-- The smallest word, -2^63. -/
def minValue : Int := -Int.pow 2 63

/-- The word an integer becomes: the one congruent to it modulo 2^64 in
[-2^63, 2^63). -/
def wrap (i : Int) : Int := Int.bmod i (Nat.pow 2 64)

def fits (i : Int) : Bool := minValue ≤ i && i ≤ maxValue

theorem fits_wrap (i : Int) : fits (wrap i) = true := by
  have low := @Int.le_bmod i (Nat.pow 2 64) (by decide)
  have high := @Int.bmod_lt i (Nat.pow 2 64) (by decide)
  have whole : ((Nat.pow 2 64 : Nat) : Int) = 18446744073709551616 := by decide
  have half : Int.pow 2 63 = 9223372036854775808 := by decide
  rw [whole] at low high
  simp only [fits, wrap, minValue, maxValue, half, Bool.and_eq_true, decide_eq_true_eq]
  omega

/-- Division of words, cut toward zero. -/
def quot (a b : Int) : Int := wrap (a.tdiv b)

end Word

end Admissions
