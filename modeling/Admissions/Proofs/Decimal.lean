import Mathlib.Algebra.Order.Field.Rat
import Mathlib.Algebra.Order.Field.Power
import Mathlib.Order.Monotone.Basic
import Mathlib.Data.Rat.Floor
import Admissions.Decimal.Basic

namespace Admissions.Decimal

def value (d : Decimal) : ℚ := d.mantissa * 10 ^ d.exponent

theorem pow10_cast (n : Nat) : ((pow10 n : Int) : ℚ) = 10 ^ n := by
  simp [pow10, Int.pow]

/-- Written at an exponent no finer than its own, a decimal keeps its value. -/
theorem mantissaAt_mul_pow {d : Decimal} {e : Int} (below : e ≤ d.exponent) :
    (d.mantissaAt e : ℚ) * 10 ^ e = d.value := by
  have exact : ((d.exponent - e).toNat : Int) = d.exponent - e := Int.toNat_of_nonneg (by omega)
  have split : d.exponent = (d.exponent - e) + e := by omega
  rw [mantissaAt, if_pos below, value, Int.cast_mul, pow10_cast, mul_assoc, ← zpow_natCast, exact,
    ← zpow_add₀ (by norm_num), ← split]

/-- Both sides are brought to the finer exponent, where scaling by a positive
power of ten keeps the order of the mantissas. -/
theorem cmp_eq_compare_value (a b : Decimal) : a.cmp b = compare a.value b.value := by
  set e := min a.exponent b.exponent
  have scale : StrictMono fun x : Int => (x : ℚ) * 10 ^ e :=
    Int.cast_strictMono.mul_const (by positivity)
  have scaled := scale.cmp_map_eq (a.mantissaAt e) (b.mantissaAt e)
  rw [cmp_eq_compare, cmp_eq_compare, mantissaAt_mul_pow (min_le_left _ _),
    mantissaAt_mul_pow (min_le_right _ _)] at scaled
  rw [Decimal.cmp, ← scaled]

theorem value_ofInt (i : Int) : (ofInt i).value = i := by
  simp [value, ofInt]

theorem lt_iff_value (a b : Decimal) : a.lt b = true ↔ a.value < b.value := by
  rw [lt, cmp_eq_compare_value, beq_iff_eq, compare_lt_iff_lt]

theorem le_iff_value (a b : Decimal) : a.le b = true ↔ a.value ≤ b.value := by
  rw [le, cmp_eq_compare_value, bne_iff_ne, ne_eq, compare_gt_iff_gt, not_lt]

theorem value_pos_iff (v : Decimal) : 0 < v.value ↔ 0 < v.mantissa := by
  rw [value, mul_pos_iff_of_pos_right (zpow_pos (by norm_num) _), Int.cast_pos]

theorem sign_pos_iff (v : Decimal) : 0 < v.sign ↔ 0 < v.value := by
  rw [value_pos_iff, sign]
  split_ifs <;> omega

theorem value_nonneg_iff (v : Decimal) : 0 ≤ v.value ↔ 0 ≤ v.mantissa := by
  rw [value, mul_nonneg_iff_of_pos_right (zpow_pos (by norm_num) _), Int.cast_nonneg_iff]

theorem sign_nonneg_iff (v : Decimal) : 0 ≤ v.sign ↔ 0 ≤ v.value := by
  rw [value_nonneg_iff, sign]
  split_ifs <;> omega

/-- A decimal written with the negative exponent `-k` is its mantissa over `10 ^ k`. -/
theorem value_of_neg_exponent {v : Decimal} {k : Nat} (neg : v.exponent = -k) :
    v.value = v.mantissa / 10 ^ k := by
  rw [value, neg, zpow_neg, zpow_natCast, div_eq_mul_inv]

/-- A decimal written with a whole exponent is the integer its mantissa scales to. -/
theorem value_of_nonneg_exponent {v : Decimal} (nonneg : 0 ≤ v.exponent) :
    v.value = ((v.mantissa * pow10 v.exponent.toNat : Int) : ℚ) := by
  rw [value, Int.cast_mul, pow10_cast, ← zpow_natCast, Int.toNat_of_nonneg nonneg]

/-- `isInteger` tests the value, whatever exponent the decimal is written with: with a
negative exponent `-k`, the mantissa must be a multiple of `10 ^ k`. -/
theorem isInteger_iff (v : Decimal) : v.isInteger = true ↔ ∃ n : Int, v.value = n := by
  rcases le_or_gt 0 v.exponent with nonneg | neg
  · simp only [isInteger, decide_eq_true nonneg, Bool.true_or, true_iff]
    exact ⟨_, value_of_nonneg_exponent nonneg⟩
  · obtain ⟨k, hk⟩ : ∃ k : Nat, v.exponent = -k := ⟨(-v.exponent).toNat, by omega⟩
    have places : (-v.exponent).toNat = k := by omega
    have ten : (10 : ℚ) ^ k ≠ 0 := pow_ne_zero _ (by norm_num)
    simp only [isInteger, decide_eq_false (not_le.mpr neg), Bool.false_or, decide_eq_true_eq, places,
      value_of_neg_exponent hk]
    constructor
    · intro divides
      obtain ⟨n, hn⟩ := Int.dvd_of_emod_eq_zero divides
      refine ⟨n, ?_⟩
      rw [hn, Int.cast_mul, pow10_cast, mul_div_cancel_left₀ _ ten]
    · rintro ⟨n, hn⟩
      have scaled : ((v.mantissa : Int) : ℚ) = ((pow10 k * n : Int) : ℚ) := by
        rw [Int.cast_mul, pow10_cast, (div_eq_iff ten).mp hn, mul_comm]
      exact Int.emod_eq_zero_of_dvd ⟨n, by exact_mod_cast scaled⟩

/-- The integer part of a whole decimal is its value: cutting toward zero cuts nothing. -/
theorem intPart_of_isInteger {v : Decimal} (whole : v.isInteger = true) : (v.intPart : ℚ) = v.value := by
  rcases le_or_gt 0 v.exponent with nonneg | neg
  · rw [intPart, rescale, mantissaAt, if_pos nonneg, value_of_nonneg_exponent nonneg]
    simp
  · obtain ⟨k, hk⟩ : ∃ k : Nat, v.exponent = -k := ⟨(-v.exponent).toNat, by omega⟩
    obtain ⟨n, hn⟩ := (isInteger_iff v).mp whole
    have places : (0 - v.exponent).toNat = k := by omega
    have ten : (10 : ℚ) ^ k ≠ 0 := pow_ne_zero _ (by norm_num)
    have scaled : v.mantissa = pow10 k * n := by
      rw [value_of_neg_exponent hk] at hn
      have cast : ((v.mantissa : Int) : ℚ) = ((pow10 k * n : Int) : ℚ) := by
        rw [Int.cast_mul, pow10_cast, (div_eq_iff ten).mp hn, mul_comm]
      exact_mod_cast cast
    have positive : pow10 k ≠ 0 := by simp [pow10, Int.pow]
    rw [intPart, rescale, mantissaAt, if_neg (by omega), places, scaled, Int.mul_tdiv_cancel_left _ positive,
      ← hn]

/-! ### Arithmetic and rounding -/

/-- Sums are exact: both sides are written at the finer exponent, where the value is kept. -/
theorem value_add (a b : Decimal) : (a + b).value = a.value + b.value := by
  change (add a b).value = _
  have left := @mantissaAt_mul_pow a _ (min_le_left a.exponent b.exponent)
  have right := @mantissaAt_mul_pow b _ (min_le_right a.exponent b.exponent)
  simp only [add, value, Int.cast_add, add_mul] at left right ⊢
  rw [left, right]

theorem value_mul (a b : Decimal) : (a * b).value = a.value * b.value := by
  change (mul a b).value = _
  simp only [mul, value, Int.cast_mul, zpow_add₀ (show (10 : ℚ) ≠ 0 by norm_num)]
  exact mul_mul_mul_comm _ _ _ _

@[simp] theorem value_zero : zero.value = 0 := by
  simp [zero, value]

@[simp] theorem value_ofNat (n : Nat) : (no_index (OfNat.ofNat n : Decimal)).value = n := by
  change (ofInt n).value = _
  simp [value_ofInt]

theorem value_mk (m e : Int) : (⟨m, e⟩ : Decimal).value = m * 10 ^ e := rfl

/-- A quotient of integers is their exact quotient rounded at sixteen places. -/
theorem value_ofInt_div {n d : Int} (hd : d ≠ 0) :
    (ofInt n / ofInt d).value = (roundQuotient (n * pow10 16) d : ℚ) / 10 ^ 16 := by
  have quotient : ofInt n / ofInt d = ⟨roundQuotient (n * pow10 16) d, -16⟩ := by
    change divRound (ofInt n) (ofInt d) quotientPlaces = _
    simp [divRound, ofInt, hd, quotientPlaces]
  rw [quotient, @value_of_neg_exponent _ 16 rfl]

/-- For a numerator that is not negative, `roundQuotient` is the floor quotient, one more
when the remainder is at least half the divisor. -/
theorem roundQuotient_of_nonneg {n d : Int} (hn : 0 ≤ n) (hd : 0 < d) :
    roundQuotient n d = if 2 * (n % d) < d then n / d else n / d + 1 := by
  have remainder := Int.emod_nonneg n (Int.ne_of_gt hd)
  have signs : (n < 0) = (d < 0) := by
    rw [eq_iff_iff]
    omega
  rw [roundQuotient, Int.tdiv_eq_ediv_of_nonneg hn, Int.tmod_eq_emod_of_nonneg hn, if_pos signs]
  congr 1
  rw [eq_iff_iff]
  omega

theorem roundQuotient_nonneg {n d : Int} (hn : 0 ≤ n) (hd : 0 < d) : 0 ≤ roundQuotient n d := by
  have quotient := Int.ediv_nonneg hn hd.le
  rw [roundQuotient_of_nonneg hn hd]
  split <;> omega

/-- Rounding a quotient that is at most `k` gives at most `k`: the quotient is then
below `k`, or `k` exactly with nothing left over. -/
theorem roundQuotient_le {n d k : Int} (hn : 0 ≤ n) (hd : 0 < d) (le : n ≤ k * d) :
    roundQuotient n d ≤ k := by
  have split := Int.mul_ediv_add_emod n d
  have remainder := Int.emod_nonneg n (Int.ne_of_gt hd)
  have quotient : n / d ≤ k := by
    have := Int.ediv_le_ediv hd le
    rwa [Int.mul_ediv_cancel _ (Int.ne_of_gt hd)] at this
  rw [roundQuotient_of_nonneg hn hd]
  rcases Int.lt_or_eq_of_le quotient with below | exact
  · split <;> omega
  · -- the quotient is `k`, so the remainder is `n - k d`, which is not positive
    rw [exact] at split ⊢
    rw [Int.mul_comm] at le
    split <;> omega

/-- Rounding half away from zero is monotone in the numerator, here for numerators that
are not negative. -/
theorem roundQuotient_mono {n m d : Int} (hn : 0 ≤ n) (le : n ≤ m) (hd : 0 < d) :
    roundQuotient n d ≤ roundQuotient m d := by
  have splitN := Int.mul_ediv_add_emod n d
  have splitM := Int.mul_ediv_add_emod m d
  have remainderN := Int.emod_nonneg n (Int.ne_of_gt hd)
  have remainderM := Int.emod_lt_of_pos m hd
  have quotients := Int.ediv_le_ediv hd le
  rw [roundQuotient_of_nonneg hn hd, roundQuotient_of_nonneg (Int.le_trans hn le) hd]
  rcases Int.lt_or_eq_of_le quotients with below | same
  · split <;> split <;> omega
  · -- one quotient, so the remainders are in the order of the numerators
    rw [← same] at splitM ⊢
    split <;> split <;> omega

/-! ### Ceiling -/

theorem pow10_eq_natCast (k : Nat) : pow10 k = ((10 ^ k : Nat) : Int) := by
  simp [pow10, Int.pow]

/-- The ceiling of a decimal is the least integer not below its value, whatever exponent
the decimal is written with. -/
theorem intPart_ceil (d : Decimal) : d.ceil.intPart = ⌈d.value⌉ := by
  rcases le_or_gt 0 d.exponent with nonneg | neg
  · -- a decimal with a whole exponent is its own ceiling
    have whole : d.isInteger = true := by simp [isInteger, nonneg]
    rw [ceil, if_pos nonneg, ← Int.ceil_intCast (R := ℚ) d.intPart, intPart_of_isInteger whole]
  · obtain ⟨k, hk⟩ : ∃ k : Nat, d.exponent = -k := ⟨(-d.exponent).toNat, by omega⟩
    have places : (-d.exponent).toNat = k := by omega
    have positive : (0 : Int) < ((10 ^ k : Nat) : Int) := by positivity
    have value : d.value = (d.mantissa : ℚ) / ((10 ^ k : Nat) : ℚ) := by
      rw [value_of_neg_exponent hk, Nat.cast_pow, Nat.cast_ofNat]
    -- the ceiling of a quotient is the floor quotient of the negation, negated
    have up := Int.neg_ediv (a := d.mantissa) (b := ((10 ^ k : Nat) : Int))
    rw [Int.sign_eq_one_of_pos positive] at up
    rw [ceil, if_neg (not_le.mpr neg), value, Rat.ceil_intCast_div_natCast, up, places,
      pow10_eq_natCast]
    simp only [intPart, rescale, mantissaAt, le_refl, if_true, sub_self, Int.toNat_zero, pow10,
      Int.pow, Int.dvd_iff_emod_eq_zero]
    split <;> simp [Int.add_comm]

end Admissions.Decimal
