import Admissions.Proofs.Score.Range
import Admissions.Quota

namespace Admissions

section Keys

variable {α : Type} {m : List (String × α)} {k k' : String} {v : α}

@[simp] theorem Except.ok_bind {ε β γ : Type} (b : β) (f : β → Except ε γ) :
    (Except.ok b >>= f) = f b := rfl

@[simp] theorem Except.error_bind {ε β γ : Type} (e : ε) (f : β → Except ε γ) :
    (Except.error e >>= f) = .error e := rfl

@[simp] theorem Except.throw_eq_error {ε β : Type} (e : ε) : (throw e : Except ε β) = .error e := rfl

theorem Except.bind_eq_ok {ε β γ : Type} {x : Except ε β} {f : β → Except ε γ} {c : γ} :
    x >>= f = .ok c ↔ ∃ b, x = .ok b ∧ f b = .ok c := by
  cases x <;> simp [bind, Except.bind]

theorem Except.bind_eq_error {ε β γ : Type} {x : Except ε β} {f : β → Except ε γ} {e : ε} :
    x >>= f = .error e ↔ x = .error e ∨ ∃ b, x = .ok b ∧ f b = .error e := by
  cases x <;> simp [bind, Except.bind]

theorem mem_of_lookupKey (found : lookupKey m k = some v) : (k, v) ∈ m := by
  obtain ⟨kv, hit, rfl⟩ := Option.map_eq_some_iff.mp found
  have same : kv.1 = k := by simpa using List.find?_some hit
  exact same ▸ List.mem_of_find?_eq_some hit

/-- A write answers under its own key and leaves every other key as it was. -/
theorem lookupKey_setKey (m : List (String × α)) (k k' : String) (v : α) :
    lookupKey (setKey m k v) k' = if k' = k then some v else lookupKey m k' := by
  unfold lookupKey setKey
  split
  case isTrue present =>
    -- rewriting an entry under `k` to `(k, v)` keeps every entry's key
    have keys : ((fun kv : String × α => kv.1 == k') ∘ fun kv => if kv.1 == k then (k, v) else kv) =
        fun kv => kv.1 == k' := by
      funext kv
      simp only [Function.comp_apply]
      split <;> simp_all
    rw [List.find?_map, keys]
    cases hit : m.find? (·.1 == k') with
    | none =>
      have missing : k' ≠ k := by
        rintro rfl
        obtain ⟨kv, member, atKey⟩ := List.any_eq_true.mp present
        exact List.find?_eq_none.mp hit kv member atKey
      simp [missing]
    | some kv =>
      have atKey : kv.1 = k' := by simpa using List.find?_some hit
      by_cases same : k' = k <;> simp [atKey, same]
  case isFalse absent =>
    have none : m.find? (·.1 == k) = none := List.find?_eq_none.mpr fun kv member atKey =>
      absent (List.any_eq_true.mpr ⟨kv, member, atKey⟩)
    by_cases same : k' = k
    · subst same
      simp [List.find?_append, none]
    · have other : (k == k') = false := by simpa using Ne.symm same
      simp [List.find?_append, other, same]

@[simp] theorem lookupKey_setKey_self (m : List (String × α)) (k : String) (v : α) :
    lookupKey (setKey m k v) k = some v := by
  simp [lookupKey_setKey]

@[simp] theorem lookupKey_setKey_of_ne (m : List (String × α)) (v : α) (other : k' ≠ k) :
    lookupKey (setKey m k v) k' = lookupKey m k' := by
  simp [lookupKey_setKey, other]

theorem mem_setKey {kv : String × α} (member : kv ∈ setKey m k v) : kv ∈ m ∨ kv = (k, v) := by
  unfold setKey at member
  split at member
  · obtain ⟨old, kept, rfl⟩ := List.mem_map.mp member
    by_cases hk : old.1 = k
    · simp [hk]
    · simp [hk, kept]
  · simpa using member

end Keys

/-- A range whose lower end is not above its upper end. -/
def ScoreRange.Valid (r : ScoreRange) : Prop := r.min.value ≤ r.max.value

/-- Ranges of a category that are all valid, the coding test's included when it has one. -/
structure CategoryRanges.Valid (r : CategoryRanges) : Prop where
  depthInterview : r.depthInterview.Valid
  ncs : r.ncs.Valid
  codingTest : ∀ c ∈ r.codingTest, c.Valid

theorem ScoreRange.ofInts_valid {lo hi : Int} (le : lo ≤ hi) : (ScoreRange.ofInts lo hi).Valid := by
  simpa [ScoreRange.Valid, ScoreRange.ofInts, Decimal.value_ofInt] using le

theorem CategoryRanges.fallback_valid : CategoryRanges.fallback.Valid :=
  ⟨ScoreRange.ofInts_valid (by decide), ScoreRange.ofInts_valid (by decide), by simp [fallback]⟩

namespace QuotaConfig

/-- A policy the settings can give: no seat count below zero, a positive multiplier, a
regional rate from 0 to 1 and valid ranges. -/
structure Sane (q : QuotaConfig) : Prop where
  seats : ∀ kv ∈ q.seats, 0 ≤ kv.2
  multiplier : 0 < q.multiplier.value
  rateNonneg : 0 ≤ q.otherRegionRate.value
  rateAtMostOne : q.otherRegionRate.value ≤ 1
  ranges : ∀ kv ∈ q.ranges, kv.2.Valid

variable {q : QuotaConfig}

theorem Sane.seatsOf_nonneg (sane : q.Sane) (c : Category) : 0 ≤ q.seatsOf c := by
  unfold seatsOf
  cases found : lookupKey q.seats c.code with
  | none => rfl
  | some n => exact sane.seats _ (mem_of_lookupKey found)

theorem Sane.rangesFor_valid (sane : q.Sane) (c : Category) : (q.rangesFor c).Valid := by
  unfold rangesFor
  cases found : lookupKey q.ranges c.code with
  | none => exact CategoryRanges.fallback_valid
  | some r => exact sane.ranges _ (mem_of_lookupKey found)

theorem default_sane : QuotaConfig.default.Sane where
  seats := by simp [default]
  multiplier := by norm_num [default, Decimal.value]
  rateNonneg := by norm_num [default, Decimal.value]
  rateAtMostOne := by norm_num [default, Decimal.value]
  ranges := by
    have standard := CategoryRanges.fallback_valid
    have wide (hi : Int) (le : 0 ≤ hi) (coding : Option ScoreRange) (valid : ∀ c ∈ coding, c.Valid) :
        CategoryRanges.Valid ⟨.ofInts 0 hi, .ofInts 0 40, coding⟩ :=
      ⟨ScoreRange.ofInts_valid le, ScoreRange.ofInts_valid (by decide), valid⟩
    simp only [default, List.mem_cons, List.not_mem_nil, or_false]
    rintro kv (rfl | rfl | rfl | rfl | rfl)
    · exact standard
    · exact wide 120 (by decide) _ (by simpa using ScoreRange.ofInts_valid (by decide))
    · exact wide 200 (by decide) none (by simp)
    · exact standard
    · exact standard

/-- The target is the exact ceiling of seats times multiplier, taken as a word. -/
theorem firstRoundTarget_eq (q : QuotaConfig) (c : Category) :
    q.firstRoundTarget c = Word.wrap ⌈(q.seatsOf c : ℚ) * q.multiplier.value⌉ := by
  rw [firstRoundTarget, Decimal.intPart_ceil, Decimal.value_mul, Decimal.value_ofInt]

/-- The regional cap is the exact ceiling of target times rate, taken as a word. -/
theorem regionalCap_eq (q : QuotaConfig) (target : Int) :
    q.regionalCap target = Word.wrap ⌈(target : ℚ) * q.otherRegionRate.value⌉ := by
  rw [regionalCap, Decimal.intPart_ceil, Decimal.value_mul, Decimal.value_ofInt]

/-- A rate from 0 to 1 caps a target that is a word and not negative between 0 and the
target itself: the product lies between them, and so does its ceiling, the target
being whole. -/
theorem regionalCap_mem (rateNonneg : 0 ≤ q.otherRegionRate.value)
    (rateAtMostOne : q.otherRegionRate.value ≤ 1) {target : Int} (nonneg : 0 ≤ target)
    (fits : target ≤ Word.maxValue) : 0 ≤ q.regionalCap target ∧ q.regionalCap target ≤ target := by
  have cast : (0 : ℚ) ≤ target := by exact_mod_cast nonneg
  have low : 0 ≤ ⌈(target : ℚ) * q.otherRegionRate.value⌉ :=
    Int.ceil_nonneg (mul_nonneg cast rateNonneg)
  have high : ⌈(target : ℚ) * q.otherRegionRate.value⌉ ≤ target :=
    Int.ceil_le.mpr (mul_le_of_le_one_right cast rateAtMostOne)
  rw [regionalCap_eq, Word.wrap_eq_self (Word.fits_of_nonneg low (high.trans fits))]
  exact ⟨low, high⟩

/-- Under a sane policy, a category whose ceiling of seats times multiplier is a word has
that ceiling as its target and a regional cap between 0 and the target. -/
theorem Sane.targets_of_fits (sane : q.Sane) (c : Category)
    (fits : ⌈(q.seatsOf c : ℚ) * q.multiplier.value⌉ ≤ Word.maxValue) :
    q.firstRoundTarget c = ⌈(q.seatsOf c : ℚ) * q.multiplier.value⌉ ∧
      0 ≤ q.regionalCap (q.firstRoundTarget c) ∧
      q.regionalCap (q.firstRoundTarget c) ≤ q.firstRoundTarget c := by
  have seats : (0 : ℚ) ≤ q.seatsOf c := by exact_mod_cast sane.seatsOf_nonneg c
  have nonneg : 0 ≤ ⌈(q.seatsOf c : ℚ) * q.multiplier.value⌉ :=
    Int.ceil_nonneg (mul_nonneg seats sane.multiplier.le)
  have exact : q.firstRoundTarget c = ⌈(q.seatsOf c : ℚ) * q.multiplier.value⌉ := by
    rw [firstRoundTarget_eq, Word.wrap_eq_self (Word.fits_of_nonneg nonneg fits)]
  refine ⟨exact, ?_⟩
  rw [exact]
  exact regionalCap_mem sane.rateNonneg sane.rateAtMostOne nonneg fits

/-- Two policies that read alike: the same total, multiplier and rate, and the same entry
under every key of their seats and ranges, whatever order the entries are listed in. -/
structure Agrees (q q' : QuotaConfig) : Prop where
  totalSeats : q.totalSeats = q'.totalSeats
  seats : ∀ k, lookupKey q.seats k = lookupKey q'.seats k
  multiplier : q.multiplier = q'.multiplier
  otherRegionRate : q.otherRegionRate = q'.otherRegionRate
  ranges : ∀ k, lookupKey q.ranges k = lookupKey q'.ranges k

theorem Agrees.seatsOf_eq {q' : QuotaConfig} (agree : q.Agrees q') (c : Category) :
    q.seatsOf c = q'.seatsOf c := by
  simp [seatsOf, agree.seats]

theorem Agrees.rangesFor_eq {q' : QuotaConfig} (agree : q.Agrees q') (c : Category) :
    q.rangesFor c = q'.rangesFor c := by
  simp [rangesFor, agree.ranges]

/-- Policies that read alike set every category the same target and cap. -/
theorem Agrees.targets_eq {q' : QuotaConfig} (agree : q.Agrees q') (c : Category) (target : Int) :
    q.firstRoundTarget c = q'.firstRoundTarget c ∧ q.regionalCap target = q'.regionalCap target := by
  simp [firstRoundTarget, regionalCap, agree.seatsOf_eq c, agree.multiplier, agree.otherRegionRate]

end QuotaConfig

end Admissions
