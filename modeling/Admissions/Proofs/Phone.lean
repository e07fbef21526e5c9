import Admissions.Phone

namespace Admissions

namespace Phone

theorem not_isDigit_hyphen : isDigit '-' = false := by decide

theorem filter_dropHyphen (cs : List Char) :
    (dropHyphen cs).filter isDigit = cs.filter isDigit := by
  unfold dropHyphen
  split <;> simp [not_isDigit_hyphen]

theorem isLastGroup_digits {cs : List Char} (last : isLastGroup cs = true) :
    cs.filter isDigit = cs ∧ cs.length = 4 := by
  simp only [isLastGroup, Bool.and_eq_true, decide_eq_true_eq, List.all_eq_true] at last
  exact ⟨List.filter_eq_self.mpr last.2, last.1⟩

/-- A middle group of `n` digits and the last group hold `n + 4` digits. -/
theorem middleThenLast_digits {n : Nat} {cs : List Char} (groups : middleThenLast n cs = true) :
    (cs.filter isDigit).length = n + 4 := by
  simp only [middleThenLast, Bool.and_eq_true, decide_eq_true_eq, List.all_eq_true] at groups
  obtain ⟨⟨taken, middle⟩, last⟩ := groups
  have kept : (cs.take n).filter isDigit = cs.take n := List.filter_eq_self.mpr middle
  have tail := isLastGroup_digits last
  rw [filter_dropHyphen] at tail
  calc (cs.filter isDigit).length
      = ((cs.take n).filter isDigit).length + ((cs.drop n).filter isDigit).length := by
        rw [← List.length_append, ← List.filter_append, List.take_append_drop]
    _ = n + 4 := by rw [kept, taken, tail.1, tail.2]

/-- An accepted number starts with `0`, and its digits are `0`, `1`, a carrier digit and
seven or eight more. -/
theorem isMobile_digits {s : String} (accepted : isMobile s = true) :
    s.toList.head? = some '0' ∧ ∃ c more, s.toList.filter isDigit = '0' :: '1' :: c :: more ∧
      (more.length = 7 ∨ more.length = 8) := by
  unfold isMobile at accepted
  split at accepted
  · next c rest shape =>
    simp only [Bool.and_eq_true, Bool.or_eq_true] at accepted
    obtain ⟨carrier, body⟩ := accepted
    have digit : isDigit c = true := by
      have listed : c ∈ ['0', '1', '6', '7', '8', '9'] := by simpa using carrier
      simp only [List.mem_cons, List.not_mem_nil, or_false] at listed
      rcases listed with rfl | rfl | rfl | rfl | rfl | rfl <;> decide
    have groups : (rest.filter isDigit).length = 7 ∨ (rest.filter isDigit).length = 8 := by
      rw [← filter_dropHyphen]
      rcases body with three | four
      · exact .inl (middleThenLast_digits three)
      · exact .inr (middleThenLast_digits four)
    refine ⟨by simp [shape], c, rest.filter isDigit, ?_, groups⟩
    have zero : isDigit '0' = true := by decide
    have one : isDigit '1' = true := by decide
    simp [shape, zero, one, digit]
  · exact absurd accepted Bool.false_ne_true

/-- A number not written with `+` whose digits start with `0` has `+82` in place of that
`0`. -/
theorem toE164_of_leading_zero {s : String} {rest : List Char}
    (unsigned : s.toList.head? ≠ some '+') (digits : s.toList.filter isDigit = '0' :: rest) :
    toE164 s = "+82" ++ String.ofList rest := by
  simp only [toE164, digits, if_neg unsigned]

/-- The E.164 form of an accepted number is `+82` and its digits after the leading `0`:
nine or ten digits, the first `1`. -/
theorem isMobile_e164_form {p : String} (accepted : isMobile p = true) :
    ∃ rest, p.toList.filter isDigit = '0' :: rest ∧ toE164 p = "+82" ++ String.ofList rest ∧
      rest.head? = some '1' ∧ (rest.length = 9 ∨ rest.length = 10) ∧
      ∀ c ∈ rest, isDigit c = true := by
  obtain ⟨zero, c, more, digits, length⟩ := isMobile_digits accepted
  have unsigned : p.toList.head? ≠ some '+' := by rw [zero]; decide
  refine ⟨'1' :: c :: more, digits, toE164_of_leading_zero unsigned digits, rfl, ?_, ?_⟩
  · simp only [List.length_cons]
    omega
  · intro d member
    have kept : d ∈ p.toList.filter isDigit := by
      rw [digits]
      exact List.mem_cons_of_mem _ member
    exact (List.mem_filter.mp kept).2

/-- Accepted numbers reach one E.164 number exactly when their digits agree. -/
theorem toE164_eq_iff_digits {p q : String} (hp : isMobile p = true) (hq : isMobile q = true) :
    toE164 p = toE164 q ↔ p.toList.filter isDigit = q.toList.filter isDigit := by
  obtain ⟨restP, digitsP, e164P, -⟩ := isMobile_e164_form hp
  obtain ⟨restQ, digitsQ, e164Q, -⟩ := isMobile_e164_form hq
  rw [e164P, e164Q, digitsP, digitsQ, List.cons.injEq]
  constructor
  · intro same
    have chars := congrArg String.toList same
    simpa using chars
  · rintro ⟨-, rfl⟩
    rfl

/-- Text messages reach every accepted number in E.164 form, and different numbers at
different E.164 numbers: the form is `+82` and the number's digits after the leading `0`
(nine or ten digits, the first `1`), and two accepted numbers share it exactly when their
digits agree. -/
theorem mobile_numbers_reach_e164 :
    (∀ p, isMobile p = true → ∃ rest, p.toList.filter isDigit = '0' :: rest ∧
      toE164 p = "+82" ++ String.ofList rest ∧ rest.head? = some '1' ∧
      (rest.length = 9 ∨ rest.length = 10) ∧ ∀ c ∈ rest, isDigit c = true) ∧
    ∀ p q, isMobile p = true → isMobile q = true →
      (toE164 p = toE164 q ↔ p.toList.filter isDigit = q.toList.filter isDigit) :=
  ⟨fun _ accepted => isMobile_e164_form accepted, fun _ _ hp hq => toE164_eq_iff_digits hp hq⟩

/-- A number written with hyphens and the same number without them reach one E.164
number. -/
theorem hyphenated_number_reaches_same_e164 :
    isMobile "010-1234-5678" = true ∧ isMobile "01012345678" = true ∧
      toE164 "010-1234-5678" = toE164 "01012345678" :=
  ⟨by decide, by decide, (mobile_numbers_reach_e164.2 _ _ (by decide) (by decide)).2 (by decide)⟩

end Phone

end Admissions
