import Mathlib.Tactic.Ring
import Admissions.Proofs.Decimal
import Admissions.Decimal.Text

namespace Admissions.Decimal

/-- The number that decimal digits spell, most significant first. -/
def digitsNat (cs : List Char) : Nat := cs.foldl (fun acc c => acc * 10 + (c.toNat - '0'.toNat)) 0

/-- An exponent as written: its marker, its sign (none, `+` or `-`) and its digits. -/
structure ExponentPart where
  marker : Char
  sign : List Char
  digits : List Char

namespace ExponentPart

def text (x : ExponentPart) : List Char := x.marker :: (x.sign ++ x.digits)

def value (x : ExponentPart) : Int :=
  if x.sign = ['-'] then -(digitsNat x.digits : Int) else digitsNat x.digits

end ExponentPart

/-- A minus, written or not. -/
def signText (negative : Bool) : List Char := if negative then ['-'] else []

/-- A fraction after its point, or nothing. -/
def fractionText : Option (List Char) → List Char
  | none => []
  | some f => '.' :: f

/-- A decimal numeral. -/
structure Numeral where
  negative : Bool
  whole : List Char
  fraction : Option (List Char)
  exponent : Option ExponentPart

namespace Numeral

def body (n : Numeral) : List Char := signText n.negative ++ n.whole ++ fractionText n.fraction

def text (n : Numeral) : List Char := n.body ++ (n.exponent.map ExponentPart.text).getD []

def digits (n : Numeral) : List Char := n.whole ++ n.fraction.getD []

def places (n : Numeral) : Nat := (n.fraction.getD []).length

def exponentValue (n : Numeral) : Int := (n.exponent.map ExponentPart.value).getD 0

def mantissa (n : Numeral) : Int := if n.negative then -(digitsNat n.digits : Int) else digitsNat n.digits

def decimal (n : Numeral) : Decimal := ⟨n.mantissa, n.exponentValue - n.places⟩

/-- A numeral as JSON writes numbers: whole digits with no leading zero but a lone
one, a fraction of at least one digit, and an exponent marker followed by an
optional sign and at least one digit. -/
structure JsonForm (n : Numeral) : Prop where
  whole_ne : n.whole ≠ []
  whole_digits : ∀ c ∈ n.whole, c.isDigit = true
  lone_zero : n.whole.head? = some '0' → n.whole = ['0']
  fraction : ∀ f, n.fraction = some f → f ≠ [] ∧ ∀ c ∈ f, c.isDigit = true
  exponent : ∀ x, n.exponent = some x → (x.marker = 'e' ∨ x.marker = 'E') ∧
    (x.sign = [] ∨ x.sign = ['+'] ∨ x.sign = ['-']) ∧ x.digits ≠ [] ∧ ∀ c ∈ x.digits, c.isDigit = true

end Numeral

/-- An exponent a decimal may carry: one that fits 32 bits. -/
def Fits (e : Int) : Prop := minExponent ≤ e ∧ e ≤ maxExponent

instance (e : Int) : Decidable (Fits e) := inferInstanceAs (Decidable (_ ∧ _))

/-! ### Digits -/

theorem foldl_digits (acc : Nat) (cs : List Char) :
    cs.foldl (fun acc c => acc * 10 + (c.toNat - '0'.toNat)) acc = acc * 10 ^ cs.length + digitsNat cs := by
  induction cs generalizing acc with
  | nil => simp [digitsNat]
  | cons c cs ih =>
    have alone : digitsNat (c :: cs) = (0 * 10 + (c.toNat - '0'.toNat)) * 10 ^ cs.length + digitsNat cs :=
      ih _
    rw [List.foldl_cons, ih, alone, List.length_cons, Nat.pow_succ]
    ring

theorem digitsNat_append (xs ys : List Char) :
    digitsNat (xs ++ ys) = digitsNat xs * 10 ^ ys.length + digitsNat ys := by
  rw [digitsNat, List.foldl_append, foldl_digits]
  rfl

@[simp] theorem digitsNat_nil : digitsNat [] = 0 := rfl

theorem digitsNat_zeros (k : Nat) : digitsNat (List.replicate k '0') = 0 := by
  induction k with
  | zero => rfl
  | succ k ih =>
    rw [List.replicate_succ', digitsNat_append, ih]
    rfl

theorem digitsNat_zero_cons (cs : List Char) : digitsNat ('0' :: cs) = digitsNat cs := by
  rw [← List.singleton_append, digitsNat_append]
  simp [digitsNat]

theorem digitChar_value : ∀ d, d < 10 → (Nat.digitChar d).toNat - '0'.toNat = d := by
  decide

theorem digitsNat_toDigits (n : Nat) : digitsNat (Nat.toDigits 10 n) = n := by
  induction n using Nat.strong_induction_on with
  | _ n ih =>
    by_cases small : n < 10
    · rw [Nat.toDigits_of_lt_base small]
      show 0 * 10 + ((Nat.digitChar n).toNat - '0'.toNat) = n
      rw [digitChar_value n small, Nat.zero_mul, Nat.zero_add]
    · rw [Nat.toDigits_of_base_le (by decide) (by omega), digitsNat_append, ih (n / 10) (by omega)]
      simp only [digitsNat, List.foldl_cons, List.foldl_nil, List.length_singleton]
      rw [digitChar_value _ (Nat.mod_lt n (by decide))]
      omega

theorem toDigits_digits (n : Nat) : ∀ c ∈ Nat.toDigits 10 n, c.isDigit = true :=
  fun _ member => Nat.isDigit_of_mem_toDigits (by decide) (by decide) member

theorem digitChar_ne_zero : ∀ d, d < 10 → d ≠ 0 → Nat.digitChar d ≠ '0' := by
  decide

/-- The digits of a number start with a zero only when the number is zero. -/
theorem toDigits_head (n : Nat) : (Nat.toDigits 10 n).head? = some '0' → n = 0 := by
  induction n using Nat.strong_induction_on with
  | _ n ih =>
    intro leading
    by_cases small : n < 10
    · rw [Nat.toDigits_of_lt_base small] at leading
      by_contra nonzero
      exact digitChar_ne_zero n small nonzero (Option.some.inj leading)
    · obtain ⟨d, rest, spelled⟩ := List.exists_cons_of_ne_nil (Nat.toDigits_ne_nil (n := n / 10) (b := 10))
      rw [Nat.toDigits_of_base_le (by decide) (by omega), spelled, List.cons_append] at leading
      have tens := ih (n / 10) (by omega) (by rw [spelled]; exact leading)
      omega

/-! ### Reading integers -/

theorem digitsValue_eq {limit : Nat} {ds : List Char} (digits : ∀ c ∈ ds, c.isDigit = true) {acc : Nat}
    (start : acc ≤ limit) :
    digitsValue limit ds acc =
      if acc * 10 ^ ds.length + digitsNat ds ≤ limit then .ok (acc * 10 ^ ds.length + digitsNat ds)
      else .error .outOfRange := by
  induction ds generalizing acc with
  | nil => simp [digitsValue, start]
  | cons c cs ih =>
    have spelled : acc * 10 ^ (c :: cs).length + digitsNat (c :: cs) =
        (acc * 10 + (c.toNat - '0'.toNat)) * 10 ^ cs.length + digitsNat cs := by
      rw [← foldl_digits, ← foldl_digits]
      rfl
    rw [spelled, digitsValue, if_pos (digits c List.mem_cons_self)]
    dsimp only
    split
    · rename_i tooLarge
      have grows : acc * 10 + (c.toNat - '0'.toNat) ≤
          (acc * 10 + (c.toNat - '0'.toNat)) * 10 ^ cs.length + digitsNat cs :=
        Nat.le_add_right_of_le (Nat.le_mul_of_pos_right _ (Nat.pow_pos (by decide)))
      rw [if_neg (by omega)]
    · exact ih (fun c' member => digits c' (List.mem_cons_of_mem c member)) (by omega)

def SignText (s : List Char) : Prop := s = [] ∨ s = ['+'] ∨ s = ['-']

/-- A signed integer of `bits` bits reads as its value when that fits and is out of
range otherwise. -/
theorem readSignedInt_eq {bits : Nat} (wide : 0 < bits) {s ds : List Char} (sign : SignText s)
    (nonempty : ds ≠ []) (digits : ∀ c ∈ ds, c.isDigit = true) :
    readSignedInt bits (s ++ ds) =
      if s = ['-'] then
        (if digitsNat ds ≤ Nat.pow 2 (bits - 1) then .ok (-(digitsNat ds : Int)) else .error .outOfRange)
      else (if digitsNat ds < Nat.pow 2 (bits - 1) then .ok (digitsNat ds : Int) else .error .outOfRange) := by
  obtain ⟨d, rest, rfl⟩ := List.exists_cons_of_ne_nil nonempty
  have notSign : d ≠ '-' ∧ d ≠ '+' := by
    have lead : d.isDigit = true := digits d List.mem_cons_self
    constructor <;> (rintro rfl; exact absurd lead (by decide))
  have half : Nat.pow 2 (bits - 1) ≤ Nat.pow 2 bits - 1 := by
    have := Nat.pow_lt_pow_right (show 1 < 2 by decide) (show bits - 1 < bits by omega)
    simp only [Nat.pow_eq] at this ⊢
    omega
  have read := @digitsValue_eq (Nat.pow 2 bits - 1) _ digits 0 (Nat.zero_le _)
  simp only [Nat.zero_mul, Nat.zero_add] at read
  unfold readSignedInt
  split
  rename_i neg body parts
  -- the sign comes off and leaves the digits
  have signed : neg = decide (s = ['-']) ∧ body = d :: rest := by
    rcases sign with rfl | rfl | rfl <;> split at parts <;> simp_all
  obtain ⟨rfl, rfl⟩ := signed
  rw [if_neg (by simp), read]
  by_cases inWord : digitsNat (d :: rest) ≤ Nat.pow 2 bits - 1
  · rw [if_pos inWord]
    by_cases minus : s = ['-'] <;> simp only [minus, decide_true, decide_false, if_true] <;>
      split_ifs <;> first | rfl | omega
  · -- a value past the word is past either bound
    rw [if_neg inWord]
    by_cases minus : s = ['-'] <;> simp only [minus, if_true, if_false] <;> rw [if_neg (by omega)]

theorem digit_value_lt {c : Char} (digit : c.isDigit = true) : c.toNat - '0'.toNat < 10 := by
  simp only [Char.isDigit, Bool.and_eq_true, decide_eq_true_eq] at digit
  obtain ⟨low, high⟩ := digit
  have low' : 48 ≤ c.toNat := low
  have high' : c.toNat ≤ 57 := high
  show c.toNat - 48 < 10
  omega

theorem digitsNat_lt {ds : List Char} (digits : ∀ c ∈ ds, c.isDigit = true) : digitsNat ds < 10 ^ ds.length := by
  induction ds with
  | nil => simp
  | cons c cs ih =>
    have lead := digit_value_lt (digits c List.mem_cons_self)
    have rest := ih (fun c' member => digits c' (List.mem_cons_of_mem c member))
    rw [← List.singleton_append, digitsNat_append, List.length_append, List.length_singleton,
      Nat.pow_add, Nat.pow_one]
    have value : digitsNat [c] = c.toNat - '0'.toNat := by simp [digitsNat]
    rw [value]
    calc (c.toNat - '0'.toNat) * 10 ^ cs.length + digitsNat cs
        < (c.toNat - '0'.toNat) * 10 ^ cs.length + 10 ^ cs.length := by omega
      _ = (c.toNat - '0'.toNat + 1) * 10 ^ cs.length := by ring
      _ ≤ 10 * 10 ^ cs.length := Nat.mul_le_mul_right _ lead

theorem readBigInt_eq {neg : Bool} {ds : List Char} (nonempty : ds ≠ []) (digits : ∀ c ∈ ds, c.isDigit = true) :
    readBigInt (signText neg ++ ds) = some (if neg then -(digitsNat ds : Int) else digitsNat ds) := by
  obtain ⟨d, rest, rfl⟩ := List.exists_cons_of_ne_nil nonempty
  have notSign : d ≠ '-' ∧ d ≠ '+' := by
    have lead : d.isDigit = true := digits d List.mem_cons_self
    constructor <;> (rintro rfl; exact absurd lead (by decide))
  unfold readBigInt
  split
  rename_i minus body parts
  have signed : minus = neg ∧ body = d :: rest := by
    cases neg <;> simp only [signText] at parts <;> split at parts <;> simp_all
  obtain ⟨rfl, rfl⟩ := signed
  have allDigits : (d :: rest).all Char.isDigit = true := List.all_eq_true.mpr digits
  simp [allDigits, digitsNat]

/-! ### Reading numerals -/

/-- An exponent reads as its value when that fits 32 bits, and is out of range
otherwise. -/
theorem ExponentPart.read {x : ExponentPart} (sign : SignText x.sign) (nonempty : x.digits ≠ [])
    (digits : ∀ c ∈ x.digits, c.isDigit = true) :
    readSignedInt 32 (x.sign ++ x.digits) = if Fits x.value then .ok x.value else .error .outOfRange := by
  have half : Nat.pow 2 (32 - 1) = 2147483648 := by decide
  have bound : Int.pow 2 31 = 2147483648 := by decide
  rw [readSignedInt_eq (by decide) sign nonempty digits, half]
  by_cases minus : x.sign = ['-'] <;>
    simp only [minus, if_true, if_false, ExponentPart.value, Fits, minExponent, maxExponent, bound] <;>
    split_ifs <;> first | rfl | omega

/-- The last check of the reading: the exponent must fit. -/
theorem range_check (m e : Int) (whole : String) :
    (if e < minExponent ∨ e > maxExponent then .error (.exponentTooLong whole) else .ok ⟨m, e⟩ :
      Except DecimalTextError Decimal) = if Fits e then .ok ⟨m, e⟩ else .error (.exponentTooLong whole) := by
  by_cases fits : Fits e
  · rw [if_pos fits, if_neg (by unfold Fits at fits; omega)]
  · rw [if_neg fits, if_pos (by unfold Fits at fits; omega)]

theorem fits_zero : Fits 0 := by decide

namespace Numeral

variable {n : Numeral}

theorem JsonForm.digits_ne (form : n.JsonForm) : n.digits ≠ [] := by
  simp [digits, form.whole_ne]

theorem JsonForm.digits_digits (form : n.JsonForm) : ∀ c ∈ n.digits, c.isDigit = true := by
  intro c member
  rcases List.mem_append.mp member with whole | fraction
  · exact form.whole_digits c whole
  · cases written : n.fraction with
    | none => simp [written] at fraction
    | some f =>
      rw [written, Option.getD_some] at fraction
      exact (form.fraction f written).2 c fraction

/-- The characters of a numeral up to its exponent are a minus, a point and digits. -/
theorem JsonForm.body_chars (form : n.JsonForm) : ∀ c ∈ n.body, c = '-' ∨ c = '.' ∨ c.isDigit = true := by
  intro c member
  simp only [body, List.mem_append] at member
  rcases member with (sign | whole) | fraction
  · cases minus : n.negative <;> simp_all [signText]
  · exact .inr (.inr (form.whole_digits c whole))
  · cases written : n.fraction with
    | none => simp [written, fractionText] at fraction
    | some f =>
      rw [written, fractionText, List.mem_cons] at fraction
      rcases fraction with point | digit
      · exact .inr (.inl point)
      · exact .inr (.inr ((form.fraction f written).2 c digit))

theorem JsonForm.body_unmarked (form : n.JsonForm) : ∀ c ∈ n.body, (c = 'e' || c = 'E') = false := by
  intro c member
  rcases form.body_chars c member with rfl | rfl | digit
  · decide
  · decide
  · by_contra marked
    simp only [Bool.not_eq_false, Bool.or_eq_true, decide_eq_true_eq] at marked
    rcases marked with rfl | rfl <;> exact absurd digit (by decide)

theorem JsonForm.points (form : n.JsonForm) : ¬ (n.body.filter fun c => decide (c = '.')).length > 1 := by
  have unpointed : ((signText n.negative ++ n.whole).filter fun c => decide (c = '.')) = [] := by
    rw [List.filter_eq_nil_iff]
    intro c member
    rcases List.mem_append.mp member with sign | whole
    · cases minus : n.negative <;> simp_all [signText]
    · have digit := form.whole_digits c whole
      simp only [decide_eq_true_eq]
      rintro rfl
      exact absurd digit (by decide)
  rw [body, List.filter_append, unpointed, List.nil_append]
  cases written : n.fraction with
  | none => simp [fractionText]
  | some f =>
    have digits := (form.fraction f written).2
    have none : (f.filter fun c => decide (c = '.')) = [] := by
      rw [List.filter_eq_nil_iff]
      intro c member point
      exact absurd (digits c member) (by simp only [decide_eq_true_eq] at point; rw [point]; decide)
    simp [fractionText, none]

theorem JsonForm.unpointed (form : n.JsonForm) :
    (n.body.filter fun c => decide (c ≠ '.')) = signText n.negative ++ n.digits := by
  have kept : ∀ cs : List Char, (∀ c ∈ cs, c.isDigit = true) → (cs.filter fun c => decide (c ≠ '.')) = cs := by
    intro cs digits
    rw [List.filter_eq_self]
    intro c member
    have digit := digits c member
    simp only [ne_eq, decide_eq_true_eq]
    rintro rfl
    exact absurd digit (by decide)
  rw [body, List.filter_append, List.filter_append, kept _ form.whole_digits, digits, List.append_assoc]
  congr 1
  · cases n.negative <;> rfl
  · congr 1
    cases written : n.fraction with
    | none => rfl
    | some f =>
      simp only [fractionText, Option.getD_some]
      rw [List.filter_cons_of_neg (by simp), kept f (form.fraction f written).2]

theorem JsonForm.before_point (form : n.JsonForm) :
    ∀ c ∈ signText n.negative ++ n.whole, decide (c = '.') = false := by
  intro c member
  rcases List.mem_append.mp member with sign | whole
  · cases minus : n.negative <;> simp_all [signText]
  · have digit := form.whole_digits c whole
    simp only [decide_eq_false_iff_not]
    rintro rfl
    exact absurd digit (by decide)

/-- A numeral without a point has no fractional places. -/
theorem places_of_unpointed (point : n.body.findIdx? (fun c => decide (c = '.')) = none) : n.places = 0 := by
  cases written : n.fraction with
  | none => simp [places, written]
  | some f =>
    rw [body, written, fractionText, List.findIdx?_append, List.findIdx?_cons] at point
    simp at point

/-- The digits after the point are the fractional places. -/
theorem JsonForm.places_of_point (form : n.JsonForm) {i : Nat}
    (point : n.body.findIdx? (fun c => decide (c = '.')) = some i) :
    (n.body.length : Int) - (i + 1) = n.places := by
  have unfound := List.findIdx?_eq_none_iff.mpr form.before_point
  cases written : n.fraction with
  | none =>
    rw [body, written, fractionText, List.append_nil, unfound] at point
    cases point
  | some f =>
    rw [body, written, fractionText, List.findIdx?_append, unfound, List.findIdx?_cons] at point
    simp only [decide_true, if_true, Option.map_some, Option.none_or, Option.some.injEq, zero_add] at point
    rw [← point, body, written, fractionText, places, written, Option.getD_some]
    simp only [List.length_append, List.length_cons]
    push_cast
    ring

theorem JsonForm.readShort (form : n.JsonForm) (short : (signText n.negative ++ n.digits).length ≤ 18) :
    readSignedInt 64 (signText n.negative ++ n.digits) = .ok n.mantissa := by
  have small : digitsNat n.digits < Nat.pow 2 (64 - 1) := by
    have bound := digitsNat_lt form.digits_digits
    have fewer : n.digits.length ≤ 18 := by
      simp only [List.length_append] at short
      omega
    have : 10 ^ n.digits.length ≤ 10 ^ 18 := Nat.pow_le_pow_right (by decide) fewer
    have wide : (10 : Nat) ^ 18 < Nat.pow 2 (64 - 1) := by decide
    omega
  have sign : SignText (signText n.negative) := by
    cases n.negative
    · exact .inl rfl
    · exact .inr (.inr rfl)
  rw [readSignedInt_eq (by decide) sign form.digits_ne form.digits_digits, mantissa]
  cases n.negative <;> simp [signText, small, Nat.le_of_lt small]

theorem JsonForm.readLong (form : n.JsonForm) :
    readBigInt (signText n.negative ++ n.digits) = some n.mantissa :=
  readBigInt_eq form.digits_ne form.digits_digits

theorem text_of_unmarked (unmarked : n.exponent = none) : n.text = n.body := by
  simp [text, unmarked]

theorem text_of_marked {x : ExponentPart} (marked : n.exponent = some x) :
    n.text = n.body ++ x.marker :: (x.sign ++ x.digits) := by
  simp [text, marked, ExponentPart.text]

/-- Reading a numeral in JSON form gives the decimal it stands for, unless its
exponent, as written or once the fraction is counted, does not fit 32 bits. -/
theorem ofChars_text (form : n.JsonForm) :
    ofChars n.text = if Fits n.exponentValue ∧ Fits (n.exponentValue - n.places) then .ok n.decimal
      else .error (.exponentTooLong (String.ofList n.text)) := by
  have unmarked := List.findIdx?_eq_none_iff.mpr form.body_unmarked
  unfold ofChars
  simp only [bind, Except.bind, pure, Except.pure, decimal]
  -- the mantissa is read as one word when it is short and as a big integer otherwise, and
  -- the fraction's length comes from where the point stands; both go the same way
  -- whether the numeral has an exponent or not
  cases marked : n.exponent with
  | none =>
    have plain : exponentValue n = 0 := by simp [exponentValue, marked]
    rw [text_of_unmarked marked, unmarked, plain]
    simp only [if_neg form.points, form.unpointed, fits_zero, true_and]
    cases point : n.body.findIdx? (fun c => decide (c = '.')) <;>
      by_cases short : (signText n.negative ++ n.digits).length ≤ 18 <;>
      simp only [short, if_true, if_false, form.readShort, form.readLong, range_check,
        places_of_unpointed, form.places_of_point, point, Nat.cast_zero]
  | some x =>
    obtain ⟨marker, sign, nonempty, digits⟩ := form.exponent x marked
    have shifted : exponentValue n = x.value := by simp [exponentValue, marked]
    have found : n.text.findIdx? (fun c => decide (c = 'e') || decide (c = 'E')) = some n.body.length := by
      rw [text_of_marked marked, List.findIdx?_append, unmarked, List.findIdx?_cons]
      rcases marker with e | e <;> simp [e]
    have front : n.text.take n.body.length = n.body := by
      rw [text_of_marked marked, List.take_left' rfl]
    have back : n.text.drop (n.body.length + 1) = x.sign ++ x.digits := by
      rw [text_of_marked marked, ← List.singleton_append, ← List.append_assoc, List.drop_left' (by simp)]
    simp only [found, back, ExponentPart.read sign nonempty digits, shifted]
    by_cases fits : Fits x.value
    · simp only [if_pos fits, front, if_neg form.points, form.unpointed]
      cases point : n.body.findIdx? (fun c => decide (c = '.')) <;>
        by_cases short : (signText n.negative ++ n.digits).length ≤ 18 <;>
        simp only [short, if_true, if_false, form.readShort, form.readLong, range_check,
          places_of_unpointed, form.places_of_point, point, Nat.cast_zero, fits, true_and]
    · rw [if_neg fits, if_neg (fun both => fits both.1)]

end Numeral

/-! ### Writing decimals -/

/-- The numeral a decimal is written as: its digits split at the point, the
fraction without trailing zeros and left out when nothing of it remains. -/
def written (d : Decimal) : Numeral :=
  let fraction := trimZeros d.splitDigits.2
  { negative := decide (d.mantissa < 0), whole := d.splitDigits.1,
    fraction := if fraction.isEmpty then none else some fraction, exponent := none }

theorem toText_written (d : Decimal) : (d.toText false).toList = (written d).text := by
  unfold toText written Numeral.text Numeral.body
  by_cases minus : d.mantissa < 0 <;> by_cases empty : (trimZeros d.splitDigits.2).isEmpty <;>
    simp [minus, empty, signText, fractionText]

theorem trimZeros_zeros (cs : List Char) : ∃ k, cs = trimZeros cs ++ List.replicate k '0' := by
  refine ⟨(cs.reverse.takeWhile fun c => decide (c = '0')).length, ?_⟩
  have zeros : (cs.reverse.takeWhile fun c => decide (c = '0')) =
      List.replicate (cs.reverse.takeWhile fun c => decide (c = '0')).length '0' := by
    rw [List.eq_replicate_iff]
    refine ⟨rfl, fun b member => ?_⟩
    simpa using List.all_eq_true.mp List.all_takeWhile b member
  conv_lhs =>
    rw [← List.reverse_reverse cs, ← List.takeWhile_append_dropWhile (p := fun c => decide (c = '0'))
      (l := cs.reverse)]
  rw [List.reverse_append, zeros, List.reverse_replicate, List.length_replicate, trimZeros]

theorem toDigits_zero : Nat.toDigits 10 0 = ['0'] := by decide

/-- How a decimal's digits are split at the point: all whole for an exponent not
below zero; otherwise the last `-exponent` digits of the mantissa are the fraction,
padded with zeros in front when the mantissa has fewer. -/
theorem splitDigits_cases (d : Decimal) :
    (0 ≤ d.exponent ∧ d.splitDigits = (natDigits (d.mantissaAt 0).natAbs, [])) ∨
      (d.exponent < 0 ∧ (-d.exponent).toNat < (natDigits d.mantissa.natAbs).length ∧
        d.splitDigits = ((natDigits d.mantissa.natAbs).take ((natDigits d.mantissa.natAbs).length - (-d.exponent).toNat),
          (natDigits d.mantissa.natAbs).drop ((natDigits d.mantissa.natAbs).length - (-d.exponent).toNat))) ∨
      (d.exponent < 0 ∧ (natDigits d.mantissa.natAbs).length ≤ (-d.exponent).toNat ∧
        d.splitDigits = (['0'], List.replicate ((-d.exponent).toNat - (natDigits d.mantissa.natAbs).length) '0' ++
          natDigits d.mantissa.natAbs)) := by
  by_cases nonneg : 0 ≤ d.exponent
  · exact .inl ⟨nonneg, by simp [splitDigits, nonneg]⟩
  · by_cases long : (-d.exponent).toNat < (natDigits d.mantissa.natAbs).length
    · exact .inr (.inl ⟨by omega, long, by simp [splitDigits, nonneg, long]⟩)
    · exact .inr (.inr ⟨by omega, by omega, by simp [splitDigits, nonneg, long]⟩)

/-- The whole digits of a decimal are digits with no leading zero but a lone one,
and its fraction is digits, no more of them than the exponent is below zero. -/
theorem splitDigits_form (d : Decimal) :
    d.splitDigits.1 ≠ [] ∧ (∀ c ∈ d.splitDigits.1 ++ d.splitDigits.2, c.isDigit = true) ∧
      (d.splitDigits.1.head? = some '0' → d.splitDigits.1 = ['0']) ∧
      (d.splitDigits.2.length : Int) ≤ max 0 (-d.exponent) := by
  rcases splitDigits_cases d with ⟨-, split⟩ | ⟨below, long, split⟩ | ⟨below, short, split⟩ <;> rw [split]
  · refine ⟨Nat.toDigits_ne_nil, by rw [List.append_nil]; exact toDigits_digits _, fun leading => ?_, by simp⟩
    rw [natDigits, toDigits_head _ leading, toDigits_zero]
  · refine ⟨List.ne_nil_of_length_pos (by rw [List.length_take]; omega),
      by rw [List.take_append_drop]; exact toDigits_digits _, fun leading => ?_, ?_⟩
    · -- digits that start with a zero are those of zero, a single digit
      rw [List.head?_take, if_neg (by omega)] at leading
      have zero := toDigits_head _ leading
      rw [natDigits, zero, toDigits_zero] at long
      simp at long
      omega
    · simp only [List.length_drop]
      omega
  · refine ⟨by simp, ?_, fun _ => rfl, ?_⟩
    · intro c member
      simp only [List.singleton_append, List.mem_cons, List.mem_append, List.mem_replicate] at member
      rcases member with rfl | ⟨-, rfl⟩ | digit
      · rfl
      · rfl
      · exact toDigits_digits _ c digit
    · simp only [List.length_append, List.length_replicate]
      omega

theorem signed_natAbs (m : Int) : (if m < 0 then -(m.natAbs : Int) else m.natAbs) = m := by
  split_ifs with minus
  · rw [Int.ofNat_natAbs_of_nonpos (by omega), neg_neg]
  · exact Int.natAbs_of_nonneg (by omega)

theorem value_of_spelled {d : Decimal} {w f : List Char} (spelled : digitsNat (w ++ f) = d.mantissa.natAbs)
    (places : (f.length : Int) = -d.exponent) :
    (((if d.mantissa < 0 then -(digitsNat (w ++ f) : Int) else digitsNat (w ++ f)) : Int) : ℚ) *
      10 ^ (-(f.length : Int)) = d.value := by
  rw [spelled, places, neg_neg, signed_natAbs]
  rfl

/-- The digits of a decimal, signed and scaled by its fraction, are its value. -/
theorem splitDigits_value (d : Decimal) :
    (((if d.mantissa < 0 then -(digitsNat (d.splitDigits.1 ++ d.splitDigits.2) : Int)
        else digitsNat (d.splitDigits.1 ++ d.splitDigits.2)) : Int) : ℚ) *
      10 ^ (-(d.splitDigits.2.length : Int)) = d.value := by
  rcases splitDigits_cases d with ⟨nonneg, split⟩ | ⟨below, long, split⟩ | ⟨below, short, split⟩ <;> rw [split]
  · -- whole tens: the digits are those of the mantissa at exponent 0
    have scaled := mantissaAt_mul_pow nonneg
    have sameSign : (d.mantissaAt 0 < 0 ↔ d.mantissa < 0) := by
      simp only [mantissaAt, if_pos nonneg, pow10]
      constructor
      · intro negative
        by_contra nonnegative
        exact absurd negative (not_lt.mpr (Int.mul_nonneg (by omega) (by simp [Int.pow])))
      · intro negative
        exact Int.mul_neg_of_neg_of_pos negative (by simp [Int.pow])
    simp only [List.append_nil, natDigits, digitsNat_toDigits, List.length_nil, Nat.cast_zero, neg_zero,
      zpow_zero, mul_one] at scaled ⊢
    rw [← scaled]
    by_cases minus : d.mantissa < 0
    · rw [if_pos minus, Int.ofNat_natAbs_of_nonpos (sameSign.mpr minus).le]
      simp
    · rw [if_neg minus, Int.natAbs_of_nonneg (not_lt.mp (mt sameSign.mp minus))]
  · exact value_of_spelled (by rw [List.take_append_drop, natDigits, digitsNat_toDigits])
      (by simp only [List.length_drop]; omega)
  · exact value_of_spelled (by rw [List.singleton_append, digitsNat_zero_cons, digitsNat_append,
        digitsNat_zeros, Nat.zero_mul, Nat.zero_add, natDigits, digitsNat_toDigits])
      (by simp only [List.length_append, List.length_replicate]; omega)

theorem written_digits (d : Decimal) : (written d).digits = d.splitDigits.1 ++ trimZeros d.splitDigits.2 := by
  unfold written Numeral.digits
  dsimp only
  split_ifs with empty <;> simp_all

theorem written_places (d : Decimal) : (written d).places = (trimZeros d.splitDigits.2).length := by
  unfold written Numeral.places
  dsimp only
  split_ifs with empty <;> simp_all

theorem written_form (d : Decimal) : (written d).JsonForm := by
  obtain ⟨whole, digits, lone, -⟩ := splitDigits_form d
  obtain ⟨k, trimmed⟩ := trimZeros_zeros d.splitDigits.2
  have kept : ∀ c ∈ trimZeros d.splitDigits.2, c.isDigit = true := fun c member =>
    digits c (List.mem_append_right _ (trimmed ▸ List.mem_append_left _ member))
  refine ⟨whole, fun c member => digits c (List.mem_append_left _ member), lone, fun f written => ?_,
    fun x marked => by cases marked⟩
  simp only [Decimal.written] at written
  split_ifs at written with empty
  cases written
  exact ⟨by simpa using empty, kept⟩

theorem written_value (d : Decimal) : (written d).decimal.value = d.value := by
  obtain ⟨k, trimmed⟩ := trimZeros_zeros d.splitDigits.2
  set t := trimZeros d.splitDigits.2
  have spelled : digitsNat (d.splitDigits.1 ++ d.splitDigits.2) = digitsNat (d.splitDigits.1 ++ t) * 10 ^ k := by
    rw [trimmed, ← List.append_assoc, digitsNat_append, digitsNat_zeros, List.length_replicate, Nat.add_zero]
  have length : d.splitDigits.2.length = t.length + k := by
    rw [trimmed, List.length_append, List.length_replicate]
  -- the trailing zeros dropped from the fraction come back as a smaller exponent
  have scale : ((10 : ℚ) ^ k) * 10 ^ (-((t.length + k : Nat) : Int)) = 10 ^ (-(t.length : Int)) := by
    rw [← zpow_natCast, ← zpow_add₀ (by norm_num)]
    congr 1
    push_cast
    ring
  have plain : (written d).exponentValue = 0 := rfl
  rw [← splitDigits_value d, spelled, length]
  simp only [value, Numeral.decimal, Numeral.mantissa, written_digits, written_places, plain, zero_sub]
  rw [← scale]
  by_cases minus : d.mantissa < 0 <;> simp only [written, minus, decide_true, decide_false, if_true,
    Bool.false_eq_true, if_false] <;> push_cast <;> ring

/-- A decimal whose exponent fits reads back from its text as a decimal of the same
value: the numeral it is written as. -/
theorem ofString_toString (d : Decimal) (fits : minExponent ≤ d.exponent) :
    Decimal.ofString d.toString = .ok (written d).decimal ∧ (written d).decimal.value = d.value := by
  obtain ⟨k, trimmed⟩ := trimZeros_zeros d.splitDigits.2
  obtain ⟨-, -, -, few⟩ := splitDigits_form d
  have places : ((written d).places : Int) ≤ max 0 (-d.exponent) := by
    have longer := congrArg List.length trimmed
    rw [List.length_append, List.length_replicate] at longer
    rw [written_places]
    omega
  have inRange : Fits (written d).exponentValue ∧ Fits ((written d).exponentValue - (written d).places) := by
    have bound : Int.pow 2 31 = 2147483648 := by decide
    refine ⟨fits_zero, ?_⟩
    simp only [Fits, minExponent, maxExponent, bound] at fits ⊢
    have plain : (written d).exponentValue = 0 := rfl
    omega
  refine ⟨?_, written_value d⟩
  rw [Decimal.ofString, Decimal.toString, toText_written, Numeral.ofChars_text (written_form d), if_pos inRange]

end Admissions.Decimal
