import Mathlib.Tactic.IntervalCases
import Admissions.Proofs.Decimal.Numeral
import Admissions.Json.Read

namespace Admissions.Json

/-! ### Strings -/

theorem readHex4_append {l : List Char} (four : l.length = 4) (more : List Char) :
    readHex4 (l ++ more) = readHex4 l := by
  unfold readHex4
  rw [List.take_left' four, List.take_of_length_le (by omega)]
  simp [four]

theorem readHex4_control : ∀ n, n < 0x20 → readHex4 (hexDigits 4 n).toList = .ok n := by
  intro n small
  interval_cases n <;> rfl

theorem hexDigits_control_length : ∀ n, n < 0x20 → (hexDigits 4 n).toList.length = 4 := by
  intro n small
  interval_cases n <;> rfl

theorem surrogatePair_control {n : Nat} (small : n < 0x20) (after : List Char) :
    surrogatePair n after = (Char.ofNat n, 0) := by
  simp only [surrogatePair]
  rw [if_neg (by omega), if_neg (by omega)]

theorem readString_plain (acc : List Char) {c : Char} (notQuote : c ≠ '"') (notBackslash : c ≠ '\\')
    (printable : ¬ c.toNat < 0x20) (more : List Char) :
    readString acc (c :: more) = readString (c :: acc) more := by
  -- the last pattern applies once the three before it are ruled out
  rw [readString, if_neg printable]
  · exact notQuote
  · exact fun backslash => absurd backslash notBackslash
  · exact fun _ _ backslash => absurd backslash notBackslash

theorem readString_escaped (acc : List Char) {e c : Char} (letter : escaped e = some c) (more : List Char) :
    readString acc ('\\' :: e :: more) = readString (c :: acc) more := by
  have notU : e ≠ 'u' := by
    rintro rfl
    cases letter
  rw [readString.eq_def]
  simp [notU, letter]

/-- One escaped character reads back as that character, whatever follows it. -/
theorem readString_escape (acc : List Char) (c : Char) (more : List Char) :
    readString acc (escapeChars [c] ++ more) = readString (c :: acc) more := by
  simp only [escapeChars, List.append_nil]
  split_ifs with quote backslash newline ret tab back feed control
  -- the quote, the backslash and the usual control characters have escape letters
  · subst quote
    exact readString_escaped acc rfl more
  · subst backslash
    exact readString_escaped acc rfl more
  · subst newline
    exact readString_escaped acc rfl more
  · subst ret
    exact readString_escaped acc rfl more
  · subst tab
    exact readString_escaped acc rfl more
  · subst back
    exact readString_escaped acc rfl more
  · subst feed
    exact readString_escaped acc rfl more
  · -- any other control character is written as its four hexadecimal digits
    have four := hexDigits_control_length c.toNat control
    rw [readString.eq_def]
    simp only [List.cons_append, if_true, readHex4_append four, readHex4_control c.toNat control,
      surrogatePair_control control, Nat.add_zero, List.drop_left' four, Char.ofNat_toNat]
  · exact readString_plain acc quote backslash control more

theorem readString_escapeChars (acc cs rest : List Char) :
    readString acc (escapeChars cs ++ '"' :: rest) = .ok (String.ofList (acc.reverse ++ cs), rest) := by
  induction cs generalizing acc with
  | nil => simp [escapeChars, readString]
  | cons c cs ih =>
    have split : escapeChars (c :: cs) = escapeChars [c] ++ escapeChars cs := by
      simp [escapeChars]
    rw [split, List.append_assoc, readString_escape, ih]
    simp

/-! ### Numbers -/

/-- What may follow a number in a text: nothing, or a character that cannot
continue it. -/
def Ends (rest : List Char) : Prop :=
  ∀ c cs, rest = c :: cs → c.isDigit = false ∧ c ≠ '.' ∧ c ≠ 'e' ∧ c ≠ 'E'

theorem spanDigits_append {ds rest : List Char} (digits : ∀ c ∈ ds, c.isDigit = true)
    (stop : ∀ c cs, rest = c :: cs → c.isDigit = false) : spanDigits (ds ++ rest) = (ds, rest) := by
  have none : rest.takeWhile Char.isDigit = [] := by
    cases rest with
    | nil => rfl
    | cons c cs => simp [stop c cs rfl]
  have kept : rest.dropWhile Char.isDigit = rest := by
    cases rest with
    | nil => rfl
    | cons c cs => simp [stop c cs rfl]
  simp only [spanDigits, List.takeWhile_append_of_pos digits, List.dropWhile_append_of_pos digits, none, kept,
    List.append_nil]

theorem digit_ne {d : Char} (digit : d.isDigit = true) : d ≠ '-' ∧ d ≠ '+' ∧ d ≠ '.' ∧ d ≠ 'e' ∧ d ≠ 'E' := by
  refine ⟨?_, ?_, ?_, ?_, ?_⟩ <;> (rintro rfl; exact absurd digit (by decide))

/-- A digit is no blank and none of the characters that start or close a value. -/
theorem digit_ne_marks {d : Char} (digit : d.isDigit = true) :
    isBlank d = false ∧ d ≠ ']' ∧ d ≠ ',' ∧ d ≠ '{' ∧ d ≠ '[' ∧ d ≠ '"' := by
  have blank : isBlank d = false := by
    unfold isBlank
    by_contra blank
    simp only [Bool.not_eq_false, Bool.or_eq_true, decide_eq_true_eq] at blank
    rcases blank with ((rfl | rfl) | rfl) | rfl <;> exact absurd digit (by decide)
  refine ⟨blank, ?_, ?_, ?_, ?_, ?_⟩ <;> (rintro rfl; exact absurd digit (by decide))

theorem exponentSign_text {s : List Char} (sign : Decimal.SignText s) {d : Char} (digit : d.isDigit = true)
    (rest : List Char) : exponentSign (s ++ d :: rest) = (s, d :: rest) := by
  obtain ⟨minus, plus, -⟩ := digit_ne digit
  rcases sign with rfl | rfl | rfl
  · -- an unsigned exponent starts with a digit, which is no sign
    unfold exponentSign
    split
    · rename_i same
      cases same
      exact absurd rfl plus
    · rename_i same
      cases same
      exact absurd rfl minus
    · rfl
  · rfl
  · rfl

/-- A fraction written as JSON writes it reads as itself, when no digit follows it
and no point follows a number without one. -/
theorem readFraction_text {f : Option (List Char)} (fraction : ∀ g, f = some g → g ≠ [] ∧ ∀ c ∈ g, c.isDigit = true)
    {after : List Char} (stop : ∀ c cs, after = c :: cs → c.isDigit = false ∧ c ≠ '.') :
    readFraction (Decimal.fractionText f ++ after) = .ok (Decimal.fractionText f, after) := by
  cases f with
  | none =>
    unfold readFraction
    split
    · rename_i rest same
      exact absurd rfl (stop '.' rest same).2
    · rfl
  | some g =>
    obtain ⟨nonempty, digits⟩ := fraction g rfl
    obtain ⟨d, rest, rfl⟩ := List.exists_cons_of_ne_nil nonempty
    have spanned := spanDigits_append digits (fun c cs follows => (stop c cs follows).1)
    simp only [Decimal.fractionText, List.cons_append, readFraction, digits d List.mem_cons_self, if_true]
    rw [← List.cons_append, spanned]
    rfl

/-- An exponent written as JSON writes it reads as itself after the fraction `frac`,
when what follows cannot continue a number. -/
theorem readExponent_text {x : Option Decimal.ExponentPart}
    (exponent : ∀ y, x = some y → (y.marker = 'e' ∨ y.marker = 'E') ∧ Decimal.SignText y.sign ∧ y.digits ≠ [] ∧
      ∀ c ∈ y.digits, c.isDigit = true)
    (frac : List Char) {rest : List Char} (ends : Ends rest) :
    readExponent frac ((x.map Decimal.ExponentPart.text).getD [] ++ rest) =
      .ok (frac ++ (x.map Decimal.ExponentPart.text).getD [], rest) := by
  cases x with
  | none =>
    cases rest with
    | nil =>
      simp only [Option.map_none, Option.getD_none, List.append_nil, readExponent]
      rfl
    | cons c cs =>
      obtain ⟨-, -, e, bigE⟩ := ends c cs rfl
      simp only [Option.map_none, Option.getD_none, List.nil_append, readExponent, List.append_nil]
      rw [if_neg (by rintro (same | same) <;> contradiction)]
      rfl
  | some y =>
    obtain ⟨marker, sign, nonempty, digits⟩ := exponent y rfl
    obtain ⟨d, more, spelled⟩ := List.exists_cons_of_ne_nil nonempty
    have lead := digits d (spelled ▸ List.mem_cons_self)
    have spanned := spanDigits_append digits (fun c cs follows => (ends c cs follows).1)
    have signed := exponentSign_text sign lead (more ++ rest)
    simp only [Option.map_some, Option.getD_some, Decimal.ExponentPart.text, List.cons_append, readExponent]
    rw [if_pos marker, List.append_assoc, spelled, List.cons_append, signed]
    simp only [lead, if_true]
    rw [← List.cons_append, ← spelled, spanned]
    simp only [List.append_assoc, List.cons_append]
    rfl

/-- The characters of a numeral after its whole digits. -/
def numeralTail (n : Decimal.Numeral) : List Char :=
  Decimal.fractionText n.fraction ++ (n.exponent.map Decimal.ExponentPart.text).getD []

theorem text_eq_tail (n : Decimal.Numeral) :
    n.text = Decimal.signText n.negative ++ (n.whole ++ numeralTail n) := by
  simp [Decimal.Numeral.text, Decimal.Numeral.body, numeralTail]

/-- What follows the whole digits of a numeral in JSON form cannot continue them. -/
theorem tail_stop {n : Decimal.Numeral} (form : n.JsonForm) {rest : List Char} (ends : Ends rest) :
    ∀ c cs, numeralTail n ++ rest = c :: cs → c.isDigit = false := by
  intro c cs spelled
  cases fraction : n.fraction with
  | some f =>
    rw [numeralTail, fraction, Decimal.fractionText, List.cons_append, List.cons_append] at spelled
    cases spelled
    rfl
  | none =>
    cases marked : n.exponent with
    | some x =>
      obtain ⟨marker, -⟩ := form.exponent x marked
      rw [numeralTail, fraction, marked] at spelled
      simp only [Decimal.fractionText, Option.map_some, Option.getD_some, Decimal.ExponentPart.text,
        List.nil_append, List.cons_append, List.cons.injEq] at spelled
      rw [← spelled.1]
      rcases marker with e | e <;> rw [e] <;> rfl
    | none =>
      rw [numeralTail, fraction, marked] at spelled
      exact (ends c cs spelled).1

theorem readNumberTail_text {n : Decimal.Numeral} (form : n.JsonForm) {rest : List Char} (ends : Ends rest) :
    readNumberTail (numeralTail n ++ rest) = .ok (numeralTail n, rest) := by
  -- the fraction is followed by the exponent's marker, or by what follows the number
  have stop : ∀ c cs, (n.exponent.map Decimal.ExponentPart.text).getD [] ++ rest = c :: cs →
      c.isDigit = false ∧ c ≠ '.' := by
    intro c cs spelled
    cases marked : n.exponent with
    | none =>
      rw [marked, Option.map_none, Option.getD_none, List.nil_append] at spelled
      obtain ⟨digit, point, -⟩ := ends c cs spelled
      exact ⟨digit, point⟩
    | some x =>
      obtain ⟨marker, -⟩ := form.exponent x marked
      simp only [marked, Option.map_some, Option.getD_some, Decimal.ExponentPart.text, List.cons_append,
        List.cons.injEq] at spelled
      rw [← spelled.1]
      rcases marker with e | e <;> rw [e] <;> decide
  unfold readNumberTail
  rw [numeralTail, List.append_assoc, readFraction_text form.fraction stop]
  exact readExponent_text form.exponent _ ends

theorem numberSign_text (negative : Bool) {d : Char} (digit : d.isDigit = true) (more : List Char) :
    numberSign (Decimal.signText negative ++ d :: more) = (Decimal.signText negative, d :: more) := by
  cases negative
  · obtain ⟨minus, -⟩ := digit_ne digit
    unfold numberSign
    split
    · rename_i rest same
      cases same
      exact absurd rfl minus
    · rfl
  · rfl

/-- A numeral in JSON form reads as its own text, when what follows cannot continue it. -/
theorem readNumber_text {n : Decimal.Numeral} (form : n.JsonForm) {rest : List Char} (ends : Ends rest) :
    readNumber (n.text ++ rest) = .ok (String.ofList n.text, rest) := by
  obtain ⟨d, ws, whole⟩ := List.exists_cons_of_ne_nil form.whole_ne
  have lead := form.whole_digits d (whole ▸ List.mem_cons_self)
  have tail := readNumberTail_text form ends
  unfold readNumber
  rw [text_eq_tail, whole]
  simp only [List.append_assoc, List.cons_append]
  rw [numberSign_text n.negative lead]
  by_cases zero : d = '0'
  · -- a lone zero is followed by the tail at once
    have lone : ws = [] := by
      have single := form.lone_zero (by rw [whole, zero]; rfl)
      rw [whole, zero] at single
      exact List.cons_inj_right _ |>.mp single
    subst zero lone
    simp only [List.nil_append, tail]
    rfl
  · -- other whole digits start with a digit that is not zero, and all of them are read
    have stop := tail_stop form ends
    have spanned := spanDigits_append form.whole_digits stop
    split
    · rename_i same
      cases same
    · rename_i more same
      cases same
      exact absurd rfl zero
    · rename_i e more _ same
      cases same
      rw [if_pos lead, ← List.cons_append, ← whole, spanned]
      simp only [tail, whole, List.cons_append]
      rfl

/-! ### Values -/

/-- Values whose text reads back: `null`, truth values, strings, numbers written as
JSON numerals, and arrays of such values. -/
inductive Readable : Json → Prop
  | null : Readable .null
  | bool (b : Bool) : Readable (.bool b)
  | str (s : String) : Readable (.str s)
  | num {n : Decimal.Numeral} (form : n.JsonForm) : Readable (.num (String.ofList n.text))
  | arr {items : List Json} (each : ∀ x ∈ items, Readable x) : Readable (.arr items)

theorem quote_toList (s : String) : (quote s).toList = '"' :: (escapeChars s.toList ++ ['"']) := by
  simp [quote]

theorem render_arr_toList (items : List Json) :
    (render (.arr items)).toList = '[' :: ((renderItems items).toList ++ [']']) := by
  simp [render]

/-- A numeral starts with its minus sign or its first digit. -/
theorem numeral_head {n : Decimal.Numeral} (form : n.JsonForm) :
    ∃ c cs, n.text = c :: cs ∧ (c = '-' ∨ c.isDigit = true) := by
  obtain ⟨d, ws, whole⟩ := List.exists_cons_of_ne_nil form.whole_ne
  cases minus : n.negative
  · refine ⟨d, ws ++ numeralTail n, ?_, .inr (form.whole_digits d (whole ▸ List.mem_cons_self))⟩
    simp [text_eq_tail, minus, Decimal.signText, whole]
  · refine ⟨'-', n.whole ++ numeralTail n, ?_, .inl rfl⟩
    simp [text_eq_tail, minus, Decimal.signText]

/-- The text of a readable value starts with a character that is no blank and closes
no array. -/
theorem Readable.head {j : Json} (readable : Readable j) :
    ∃ c cs, (render j).toList = c :: cs ∧ isBlank c = false ∧ c ≠ ']' ∧ c ≠ ',' := by
  cases readable with
  | null => exact ⟨'n', _, rfl, rfl, by decide, by decide⟩
  | bool b => cases b <;> exact ⟨_, _, rfl, rfl, by decide, by decide⟩
  | str s => exact ⟨'"', _, by rw [render, quote_toList], rfl, by decide, by decide⟩
  | @num n form =>
    obtain ⟨c, cs, spelled, lead⟩ := numeral_head form
    refine ⟨c, cs, by simp [render, spelled], ?_⟩
    rcases lead with rfl | digit
    · decide
    · obtain ⟨blank, close, comma, -⟩ := digit_ne_marks digit
      exact ⟨blank, close, comma⟩
  | arr each => exact ⟨'[', _, render_arr_toList _, rfl, by decide, by decide⟩

theorem skipBlank_cons {c : Char} (notBlank : isBlank c = false) (cs : List Char) :
    skipBlank (c :: cs) = c :: cs := by
  simp [skipBlank, notBlank]

theorem render_length_pos {j : Json} (readable : Readable j) : 0 < (render j).length := by
  obtain ⟨c, cs, spelled, -⟩ := readable.head
  rw [← String.length_toList, spelled]
  simp

theorem fuel_succ {j : Json} (readable : Readable j) {fuel : Nat} (enough : (render j).length ≤ fuel) :
    ∃ f, fuel = f + 1 :=
  ⟨fuel - 1, by have := render_length_pos readable; omega⟩

theorem renderItems_cons_toList (x y : Json) (more : List Json) :
    (renderItems (x :: y :: more)).toList = (render x).toList ++ ',' :: (renderItems (y :: more)).toList := by
  simp [renderItems]

/-- Array elements read back, each one given enough fuel, when every element does. -/
theorem readElements_render {items : List Json}
    (each : ∀ x ∈ items, Readable x ∧ ∀ {fuel : Nat} {rest : List Char}, (render x).length ≤ fuel → Ends rest →
      readValue fuel ((render x).toList ++ rest) = .ok (x, rest))
    (nonempty : items ≠ []) :
    ∀ {fuel : Nat} {acc : List Json} {rest : List Char}, (renderItems items).length + 1 ≤ fuel →
      readElements fuel acc ((renderItems items).toList ++ ']' :: rest) = .ok (.arr (acc.reverse ++ items), rest) := by
  -- every element is followed by a comma or the closing bracket, neither of which continues a number
  have separated : ∀ (c : Char) (rest : List Char), c = ',' ∨ c = ']' → Ends (c :: rest) := by
    rintro c rest (rfl | rfl) d ds same <;> cases same <;> decide
  induction items with
  | nil => exact (nonempty rfl).elim
  | cons x more ih =>
    intro fuel acc rest enough
    obtain ⟨readable, reads⟩ := each x List.mem_cons_self
    have positive := render_length_pos readable
    obtain ⟨f, rfl⟩ : ∃ f, fuel = f + 1 := ⟨fuel - 1, by omega⟩
    cases more with
    | nil =>
      have last : readValue f ((render x).toList ++ ']' :: rest) = .ok (x, ']' :: rest) :=
        reads (by simpa [renderItems] using enough) (separated _ _ (.inr rfl))
      simp only [renderItems] at last ⊢
      simp [readElements, last, skipBlank, isBlank]
    | cons y more =>
      have length : (renderItems (x :: y :: more)).length =
          (render x).length + 1 + (renderItems (y :: more)).length := by
        rw [← String.length_toList, renderItems_cons_toList]
        simp only [List.length_append, List.length_cons, String.length_toList]
        omega
      have first : readValue f ((render x).toList ++ ',' :: ((renderItems (y :: more)).toList ++ ']' :: rest)) =
          .ok (x, ',' :: ((renderItems (y :: more)).toList ++ ']' :: rest)) :=
        reads (by omega) (separated _ _ (.inl rfl))
      have later : readElements f (x :: acc) ((renderItems (y :: more)).toList ++ ']' :: rest) =
          .ok (.arr ((x :: acc).reverse ++ y :: more), rest) :=
        ih (fun z member => each z (List.mem_cons_of_mem x member)) (List.cons_ne_nil y more) (by omega)
      rw [renderItems_cons_toList, List.append_assoc, List.cons_append]
      simp only [readElements, first, skipBlank, isBlank]
      simp [later]

theorem renderItems_toList_cons (x : Json) (more : List Json) :
    ∃ tail, (renderItems (x :: more)).toList = (render x).toList ++ tail := by
  cases more with
  | nil => exact ⟨[], by simp [renderItems]⟩
  | cons y more => exact ⟨_, renderItems_cons_toList x y more⟩

theorem render_arr_length (items : List Json) : (render (.arr items)).length = (renderItems items).length + 2 := by
  rw [← String.length_toList, render_arr_toList, ← String.length_toList]
  simp

/-- An array read from its own compact text keeps no written text. -/
theorem readFrom_arr (items : List Json) (rest : List Char) :
    readFrom ('[' :: ((renderItems items).toList ++ ']' :: rest)) (.arr items, rest) = (.arr items, rest) := by
  have whole : '[' :: ((renderItems items).toList ++ ']' :: rest) = (render (.arr items)).toList ++ rest := by
    simp [render_arr_toList]
  have span : ((render (.arr items)).toList ++ rest).take
      (((render (.arr items)).toList ++ rest).length - rest.length) = (render (.arr items)).toList := by
    simp
  rw [whole, readFrom, span, String.ofList_toList]
  simp [writtenAs]

/-- A readable value reads back from its text, given fuel for as many characters as
the text has, when what follows cannot continue a number. -/
theorem readValue_render {j : Json} (readable : Readable j) :
    ∀ {fuel : Nat} {rest : List Char}, (render j).length ≤ fuel → Ends rest →
      readValue fuel ((render j).toList ++ rest) = .ok (j, rest) := by
  induction readable with
  | null =>
    intro fuel rest enough _
    obtain ⟨f, rfl⟩ := fuel_succ Readable.null enough
    simp [render, readValue, skipBlank, isBlank, readWord]
    rfl
  | bool b =>
    intro fuel rest enough _
    obtain ⟨f, rfl⟩ := fuel_succ (Readable.bool b) enough
    cases b <;> simp [render, readValue, skipBlank, isBlank, readWord] <;> rfl
  | str s =>
    intro fuel rest enough _
    obtain ⟨f, rfl⟩ := fuel_succ (Readable.str s) enough
    rw [render, quote_toList]
    simp [readValue, skipBlank, isBlank, readString_escapeChars]
  | @num n form =>
    intro fuel rest enough ends
    obtain ⟨f, rfl⟩ := fuel_succ (Readable.num form) enough
    obtain ⟨c, cs, spelled, lead⟩ := numeral_head form
    -- a numeral opens no object, array or string
    have opens : isBlank c = false ∧ c ≠ '{' ∧ c ≠ '[' ∧ c ≠ '"' := by
      rcases lead with rfl | digit
      · decide
      · obtain ⟨blank, -, -, brace, bracket, quote⟩ := digit_ne_marks digit
        exact ⟨blank, brace, bracket, quote⟩
    obtain ⟨blank, brace, bracket, quote⟩ := opens
    have number := readNumber_text form ends
    rw [spelled, List.cons_append] at number
    simp only [render, String.toList_ofList, spelled, List.cons_append, readValue, skipBlank_cons blank,
      if_neg brace, if_neg bracket, if_neg quote, if_pos lead, number]
  | @arr items each ih =>
    intro fuel rest enough _
    obtain ⟨f, rfl⟩ := fuel_succ (Readable.arr each) enough
    rw [render_arr_toList, List.cons_append, List.append_assoc, List.singleton_append]
    cases items with
    | nil =>
      have compact := readFrom_arr [] rest
      simp only [renderItems, String.toList_empty, List.nil_append] at compact
      simp [readValue, skipBlank, isBlank, renderItems, Except.map, compact]
    | cons x more =>
      obtain ⟨c, cs, spelled, blank, close, -⟩ := (each x List.mem_cons_self).head
      obtain ⟨tail, items⟩ := renderItems_toList_cons x more
      have elements : readElements f [] ((renderItems (x :: more)).toList ++ ']' :: rest) =
          .ok (.arr ([].reverse ++ x :: more), rest) :=
        readElements_render (fun y member => ⟨each y member, ih y member⟩) (List.cons_ne_nil x more)
          (by rw [render_arr_length] at enough; omega)
      have opened : skipBlank ((renderItems (x :: more)).toList ++ ']' :: rest) =
          c :: (cs ++ tail ++ ']' :: rest) := by
        rw [items, spelled, List.append_assoc, List.cons_append, skipBlank_cons blank, List.append_assoc]
      simp only [readValue, skipBlank_cons (show isBlank '[' = false by decide), if_neg (show '[' ≠ '{' by decide),
        if_pos, opened]
      split
      · rename_i same
        cases same
      · rename_i after same
        cases same
        exact absurd rfl close
      · simp only [List.reverse_nil, List.nil_append] at elements
        rw [elements]
        exact congrArg Except.ok (readFrom_arr (x :: more) rest)

theorem parse_render {j : Json} (readable : Readable j) : parse (render j) = .ok j := by
  have read : readValue ((render j).toList.length + 1) ((render j).toList ++ []) = .ok (j, []) :=
    readValue_render readable (by rw [String.length_toList]; omega) (fun c cs same => by cases same)
  rw [List.append_nil] at read
  simp [parse, parseChars, read, skipBlank]

/-! ### Arrays and objects keep the text they are read from -/

theorem kindName_writtenAs (text : String) (j : Json) : (j.writtenAs text).kindName = j.kindName := by
  cases j <;> rfl

/-- An array or object keeps the text it is read from, compact or not. -/
theorem source_writtenAs (text : String) {j : Json}
    (composite : j.kindName = "array" ∨ j.kindName = "object") : (j.writtenAs text).source = text := by
  cases j with
  | arr items _ =>
    by_cases compact : text = render (.arr items)
    · simp [writtenAs, compact, source]
    · simp [writtenAs, compact, source]
  | obj fields _ =>
    by_cases compact : text = render (.obj fields)
    · simp [writtenAs, compact, source]
    · simp [writtenAs, compact, source]
  | _ => simp [kindName] at composite

theorem map_readFrom_ok {whole after : List Char} {x : Except SyntaxError (Json × List Char)} {v : Json}
    (read : x.map (readFrom whole) = .ok (v, after)) :
    ∃ v₀ : Json, v = v₀.writtenAs (String.ofList (whole.take (whole.length - after.length))) := by
  cases x with
  | error e => cases read
  | ok p =>
    obtain ⟨v₀, after₀⟩ := p
    cases read
    exact ⟨v₀, rfl⟩

/-- An array or object read from a text keeps exactly the text it spans there, from its
opening bracket or brace to its closing one. -/
theorem readValue_source {fuel : Nat} {cs after : List Char} {v : Json}
    (read : readValue fuel cs = .ok (v, after))
    (composite : v.kindName = "array" ∨ v.kindName = "object") :
    v.source = String.ofList ((skipBlank cs).take ((skipBlank cs).length - after.length)) := by
  cases fuel with
  | zero => cases read
  | succ fuel =>
    cases blanks : skipBlank cs with
    | nil => simp [readValue, blanks] at read
    | cons c rest =>
      simp only [readValue, blanks] at read
      by_cases brace : c = '{'
      · rw [if_pos brace] at read
        obtain ⟨v₀, rfl⟩ := map_readFrom_ok read
        rw [kindName_writtenAs] at composite
        exact source_writtenAs _ composite
      by_cases bracket : c = '['
      · rw [if_neg brace, if_pos bracket] at read
        obtain ⟨v₀, rfl⟩ := map_readFrom_ok read
        rw [kindName_writtenAs] at composite
        exact source_writtenAs _ composite
      -- a string, a number or a word is no array or object
      rw [if_neg brace, if_neg bracket] at read
      exfalso
      repeat' split at read
      all_goals try simp only [Except.map] at read
      repeat' split at read
      all_goals cases read
      all_goals simp [kindName] at composite

end Admissions.Json
