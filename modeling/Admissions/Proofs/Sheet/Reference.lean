import Mathlib.Data.List.Induction
import Admissions.Proofs.Decimal.Numeral
import Admissions.Proofs.Roster.Numbering

namespace Admissions

def Capital (c : Char) : Prop := 65 ≤ c.toNat ∧ c.toNat ≤ 90

instance : DecidablePred Capital := fun c => inferInstanceAs (Decidable (65 ≤ c.toNat ∧ c.toNat ≤ 90))

/-- The digit a capital stands for: `A` is 1 and `Z` is 26. -/
def letterDigit (c : Char) : Nat := c.toNat - 64

/-- The number a word of capitals names, its most significant letter first. -/
def lettersValue (w : List Char) : Nat := w.foldl (fun acc c => 26 * acc + letterDigit c) 0

/-- A bijective base-26 numeral: one capital or more. -/
structure LetterNumeral (w : List Char) : Prop where
  nonempty : w ≠ []
  capitals : ∀ c ∈ w, Capital c

theorem lettersValue_append_letter (w : List Char) (c : Char) :
    lettersValue (w ++ [c]) = 26 * lettersValue w + letterDigit c := by
  simp [lettersValue, List.foldl_append]

/-- The letter of a digit from 0 to 25, as `columnLetters` writes it. -/
theorem letter_toNat : ∀ k < 26, (Char.ofNat ('A'.toNat + k)).toNat = 65 + k := by
  decide

theorem letter_capital {k : Nat} (small : k < 26) : Capital (Char.ofNat ('A'.toNat + k)) := by
  have spelled := letter_toNat k small
  unfold Capital
  omega

theorem letter_digit {k : Nat} (small : k < 26) : letterDigit (Char.ofNat ('A'.toNat + k)) = k + 1 := by
  have spelled := letter_toNat k small
  unfold letterDigit
  omega

theorem letter_of_capital {c : Char} (capital : Capital c) :
    Char.ofNat ('A'.toNat + (letterDigit c - 1)) = c := by
  have spelled : 'A'.toNat + (letterDigit c - 1) = c.toNat := by
    unfold letterDigit
    unfold Capital at capital
    show 65 + _ = _
    omega
  rw [spelled, Char.ofNat_toNat]

theorem letterDigit_mem {c : Char} (capital : Capital c) : 1 ≤ letterDigit c ∧ letterDigit c ≤ 26 := by
  unfold letterDigit
  unfold Capital at capital
  omega

/-- The letters of a column, one step of the loop: the last letter is the column's
remainder by 26, and the letters before it name the quotient less one. -/
theorem columnLetters_eq (col : Nat) :
    columnLetters col =
      if col < 26 then [Char.ofNat ('A'.toNat + col % 26)]
      else columnLetters (col / 26 - 1) ++ [Char.ofNat ('A'.toNat + col % 26)] := by
  rw [columnLetters]

theorem columnLetters_of_lt {col : Nat} (small : col < 26) :
    columnLetters col = [Char.ofNat ('A'.toNat + col)] := by
  rw [columnLetters_eq, if_pos small, Nat.mod_eq_of_lt small]

theorem columnLetters_of_le {col : Nat} (large : 26 ≤ col) :
    columnLetters col = columnLetters (col / 26 - 1) ++ [Char.ofNat ('A'.toNat + col % 26)] := by
  rw [columnLetters_eq, if_neg (Nat.not_lt.mpr large)]

/-- The letters of a column are its numeral, and that numeral names `col + 1`. -/
theorem columnLetters_numeral (col : Nat) :
    LetterNumeral (columnLetters col) ∧ lettersValue (columnLetters col) = col + 1 := by
  induction col using Nat.strong_induction_on with
  | _ col ih =>
    have last := Nat.mod_lt col (show 26 > 0 by decide)
    by_cases small : col < 26
    · rw [columnLetters_of_lt small]
      refine ⟨⟨List.cons_ne_nil _ _, ?_⟩, ?_⟩
      · simpa using letter_capital small
      · simp only [lettersValue, List.foldl, letter_digit small]
        omega
    · -- the quotient less one is a smaller column, named by the letters before the last
      have quotient : col / 26 - 1 < col := by omega
      obtain ⟨⟨-, capitals⟩, value⟩ := ih _ quotient
      rw [columnLetters_of_le (Nat.not_lt.mp small)]
      refine ⟨⟨by simp, ?_⟩, ?_⟩
      · intro c member
        rcases List.mem_append.mp member with earlier | final
        · exact capitals c earlier
        · rw [List.mem_singleton.mp final]
          exact letter_capital last
      · rw [lettersValue_append_letter, value, letter_digit last]
        omega

theorem lettersValue_pos {w : List Char} (numeral : LetterNumeral w) : 1 ≤ lettersValue w := by
  rcases List.eq_nil_or_concat w with empty | ⟨front, c, rfl⟩
  · exact absurd empty numeral.nonempty
  · have digit := letterDigit_mem (numeral.capitals c (by simp))
    rw [List.concat_eq_append, lettersValue_append_letter]
    omega

/-- A numeral is the only one of its value: every numeral of `col + 1` is the letters
of column `col`. -/
theorem eq_columnLetters_of_value {w : List Char} (numeral : LetterNumeral w) :
    ∀ {col : Nat}, lettersValue w = col + 1 → w = columnLetters col := by
  induction w using List.reverseRecOn with
  | nil => exact absurd rfl numeral.nonempty
  | append_singleton front c ih =>
    intro col value
    have capital := numeral.capitals c (by simp)
    have digit := letterDigit_mem capital
    rw [lettersValue_append_letter] at value
    by_cases alone : front = []
    · subst alone
      have spelled : col = letterDigit c - 1 := by simp [lettersValue] at value; omega
      rw [columnLetters_of_lt (by omega), List.nil_append, spelled, letter_of_capital capital]
    · -- the front is the numeral of the quotient, the last letter the remainder
      have frontNumeral : LetterNumeral front :=
        ⟨alone, fun d member => numeral.capitals d (List.mem_append_left _ member)⟩
      have positive := lettersValue_pos frontNumeral
      have quotient : col / 26 - 1 + 1 = lettersValue front := by omega
      have remainder : col % 26 = letterDigit c - 1 := by omega
      rw [columnLetters_of_le (by omega), ← ih frontNumeral quotient.symm, remainder,
        letter_of_capital capital]

theorem columnLetters_injective : Function.Injective columnLetters := by
  intro a b same
  have valueA := (columnLetters_numeral a).2
  rw [same, (columnLetters_numeral b).2] at valueA
  omega

/-- A decimal digit is no capital. -/
theorem not_capital_of_digit {c : Char} (digit : c.isDigit = true) : ¬Capital c := by
  simp only [Char.isDigit, Bool.and_eq_true, decide_eq_true_eq] at digit
  obtain ⟨-, high⟩ := digit
  have high' : c.toNat ≤ 57 := high
  unfold Capital
  omega

/-- The text of a whole number: a minus for a negative one, then the digits of its size. -/
theorem ofInt_toList (i : Int) :
    (Text.ofInt i).toList = (if i < 0 then ['-'] else []) ++ Nat.toDigits 10 i.natAbs := by
  unfold Text.ofInt
  split <;> simp [Nat.toList_repr]

/-- A number's text starts with a minus or a digit, never with a capital. -/
theorem ofInt_lead (i : Int) : ∀ c ∈ (Text.ofInt i).toList.head?, ¬Capital c := by
  intro c first
  rw [ofInt_toList] at first
  by_cases negative : i < 0
  · have minus : '-' = c := by simpa [negative] using first
    subst minus
    decide
  · simp only [negative, if_false, List.nil_append] at first
    obtain ⟨rest, spelled⟩ := List.head?_eq_some_iff.mp first
    exact not_capital_of_digit (Decimal.toDigits_digits i.natAbs c (by simp [spelled]))

theorem ofInt_injective : Function.Injective Text.ofInt := by
  intro a b same
  have texts := congrArg String.toList same
  rw [ofInt_toList, ofInt_toList] at texts
  -- a minus in front of one text would have to be the first digit of the other
  have unsigned (n m : Nat) : '-' :: Nat.toDigits 10 n ≠ Nat.toDigits 10 m := fun spelled =>
    absurd (Decimal.toDigits_digits m '-' (by rw [← spelled]; exact List.mem_cons_self)) (by decide)
  have sizes (n m : Nat) (spelled : Nat.toDigits 10 n = Nat.toDigits 10 m) : n = m := by
    rw [← Decimal.digitsNat_toDigits n, spelled, Decimal.digitsNat_toDigits]
  by_cases negA : a < 0 <;> by_cases negB : b < 0 <;>
    simp only [negA, negB, if_true, if_false, List.cons_append, List.nil_append, List.cons.injEq,
      true_and] at texts
  · have := sizes _ _ texts
    omega
  · exact absurd texts (unsigned _ _)
  · exact absurd texts.symm (unsigned _ _)
  · have := sizes _ _ texts
    omega

/-- Words of capitals, each followed by a text that does not start with one, are equal
when the whole texts are, and so are the texts after them. -/
theorem capitals_append_inj {w w' t t' : List Char} (capitals : ∀ c ∈ w, Capital c)
    (capitals' : ∀ c ∈ w', Capital c) (lead : ∀ c ∈ t.head?, ¬Capital c)
    (lead' : ∀ c ∈ t'.head?, ¬Capital c) (same : w ++ t = w' ++ t') : w = w' ∧ t = t' := by
  induction w generalizing w' with
  | nil =>
    cases w' with
    | nil => exact ⟨rfl, same⟩
    | cons c rest =>
      have spelled : t = c :: (rest ++ t') := by simpa using same
      exact absurd (capitals' c List.mem_cons_self) (lead c (by simp [spelled]))
  | cons c rest ih =>
    cases w' with
    | nil =>
      have spelled : t' = c :: (rest ++ t) := by simpa using same.symm
      exact absurd (capitals c List.mem_cons_self) (lead' c (by simp [spelled]))
    | cons c' rest' =>
      simp only [List.cons_append, List.cons.injEq] at same
      obtain ⟨rfl, tails⟩ := same
      obtain ⟨rfl, rfl⟩ := ih (fun d member => capitals d (List.mem_cons_of_mem c member))
        (fun d member => capitals' d (List.mem_cons_of_mem c member)) tails
      exact ⟨rfl, rfl⟩

/-- The name of a cell of a sheet: its column's letters, then the text of its row's
successor as a word. -/
theorem cellName_toList (row : Int) (col : Nat) :
    (cellName row col).toList = columnLetters col ++ (Text.ofInt (Word.wrap (row + 1))).toList := by
  simp [cellName]

/-- The successors of two rows that are words are the same word only for the same row,
the last row's included. -/
theorem wrap_succ_injective {a b : Nat} (fitsA : (a : Int) ≤ Word.maxValue) (fitsB : (b : Int) ≤ Word.maxValue)
    (same : Word.wrap (a + 1) = Word.wrap (b + 1)) : a = b := by
  have modulus : ((Nat.pow 2 64 : Nat) : Int) = 18446744073709551616 := by decide
  have largest : Word.maxValue = 9223372036854775807 := by decide
  have congruent := congrArg (· % ((Nat.pow 2 64 : Nat) : Int)) same
  simp only [Word.wrap] at congruent
  rw [Int.bmod_emod, Int.bmod_emod, modulus] at congruent
  omega

/-- Distinct cells are named apart, for rows that are words and any columns. -/
theorem cellName_injective {row row' col col' : Nat} (fits : (row : Int) ≤ Word.maxValue)
    (fits' : (row' : Int) ≤ Word.maxValue) (same : cellName row col = cellName row' col') :
    row = row' ∧ col = col' := by
  have texts := congrArg String.toList same
  rw [cellName_toList, cellName_toList] at texts
  obtain ⟨letters, rowTexts⟩ := capitals_append_inj (columnLetters_numeral col).1.capitals
    (columnLetters_numeral col').1.capitals (ofInt_lead _) (ofInt_lead _) texts
  have successors := ofInt_injective (String.ext rowTexts)
  exact ⟨wrap_succ_injective fits fits' successors, columnLetters_injective letters⟩

/-- Below the last row, a cell is named by its column's letters and its row counted
from one, in decimal. -/
theorem cellName_of_fits {row : Nat} (col : Nat) (fits : (row : Int) < Word.maxValue) :
    cellName row col = String.ofList (columnLetters col) ++ toString (row + 1) := by
  have successor : Word.wrap ((row : Int) + 1) = ((row + 1 : Nat) : Int) := by
    rw [Word.wrap_of_fits (by simp [Word.minValue]; omega) (by omega)]
    push_cast
    rfl
  show String.ofList (if (col : Int) < 0 then [] else columnLetters (col : Int).toNat) ++
    Text.ofInt (Word.wrap ((row : Int) + 1)) = _
  rw [if_neg (by omega), Int.toNat_natCast, successor, Text.ofInt, if_neg (by omega), Int.natAbs_natCast]

/-- Cell references: a column's letters are the one bijective base-26 numeral of the
column plus one; below the last row a cell is named by its letters and its row counted
from one; and a cell whose row is a word is named apart from every other such cell. -/
theorem cell_names_spell_column_and_row (row col : Nat) (fits : (row : Int) ≤ Word.maxValue) :
    (LetterNumeral (columnLetters col) ∧ lettersValue (columnLetters col) = col + 1 ∧
        ∀ w, LetterNumeral w → lettersValue w = col + 1 → w = columnLetters col) ∧
      ((row : Int) < Word.maxValue →
        cellName row col = String.ofList (columnLetters col) ++ toString (row + 1)) ∧
      ∀ row' col' : Nat, (row' : Int) ≤ Word.maxValue →
        cellName row col = cellName row' col' → row = row' ∧ col = col' :=
  ⟨⟨(columnLetters_numeral col).1, (columnLetters_numeral col).2,
      fun _ numeral value => eq_columnLetters_of_value numeral value⟩,
    fun below => cellName_of_fits col below,
    fun _ _ fits' same => cellName_injective fits fits' same⟩

/-- Column 27 is `AB`, the numeral of 28, so row 9 of it is `AB10`, and the cell beside
it is named otherwise. -/
theorem tenth_row_of_column_AB :
    (9 : Int) ≤ Word.maxValue ∧ cellName 9 27 = "AB10" ∧ cellName 9 27 ≠ cellName 9 28 := by
  have named := cell_names_spell_column_and_row 9 27 (by decide)
  have capitals : LetterNumeral ['A', 'B'] := ⟨by simp, by
    intro c member
    simp only [List.mem_cons, List.not_mem_nil, or_false] at member
    rcases member with rfl | rfl <;> decide⟩
  refine ⟨by decide, ?_, fun same => ?_⟩
  · refine (named.2.1 (by decide)).trans ?_
    rw [← named.1.2.2 ['A', 'B'] capitals (by decide)]
    decide
  · exact absurd (named.2.2 9 28 (by decide) same).2 (by decide)

/-- The last row's successor is no word: that row's cell is named with the smallest word,
a minus sign in front, and not with the decimal of the row plus one. -/
theorem last_row_named_with_minus :
    cellName Word.maxValue 0 = "A-9223372036854775808" ∧
      cellName Word.maxValue 0 ≠ String.ofList (columnLetters 0) ++ toString (Word.maxValue + 1) := by
  have letters : columnLetters 0 = ['A'] := columnLetters_of_lt (by decide)
  have named : cellName Word.maxValue 0 = "A-9223372036854775808" := by
    rw [cellName, if_neg (by decide), show (0 : Int).toNat = 0 from rfl, letters]
    decide
  refine ⟨named, ?_⟩
  rw [named, letters]
  decide

end Admissions
