import Admissions.Proofs.Decimal
import Admissions.Proofs.Roster.Numbering
import Admissions.Sheet.Parse

namespace Admissions

theorem ScoreRange.contains_iff (r : ScoreRange) (v : Decimal) :
    r.contains v = true ↔ r.min.value ≤ v.value ∧ v.value ≤ r.max.value := by
  rw [contains, Bool.and_eq_true, Decimal.le_iff_value, Decimal.le_iff_value]

/-- A category is read from its code or from its label, and from nothing else. -/
theorem Category.parse_eq_ok_iff {s : String} {c : Category} :
    Category.parse s = .ok c ↔ s = c.code ∨ s = c.label := by
  constructor
  · unfold Category.parse
    intro parsed
    cases coded : Category.ofCode? s with
    | some d =>
      rw [coded] at parsed
      cases parsed
      exact .inl (Category.code_of_ofCode? coded).symm
    | none =>
      rw [coded] at parsed
      dsimp only at parsed
      cases labelled : Category.all.find? (·.label == s) with
      | some d =>
        have named : d.label = s := by simpa using List.find?_some labelled
        rw [labelled] at parsed
        cases parsed
        exact .inr named.symm
      | none =>
        rw [labelled] at parsed
        cases parsed
  · rintro (rfl | rfl)
    · simp [Category.parse, Category.ofCode?_code]
    · cases c <;> rfl

theorem Cell.kind_eq_numeric {c : Cell} : c.kind = .numeric ↔ ∃ v, c = .number v := by
  cases c <;> simp [Cell.kind]

theorem Cell.kind_eq_text {c : Cell} : c.kind = .text ↔ ∃ s, c = .text s := by
  cases c <;> simp [Cell.kind]

theorem Cell.kind_eq_boolean {c : Cell} : c.kind = .boolean ↔ ∃ b, c = .boolean b := by
  cases c <;> simp [Cell.kind]

namespace Sheet

/-- A row's presence cell holds `true`. -/
def Present (g : Grid) (r : Nat) : Prop :=
  (g.cell r presenceColumn).kind = .boolean ∧ (g.cell r presenceColumn).boolValue = true

instance (g : Grid) (r : Nat) : Decidable (Present g r) := inferInstanceAs (Decidable (_ ∧ _))

/-- The category a row's category cell names by code or label, its text trimmed. -/
def rowCategory (g : Grid) (r : Nat) : Option Category :=
  match g.cell r categoryColumn with
  | .text s => (Category.parse (Text.trimSpace s)).toOption
  | _ => none

/-- A whole number from 1 to the largest word. -/
def WholeNumber (v : Decimal) : Prop := ∃ n : Int, v.value = n ∧ 1 ≤ n ∧ n ≤ Word.maxValue

/-- A type fault of the cell in column `col` (A is 0) of row `r`. A cell of column C
that is not text names no category either. -/
def TypeFault (g : Grid) (r : Nat) : Nat → Prop
  | 0 => ¬((g.cell r 0).kind = .numeric ∧ WholeNumber (g.cell r 0).numberValue)
  | 1 => (g.cell r 1).kind ≠ .text
  | 2 => rowCategory g r = none
  | 3 => Present g r ∧ (g.cell r 3).kind ≠ .numeric
  | 4 => Present g r ∧ (g.cell r 4).kind ≠ .numeric
  | 5 => Present g r ∧ ((g.cell r 5).kind ≠ .numeric ∧ (g.cell r 5).kind ≠ .blank ∨
      rowCategory g r = some .meisterTalent ∧ (g.cell r 5).kind = .blank)
  | 6 => (g.cell r 6).kind ≠ .boolean
  | _ => False

/-- The range a present row's score in column `col` must lie in, for a row of category
`c`: the interview and NCS ranges, and the coding-test range of a category that sits
the test when the policy bounds it. -/
def scoreBound (q : QuotaConfig) (c : Category) : Nat → Option ScoreRange
  | 3 => some (q.rangesFor c).depthInterview
  | 4 => some (q.rangesFor c).ncs
  | 5 => if c.usesCodingTest then (q.rangesFor c).codingTest else none
  | _ => none

def Within (bound : ScoreRange) (v : Decimal) : Prop :=
  bound.min.value ≤ v.value ∧ v.value ≤ bound.max.value

/-- A range fault of the cell in column `col` of row `r`. -/
def RangeFault (g : Grid) (q : QuotaConfig) (r col : Nat) : Prop :=
  (∀ other, ¬TypeFault g r other) ∧ Present g r ∧
    ∃ c bound, rowCategory g r = some c ∧ scoreBound q c col = some bound ∧
      ¬Within bound (g.cell r col).numberValue

def Fault (g : Grid) (q : QuotaConfig) (r col : Nat) : CellFault → Prop
  | .invalidType => TypeFault g r col
  | .outOfRange => RangeFault g q r col

/-- The data rows of a sheet: below the header, with a cell that is not blank. -/
def dataRows (g : Grid) : List Nat :=
  (List.range g.length).filter fun r => 0 < r && (g.getD r []).any (·.kind != .blank)

/-- What one check of a cell reports: one fault of kind `fault` at the cell (row `r`,
column `col`, under its spreadsheet name) when `bad` holds, and nothing otherwise. -/
structure Flags (r col : Nat) (fault : CellFault) (bad : Prop) (found : List CellError) : Prop where
  reported : found ≠ [] ↔ bad
  single : found.length ≤ 1
  placed : ∀ e ∈ found, e.row = r ∧ e.column = col ∧ e.cell = cellName r col ∧ e.fault = fault

/-- An entry of row `r`'s report with fault `fault`, at a cell of the grid and under
that cell's name. -/
def PlacedIn (r : Nat) (fault : CellFault) (e : CellError) : Prop :=
  ∃ col : Nat, e.row = r ∧ e.column = col ∧ e.cell = cellName r col ∧ e.fault = fault

namespace Flags

variable {r col : Nat} {fault : CellFault} {bad : Prop} {found : List CellError}

theorem nil (good : ¬bad) : Flags r col fault bad [] :=
  ⟨by simpa using good, by simp, by simp⟩

theorem single_of {e : CellError} (isBad : bad)
    (placed : e.row = r ∧ e.column = col ∧ e.cell = cellName r col ∧ e.fault = fault) :
    Flags r col fault bad [e] :=
  ⟨by simpa using isBad, by simp, by simpa using placed⟩

theorem ite [Decidable bad] {e : CellError}
    (placed : e.row = r ∧ e.column = col ∧ e.cell = cellName r col ∧ e.fault = fault) :
    Flags r col fault bad (if bad then [e] else []) := by
  split
  · exact .single_of ‹_› placed
  · exact .nil ‹_›

theorem of_iff {bad' : Prop} (flags : Flags r col fault bad found) (same : bad ↔ bad') :
    Flags r col fault bad' found :=
  ⟨flags.reported.trans same, flags.single, flags.placed⟩

theorem mem_columns (flags : Flags r col fault bad found) (x : Int) :
    x ∈ found.map (·.column) ↔ x = col ∧ bad := by
  constructor
  · intro listed
    obtain ⟨e, member, rfl⟩ := List.mem_map.mp listed
    exact ⟨(flags.placed e member).2.1, flags.reported.mp (List.ne_nil_of_mem member)⟩
  · rintro ⟨rfl, isBad⟩
    obtain ⟨e, member⟩ := List.exists_mem_of_ne_nil _ (flags.reported.mpr isBad)
    exact List.mem_map.mpr ⟨e, member, (flags.placed e member).2.1⟩

theorem eq_nil_iff (flags : Flags r col fault bad found) : found = [] ↔ ¬bad := by
  rw [← flags.reported, not_not]

theorem entry (flags : Flags r col fault bad found) {e : CellError} (member : e ∈ found) :
    (e.row = r ∧ e.column = col ∧ e.cell = cellName r col ∧ e.fault = fault) ∧ bad :=
  ⟨flags.placed e member, flags.reported.mp (List.ne_nil_of_mem member)⟩

theorem exists_entry (flags : Flags r col fault bad found) (isBad : bad) :
    ∃ e ∈ found, e.column = col ∧ e.fault = fault := by
  obtain ⟨e, member⟩ := List.exists_mem_of_ne_nil _ (flags.reported.mpr isBad)
  exact ⟨e, member, (flags.placed e member).2.1, (flags.placed e member).2.2.2⟩

theorem placedIn (flags : Flags r col fault bad found) : ∀ e ∈ found, PlacedIn r fault e :=
  fun e member => ⟨col, flags.placed e member⟩

theorem columns_sublist (flags : Flags r col fault bad found) :
    (found.map (·.column)).Sublist [(col : Int)] := by
  match found, flags.single, flags.placed with
  | [], _, _ => exact List.nil_sublist _
  | [e], _, placed => simp [(placed e (List.mem_singleton_self e)).2.1]

end Flags

theorem expectKind_flags (g : Grid) (r col : Nat) (kinds : List CellKind) :
    Flags r col .invalidType ((g.cell r col).kind ∉ kinds) (expectKind g r col kinds) := by
  unfold expectKind
  dsimp only
  split
  · rename_i allowed
    exact .nil (not_not.mpr (List.contains_iff_mem.mp allowed))
  · rename_i wrong
    exact .single_of (fun allowed => wrong (List.contains_iff_mem.mpr allowed)) ⟨rfl, rfl, rfl, rfl⟩

theorem rangeFault_flags (r col : Nat) (v : Decimal) (bound : ScoreRange) (category : String) :
    Flags r col .outOfRange (¬Within bound v) (rangeFault r col v bound category) := by
  unfold rangeFault
  split
  · exact .nil (by rw [not_not, Within, ← ScoreRange.contains_iff]; assumption)
  · exact .single_of (by rwa [Within, ← ScoreRange.contains_iff]) ⟨rfl, rfl, rfl, rfl⟩

theorem present_iff (g : Grid) (r : Nat) :
    ((g.cell r presenceColumn).kind == .boolean && (g.cell r presenceColumn).boolValue) = true ↔
      Present g r := by
  simp [Present]

theorem badNumber_iff (v : Decimal) :
    (!v.isInteger || decide (v.sign ≤ 0) || maxExaminationNumber.lt v) = true ↔ ¬WholeNumber v := by
  have top : maxExaminationNumber.value = Word.maxValue := Decimal.value_ofInt _
  rw [Bool.or_eq_true, Bool.or_eq_true, Bool.not_eq_true', decide_eq_true_iff, Decimal.lt_iff_value, top,
    ← Bool.not_eq_true, Decimal.isInteger_iff, ← not_lt, Decimal.sign_pos_iff]
  unfold WholeNumber
  constructor
  · rintro ((fractional | nonpositive) | above) ⟨n, value, low, high⟩
    · exact fractional ⟨n, value⟩
    · exact nonpositive (by rw [value]; exact_mod_cast low)
    · exact absurd above (not_lt.mpr (by rw [value]; exact_mod_cast high))
  · intro notWhole
    by_contra fine
    rw [not_or, not_or, not_not, not_not, not_lt] at fine
    obtain ⟨⟨⟨n, value⟩, positive⟩, high⟩ := fine
    rw [value] at positive high
    exact notWhole ⟨n, value, by exact_mod_cast positive, by exact_mod_cast high⟩

theorem rowCategory_of_not_text {g : Grid} {r : Nat} (other : (g.cell r categoryColumn).kind ≠ .text) :
    rowCategory g r = none := by
  unfold rowCategory
  split
  · simp_all [Cell.kind]
  · rfl

/-- The checks of kind a row goes through, split into the kind checks, the check of the
examination number's value, the category lookup and the check of a present meister
applicant's coding-test cell. -/
theorem typeFaults_split (g : Grid) (r : Nat) :
    ∃ number category coding : List CellError,
      (typeFaults g r).1 = expectKind g r examNoColumn [.numeric] ++ expectKind g r nameColumn [.text] ++
          expectKind g r categoryColumn [.text] ++ expectKind g r presenceColumn [.boolean] ++
          (if Present g r then
            expectKind g r interviewColumn [.numeric] ++ expectKind g r ncsColumn [.numeric] ++
              expectKind g r codingColumn [.numeric, .blank]
          else []) ++ number ++ category ++ coding ∧
        (typeFaults g r).2 = rowCategory g r ∧
        Flags r examNoColumn .invalidType ((g.cell r examNoColumn).kind = .numeric ∧
          ¬WholeNumber (g.cell r examNoColumn).numberValue) number ∧
        Flags r categoryColumn .invalidType ((g.cell r categoryColumn).kind = .text ∧
          rowCategory g r = none) category ∧
        Flags r codingColumn .invalidType (Present g r ∧ rowCategory g r = some .meisterTalent ∧
          (g.cell r codingColumn).kind = .blank) coding := by
  refine ⟨?number, ?category, ?coding, ?split, ?named, ?numberFlags, ?categoryFlags, ?codingFlags⟩
  case split =>
    unfold typeFaults
    simp only [present_iff]
    rfl
  case named =>
    unfold typeFaults rowCategory
    cases cell : g.cell r categoryColumn with
    | text label =>
      dsimp only
      cases Category.parse (Text.trimSpace label) <;> rfl
    | _ => rfl
  case numberFlags =>
    cases cell : g.cell r examNoColumn with
    | number v =>
      apply Flags.of_iff
      · exact Flags.ite ⟨rfl, rfl, rfl, rfl⟩
      · rw [badNumber_iff]
        simp [Cell.kind, Cell.numberValue]
    | _ => exact .nil (by simp [Cell.kind])
  case categoryFlags =>
    unfold rowCategory
    cases cell : g.cell r categoryColumn with
    | text label =>
      dsimp only
      cases Category.parse (Text.trimSpace label) with
      | ok c => exact .nil (by simp [Except.toOption])
      | error e => exact .single_of ⟨rfl, rfl⟩ ⟨rfl, rfl, rfl, rfl⟩
    | _ => exact .nil (by simp [Cell.kind])
  case codingFlags =>
    apply Flags.of_iff
    · exact Flags.ite ⟨rfl, rfl, rfl, rfl⟩
    unfold rowCategory
    cases cell : g.cell r categoryColumn with
    | text label =>
      dsimp only
      cases Category.parse (Text.trimSpace label) with
      | ok c => cases c <;> simp [Except.toOption, Category.usesCodingTest]
      | error e => simp [Except.toOption]
    | _ => simp

theorem mem_typeFaults_columns (g : Grid) (r col : Nat) :
    (col : Int) ∈ (typeFaults g r).1.map (·.column) ↔ TypeFault g r col := by
  obtain ⟨number, category, coding, split, -, numberFlags, categoryFlags, codingFlags⟩ :=
    typeFaults_split g r
  rw [split]
  by_cases present : Present g r <;>
    simp only [present, if_true, if_false, List.map_append, List.map_nil, List.mem_append,
      List.not_mem_nil, or_false, numberFlags.mem_columns, categoryFlags.mem_columns,
      codingFlags.mem_columns, (expectKind_flags g r _ _).mem_columns, Nat.cast_inj] <;>
    rcases col with _ | _ | _ | _ | _ | _ | _ | col <;>
    simp [TypeFault, present, examNoColumn, nameColumn, categoryColumn, interviewColumn, ncsColumn,
      codingColumn, presenceColumn]
  -- the number and the category are each checked twice: once for kind, once for value
  case pos.zero | neg.zero => tauto
  case pos.succ.succ.zero | neg.succ.succ.zero =>
    by_cases text : (g.cell r 2).kind = .text
    · simp [text]
    · simp [text, rowCategory_of_not_text text]

theorem typeFaults_placed (g : Grid) (r : Nat) :
    ∀ e ∈ (typeFaults g r).1, PlacedIn r .invalidType e := by
  obtain ⟨number, category, coding, split, -, numberFlags, categoryFlags, codingFlags⟩ :=
    typeFaults_split g r
  have kinds (col : Nat) (kinds : List CellKind) : ∀ e ∈ expectKind g r col kinds, PlacedIn r .invalidType e :=
    (expectKind_flags g r col kinds).placedIn
  rw [split]
  intro e member
  simp only [List.mem_append] at member
  rcases member with ((((((k0 | k1) | k2) | k6) | scores) | n) | c) | d
  · exact kinds _ _ e k0
  · exact kinds _ _ e k1
  · exact kinds _ _ e k2
  · exact kinds _ _ e k6
  · split at scores
    · simp only [List.mem_append] at scores
      rcases scores with (k3 | k4) | k5
      · exact kinds _ _ e k3
      · exact kinds _ _ e k4
      · exact kinds _ _ e k5
    · simp at scores
  · exact numberFlags.placedIn e n
  · exact categoryFlags.placedIn e c
  · exact codingFlags.placedIn e d

/-- No cell of a row is reported twice for its kind: the kind checks look at one
column each, and the checks of the number, the category and a meister applicant's
coding-test score look at a cell only when its kind has passed. -/
theorem typeFaults_columns_nodup (g : Grid) (r : Nat) :
    ((typeFaults g r).1.map (·.column)).Nodup := by
  obtain ⟨number, category, coding, split, -, numberFlags, categoryFlags, codingFlags⟩ :=
    typeFaults_split g r
  have kind (col : Nat) (kinds : List CellKind) := expectKind_flags g r col kinds
  rw [split, List.append_assoc, List.append_assoc, List.map_append, List.nodup_append]
  refine ⟨?kinds, ?values, ?apart⟩
  case kinds =>
    have fixed := (((kind examNoColumn [.numeric]).columns_sublist.append
      (kind nameColumn [.text]).columns_sublist).append
      (kind categoryColumn [.text]).columns_sublist).append (kind presenceColumn [.boolean]).columns_sublist
    have scores := ((kind interviewColumn [.numeric]).columns_sublist.append
      (kind ncsColumn [.numeric]).columns_sublist).append (kind codingColumn [.numeric, .blank]).columns_sublist
    by_cases present : Present g r
    · rw [if_pos present]
      simp only [List.map_append]
      exact List.Nodup.sublist (fixed.append scores) (by decide)
    · rw [if_neg present, List.append_nil]
      simp only [List.map_append]
      exact List.Nodup.sublist fixed (by decide)
  case values =>
    simp only [List.map_append]
    exact List.Nodup.sublist (numberFlags.columns_sublist.append
      (categoryFlags.columns_sublist.append codingFlags.columns_sublist)) (by decide)
  case apart =>
    intro x inKinds y inValues same
    subst same
    simp only [List.map_append, List.mem_append, numberFlags.mem_columns, categoryFlags.mem_columns,
      codingFlags.mem_columns] at inValues
    -- a value check fires only on a cell whose kind check passed
    by_cases present : Present g r <;>
      simp only [present, if_true, if_false, List.map_append, List.map_nil, List.mem_append,
        List.not_mem_nil, or_false, (kind _ _).mem_columns] at inKinds <;>
      rcases inValues with ⟨rfl, kindOf, -⟩ | ⟨rfl, kindOf, -⟩ | ⟨rfl, -, -, kindOf⟩ <;>
      simp only [examNoColumn, categoryColumn, codingColumn] at kindOf <;>
      simp [examNoColumn, nameColumn, categoryColumn, interviewColumn, ncsColumn, codingColumn,
        presenceColumn, kindOf] at inKinds

theorem typeFault_of_mem {g : Grid} {r : Nat} {e : CellError} (member : e ∈ (typeFaults g r).1) :
    ∃ col : Nat, (e.row = r ∧ e.column = col ∧ e.cell = cellName r col ∧ e.fault = .invalidType) ∧
      TypeFault g r col := by
  obtain ⟨col, placed⟩ := typeFaults_placed g r e member
  have listed : (col : Int) ∈ (typeFaults g r).1.map (·.column) := List.mem_map.mpr ⟨e, member, placed.2.1⟩
  exact ⟨col, placed, (mem_typeFaults_columns g r col).mp listed⟩

theorem typeFaults_eq_nil_iff {g : Grid} {r : Nat} :
    (typeFaults g r).1 = [] ↔ ∀ col, ¬TypeFault g r col := by
  constructor
  · intro clean col fault
    have listed := (mem_typeFaults_columns g r col).mpr fault
    simp [clean] at listed
  · intro faultless
    refine List.eq_nil_iff_forall_not_mem.mpr fun e member => ?_
    obtain ⟨col, -, fault⟩ := typeFault_of_mem member
    exact faultless col fault

theorem WholeNumber.intPart {v : Decimal} (whole : WholeNumber v) :
    (v.intPart : ℚ) = v.value ∧ 1 ≤ v.intPart ∧ v.intPart ≤ Word.maxValue := by
  obtain ⟨n, value, low, high⟩ := whole
  have exact : (v.intPart : ℚ) = v.value := Decimal.intPart_of_isInteger ((Decimal.isInteger_iff v).mpr ⟨n, value⟩)
  have same : v.intPart = n := by exact_mod_cast exact.trans value
  exact ⟨exact, same ▸ low, same ▸ high⟩

theorem rowCategory_eq_some {g : Grid} {r : Nat} {c : Category} (named : rowCategory g r = some c) :
    ∃ s, g.cell r categoryColumn = .text s ∧ (Text.trimSpace s = c.code ∨ Text.trimSpace s = c.label) := by
  unfold rowCategory at named
  cases cell : g.cell r categoryColumn with
  | text s =>
    rw [cell] at named
    dsimp only at named
    refine ⟨s, rfl, Category.parse_eq_ok_iff.mp ?_⟩
    cases parsed : Category.parse (Text.trimSpace s) with
    | ok d => rw [parsed] at named; cases named; rfl
    | error e => rw [parsed] at named; cases named
  | _ => rw [cell] at named; cases named

section Faultless

/-! What the cells of a row without type faults hold. -/

variable {g : Grid} {r : Nat} (faultless : ∀ col, ¬TypeFault g r col)
include faultless

theorem number_of_faultless : ∃ v, g.cell r examNoColumn = .number v ∧ WholeNumber v := by
  have fine := faultless 0
  simp only [TypeFault, not_not] at fine
  obtain ⟨v, cell⟩ := Cell.kind_eq_numeric.mp fine.1
  refine ⟨v, cell, ?_⟩
  simpa [cell, Cell.numberValue] using fine.2

theorem name_of_faultless : ∃ s, g.cell r nameColumn = .text s :=
  Cell.kind_eq_text.mp (by simpa [TypeFault, nameColumn] using faultless 1)

theorem presence_of_faultless : ∃ b, g.cell r presenceColumn = .boolean b :=
  Cell.kind_eq_boolean.mp (by simpa [TypeFault, presenceColumn] using faultless 6)

theorem category_of_faultless : ∃ c, rowCategory g r = some c :=
  Option.ne_none_iff_exists'.mp (faultless 2)

theorem scores_of_faultless (present : Present g r) :
    (∃ v, g.cell r interviewColumn = .number v) ∧ ∃ v, g.cell r ncsColumn = .number v :=
  ⟨Cell.kind_eq_numeric.mp (by simpa [TypeFault, present, interviewColumn] using faultless 3),
    Cell.kind_eq_numeric.mp (by simpa [TypeFault, present, ncsColumn] using faultless 4)⟩

theorem coding_of_faultless (present : Present g r) (meister : rowCategory g r = some .meisterTalent) :
    ∃ v, g.cell r codingColumn = .number v := by
  have fine := faultless 5
  simp only [TypeFault, present, meister, true_and, not_or, not_and, not_not] at fine
  -- a present meister applicant's coding-test cell may not be blank, and is a number or blank
  refine Cell.kind_eq_numeric.mp ?_
  by_contra numeric
  exact fine.2 (fine.1 numeric)

end Faultless

/-- What a row says of its applicant, for a row of category `c`: the examination
number, read exactly from a whole number from 1 to the largest word, the name, the
category named by code or label, and the presence. -/
structure Identified (g : Grid) (r : Nat) (c : Category) (row : ScoreSheetRow) : Prop where
  sheetRow : row.sheetRow = r
  number : ∃ v, g.cell r examNoColumn = .number v ∧ v.value = row.examinationNumber
  numberRange : 1 ≤ row.examinationNumber ∧ row.examinationNumber ≤ Word.maxValue
  name : g.cell r nameColumn = .text row.name
  category : ∃ s, g.cell r categoryColumn = .text s ∧ (Text.trimSpace s = c.code ∨ Text.trimSpace s = c.label)
  code : row.category = c.code
  presence : g.cell r presenceColumn = .boolean row.present

/-- What a row of category `c` is read as: what it says of the applicant and, for a
present applicant, the interview and NCS scores inside their ranges and the coding-test
score exactly when the category sits the test and the policy bounds it, inside that
bound; an absent applicant has no scores. -/
structure RowRead (g : Grid) (q : QuotaConfig) (r : Nat) (c : Category) (row : ScoreSheetRow) : Prop
    extends Identified g r c row where
  scored : row.present = true → ∃ interview ncs,
    g.cell r interviewColumn = .number interview ∧ row.depthInterview = some interview ∧
      Within (q.rangesFor c).depthInterview interview ∧
    g.cell r ncsColumn = .number ncs ∧ row.ncs = some ncs ∧ Within (q.rangesFor c).ncs ncs
  coded : row.present = true →
    (row.codingTest.isSome = true ↔ c.usesCodingTest = true ∧ (q.rangesFor c).codingTest.isSome = true)
  coding : ∀ v, row.codingTest = some v →
    g.cell r codingColumn = .number v ∧ ∃ bound, (q.rangesFor c).codingTest = some bound ∧ Within bound v
  unscored : row.present = false → row.depthInterview = none ∧ row.ncs = none ∧ row.codingTest = none

theorem identified_of_faultless {g : Grid} {r : Nat} {c : Category} (faultless : ∀ col, ¬TypeFault g r col)
    (named : rowCategory g r = some c) {row : ScoreSheetRow} (sheetRow : row.sheetRow = r)
    (number : row.examinationNumber = (g.cell r examNoColumn).numberValue.intPart)
    (name : row.name = (g.cell r nameColumn).textValue) (code : row.category = c.code)
    (presence : row.present =
      ((g.cell r presenceColumn).kind == .boolean && (g.cell r presenceColumn).boolValue)) :
    Identified g r c row where
  sheetRow := sheetRow
  number := by
    obtain ⟨v, cell, whole⟩ := number_of_faultless faultless
    refine ⟨v, cell, ?_⟩
    rw [number, cell, Cell.numberValue]
    exact whole.intPart.1.symm
  numberRange := by
    obtain ⟨v, cell, whole⟩ := number_of_faultless faultless
    rw [number, cell, Cell.numberValue]
    exact whole.intPart.2
  name := by
    obtain ⟨s, cell⟩ := name_of_faultless faultless
    rw [name, cell, Cell.textValue]
  category := rowCategory_eq_some named
  code := code
  presence := by
    obtain ⟨b, cell⟩ := presence_of_faultless faultless
    rw [presence, cell]
    rfl

/-- What the reading of row `r` reports: each faulty cell of the row, once, under its
place and name and with the kind of its fault. -/
structure RowFaults (g : Grid) (q : QuotaConfig) (r : Nat) (found : List CellError) : Prop where
  sound : ∀ e ∈ found, ∃ col : Nat, e.row = r ∧ e.column = col ∧ e.cell = cellName r col ∧
    Fault g q r col e.fault
  complete : ∀ col k, Fault g q r col k → ∃ e ∈ found, e.column = col ∧ e.fault = k
  once : (found.map (·.column)).Nodup

/-- A row with a type fault is reported by its checks of kind alone: a range fault
needs a row without type faults. -/
theorem typeFaults_rowFaults (g : Grid) (q : QuotaConfig) (r : Nat) (faulty : (typeFaults g r).1 ≠ []) :
    RowFaults g q r (typeFaults g r).1 where
  sound e member := by
    obtain ⟨col, ⟨row, column, cell, fault⟩, typeFault⟩ := typeFault_of_mem member
    exact ⟨col, row, column, cell, by rw [fault]; exact typeFault⟩
  complete col k faulted := by
    cases k with
    | invalidType =>
      obtain ⟨e, member, column⟩ := List.mem_map.mp ((mem_typeFaults_columns g r col).mpr faulted)
      obtain ⟨-, ⟨-, -, -, fault⟩, -⟩ := typeFault_of_mem member
      exact ⟨e, member, column, fault⟩
    | outOfRange =>
      obtain ⟨e, member⟩ := List.exists_mem_of_ne_nil _ faulty
      obtain ⟨other, -, typeFault⟩ := typeFault_of_mem member
      exact absurd typeFault (faulted.1 other)
  once := typeFaults_columns_nodup g r

theorem Flags.faulty {q : QuotaConfig} {g : Grid} {r col : Nat} {fault : CellFault} {bad : Prop}
    {found : List CellError} (flags : Flags r col fault bad found) (faulted : bad → Fault g q r col fault) :
    ∀ e ∈ found, ∃ c : Nat, e.row = r ∧ e.column = c ∧ e.cell = cellName r c ∧ Fault g q r c e.fault := by
  intro e member
  obtain ⟨⟨row, column, cell, kind⟩, isBad⟩ := flags.entry member
  exact ⟨col, row, column, cell, kind ▸ faulted isBad⟩

theorem scoreBound_columns {q : QuotaConfig} {c : Category} {col : Nat} {bound : ScoreRange}
    (bounded : scoreBound q c col = some bound) :
    col = interviewColumn ∨ col = ncsColumn ∨ col = codingColumn := by
  unfold scoreBound at bounded
  split at bounded
  · exact .inl rfl
  · exact .inr (.inl rfl)
  · exact .inr (.inr rfl)
  · cases bounded

section Scores

variable {g : Grid} {q : QuotaConfig} {r : Nat} (faultless : ∀ col, ¬TypeFault g r col)
include faultless

theorem rangeFault_iff {c : Category} (present : Present g r) (named : rowCategory g r = some c) (col : Nat) :
    RangeFault g q r col ↔ ∃ bound, scoreBound q c col = some bound ∧ ¬Within bound (g.cell r col).numberValue := by
  simp [RangeFault, faultless, present, named]

theorem fault_of_faultless {col : Nat} {k : CellFault} (fault : Fault g q r col k) :
    k = .outOfRange ∧ (col = interviewColumn ∨ col = ncsColumn ∨ col = codingColumn) := by
  cases k with
  | invalidType => exact absurd fault (faultless col)
  | outOfRange =>
    obtain ⟨-, -, c, bound, -, bounded, -⟩ := fault
    exact ⟨rfl, scoreBound_columns bounded⟩

theorem within_of_fine {c : Category} (present : Present g r) (named : rowCategory g r = some c) {col : Nat}
    {bound : ScoreRange} (bounded : scoreBound q c col = some bound) (fine : ¬RangeFault g q r col) :
    Within bound (g.cell r col).numberValue := by
  rw [rangeFault_iff faultless present named] at fine
  by_contra outside
  exact fine ⟨bound, bounded, outside⟩

theorem score_flags {c : Category} (present : Present g r) (named : rowCategory g r = some c) {col : Nat}
    {bound : ScoreRange} (bounded : scoreBound q c col = some bound) (code : String) :
    Flags r col .outOfRange (RangeFault g q r col) (rangeFault r col (g.cell r col).numberValue bound code) :=
  (rangeFault_flags r col _ bound code).of_iff (by rw [rangeFault_iff faultless present named]; simp [bounded])

theorem scored_of_fine {c : Category} (present : Present g r) (named : rowCategory g r = some c)
    (interviewFine : ¬RangeFault g q r interviewColumn) (ncsFine : ¬RangeFault g q r ncsColumn)
    {row : ScoreSheetRow} (interviewRead : row.depthInterview = some (g.cell r interviewColumn).numberValue)
    (ncsRead : row.ncs = some (g.cell r ncsColumn).numberValue) :
    ∃ interview ncs, g.cell r interviewColumn = .number interview ∧ row.depthInterview = some interview ∧
      Within (q.rangesFor c).depthInterview interview ∧
      g.cell r ncsColumn = .number ncs ∧ row.ncs = some ncs ∧ Within (q.rangesFor c).ncs ncs := by
  obtain ⟨⟨interview, interviewCell⟩, ⟨ncs, ncsCell⟩⟩ := scores_of_faultless faultless present
  have interviewWithin : Within (q.rangesFor c).depthInterview (g.cell r interviewColumn).numberValue :=
    within_of_fine faultless present named rfl interviewFine
  have ncsWithin : Within (q.rangesFor c).ncs (g.cell r ncsColumn).numberValue :=
    within_of_fine faultless present named rfl ncsFine
  rw [interviewCell] at interviewWithin interviewRead
  rw [ncsCell] at ncsWithin ncsRead
  exact ⟨interview, ncs, interviewCell, interviewRead, interviewWithin, ncsCell, ncsRead, ncsWithin⟩

end Scores

/-- What the reading of row `r` gives: the row, as `RowRead` describes it for the row's
category, when no cell of the row is faulty; otherwise the row's faulty cells, as
`RowFaults` describes them. -/
def RowOutcome (g : Grid) (q : QuotaConfig) (r : Nat) : Except (List CellError) ScoreSheetRow → Prop
  | .ok row => (∀ col k, ¬Fault g q r col k) ∧ ∃ c, RowRead g q r c row
  | .error found => found ≠ [] ∧ RowFaults g q r found

/-- A present row without type faults is read once its three range checks have run:
as the row when none fires, and otherwise as their reports. -/
theorem scores_outcome {g : Grid} {q : QuotaConfig} {r : Nat} {c : Category}
    (faultless : ∀ col, ¬TypeFault g r col) (present : Present g r) (named : rowCategory g r = some c)
    {interview ncs coding : List CellError}
    (interviewFlags : Flags r interviewColumn .outOfRange (RangeFault g q r interviewColumn) interview)
    (ncsFlags : Flags r ncsColumn .outOfRange (RangeFault g q r ncsColumn) ncs)
    (codingFlags : Flags r codingColumn .outOfRange (RangeFault g q r codingColumn) coding)
    {row : ScoreSheetRow} (identified : Identified g r c row) (shown : row.present = true)
    (interviewRead : row.depthInterview = some (g.cell r interviewColumn).numberValue)
    (ncsRead : row.ncs = some (g.cell r ncsColumn).numberValue)
    (coded : row.codingTest.isSome = true ↔ c.usesCodingTest = true ∧ (q.rangesFor c).codingTest.isSome = true)
    (codingRead : coding = [] → ∀ v, row.codingTest = some v →
      g.cell r codingColumn = .number v ∧ ∃ bound, (q.rangesFor c).codingTest = some bound ∧ Within bound v) :
    RowOutcome g q r
      (if (interview ++ ncs ++ coding).isEmpty then .ok row else .error (interview ++ ncs ++ coding)) := by
  split
  case isTrue clean =>
    simp only [List.isEmpty_iff, List.append_eq_nil_iff] at clean
    obtain ⟨⟨noInterview, noNcs⟩, noCoding⟩ := clean
    have scored := scored_of_fine faultless present named (interviewFlags.eq_nil_iff.mp noInterview)
      (ncsFlags.eq_nil_iff.mp noNcs) interviewRead ncsRead
    refine ⟨fun col k fault => ?_, c, identified, fun _ => scored, fun _ => coded, codingRead noCoding,
      fun absent => by simp [shown] at absent⟩
    obtain ⟨rfl, column⟩ := fault_of_faultless faultless fault
    rcases column with rfl | rfl | rfl
    · exact interviewFlags.eq_nil_iff.mp noInterview fault
    · exact ncsFlags.eq_nil_iff.mp noNcs fault
    · exact codingFlags.eq_nil_iff.mp noCoding fault
  case isFalse faulty =>
    refine ⟨fun empty => faulty (by rw [empty]; rfl), ⟨?sound, ?complete, ?once⟩⟩
    case sound =>
      intro e member
      simp only [List.mem_append] at member
      rcases member with (inInterview | inNcs) | inCoding
      · exact interviewFlags.faulty id e inInterview
      · exact ncsFlags.faulty id e inNcs
      · exact codingFlags.faulty id e inCoding
    case complete =>
      intro col k fault
      obtain ⟨rfl, column⟩ := fault_of_faultless faultless fault
      rcases column with rfl | rfl | rfl
      · obtain ⟨e, member, found⟩ := interviewFlags.exists_entry fault
        exact ⟨e, by simp [member], found⟩
      · obtain ⟨e, member, found⟩ := ncsFlags.exists_entry fault
        exact ⟨e, by simp [member], found⟩
      · obtain ⟨e, member, found⟩ := codingFlags.exists_entry fault
        exact ⟨e, by simp [member], found⟩
    case once =>
      simp only [List.map_append]
      exact List.Nodup.sublist ((interviewFlags.columns_sublist.append ncsFlags.columns_sublist).append
        codingFlags.columns_sublist) (by decide)

/-- Reading a row gives the row when none of its cells is faulty, and otherwise every
faulty cell of the row, once each. -/
theorem parseRow_outcome (g : Grid) (q : QuotaConfig) (r : Nat) : RowOutcome g q r (parseRow g q r) := by
  obtain ⟨-, -, -, -, named, -, -, -⟩ := typeFaults_split g r
  by_cases clean : (typeFaults g r).1 = []
  case neg =>
    have faults : typeFaults g r = ((typeFaults g r).1, (typeFaults g r).2) := rfl
    unfold parseRow
    rw [faults]
    dsimp only
    rw [if_pos (by simpa using clean)]
    exact ⟨clean, typeFaults_rowFaults g q r clean⟩
  case pos =>
    have faultless := typeFaults_eq_nil_iff.mp clean
    obtain ⟨c, known⟩ := category_of_faultless faultless
    have faults : typeFaults g r = ([], some c) := Prod.ext clean (named.trans known)
    unfold parseRow
    rw [faults]
    dsimp only
    simp only [List.isEmpty_nil, Bool.not_true, Bool.false_eq_true, if_false, Option.map_some,
      Option.getD_some]
    by_cases present : Present g r
    case neg =>
      have absent : ((g.cell r presenceColumn).kind == .boolean && (g.cell r presenceColumn).boolValue) = false :=
        Bool.eq_false_iff.mpr fun shown => present ((present_iff g r).mp shown)
      rw [absent]
      simp only [Bool.not_false, if_true]
      refine ⟨fun col k fault => ?_, c,
        ⟨identified_of_faultless faultless known rfl rfl rfl rfl absent.symm, ?_, ?_, ?_, ?_⟩⟩
      · -- an absent applicant's scores are not checked
        obtain ⟨rfl, -⟩ := fault_of_faultless faultless fault
        exact present fault.2.1
      all_goals simp
    case pos =>
      have presence := (present_iff g r).mpr present
      rw [presence]
      simp only [Bool.not_true, Bool.false_eq_true, if_false]
      have interviewFlags := score_flags faultless present known (rfl : scoreBound q c interviewColumn = _) c.code
      have ncsFlags := score_flags faultless present known (rfl : scoreBound q c ncsColumn = _) c.code
      -- the coding-test score is checked only under a bound, for a category that sits the test
      cases bounded : (q.rangesFor c).codingTest with
      | none =>
        have unbounded : ¬RangeFault g q r codingColumn := by
          rw [rangeFault_iff faultless present known]
          simp [scoreBound, codingColumn, bounded]
        exact scores_outcome faultless present known interviewFlags ncsFlags (.nil unbounded)
          (identified_of_faultless faultless known rfl rfl rfl rfl presence.symm) rfl rfl rfl
          (by simp [bounded]) (by simp)
      | some bound =>
        cases sits : c.usesCodingTest
        case false =>
          have unbounded : ¬RangeFault g q r codingColumn := by
            rw [rangeFault_iff faultless present known]
            simp [scoreBound, codingColumn, sits]
          exact scores_outcome faultless present known interviewFlags ncsFlags (.nil unbounded)
            (identified_of_faultless faultless known rfl rfl rfl rfl presence.symm) rfl rfl rfl
            (by simp [sits]) (by simp)
        case true =>
          have codingBound : scoreBound q c codingColumn = some bound := by
            simp [scoreBound, codingColumn, sits, bounded]
          have codingFlags := score_flags faultless present known codingBound c.code
          have meister : c = .meisterTalent := by cases c <;> simp_all [Category.usesCodingTest]
          obtain ⟨v, codingCell⟩ := coding_of_faultless faultless present (meister ▸ known)
          refine scores_outcome faultless present known interviewFlags ncsFlags codingFlags
            (identified_of_faultless faultless known rfl rfl rfl rfl presence.symm) rfl rfl rfl
            (by simp [sits, bounded]) fun codingClean => ?_
          have within := within_of_fine faultless present known codingBound (codingFlags.eq_nil_iff.mp codingClean)
          rw [codingCell] at within ⊢
          simpa [bounded, Cell.numberValue] using within

end Sheet

end Admissions
