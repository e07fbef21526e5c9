import Admissions.Proofs.Sheet.Rows

namespace Admissions.Sheet

/-- The faulty cells row `r` is read with; none when the row is read. -/
def rowFaults (g : Grid) (q : QuotaConfig) (r : Nat) : List CellError :=
  match parseRow g q r with
  | .ok _ => []
  | .error found => found

theorem rowFaults_spec (g : Grid) (q : QuotaConfig) (r : Nat) : RowFaults g q r (rowFaults g q r) := by
  have outcome := parseRow_outcome g q r
  unfold rowFaults
  cases parsed : parseRow g q r with
  | ok row =>
    rw [parsed] at outcome
    exact ⟨by simp, fun col k fault => absurd fault (outcome.1 col k), by simp⟩
  | error found =>
    rw [parsed] at outcome
    exact outcome.2

theorem parseRow_of_clean {g : Grid} {q : QuotaConfig} {r : Nat} (clean : rowFaults g q r = []) :
    ∃ row c, parseRow g q r = .ok row ∧ RowRead g q r c row := by
  have outcome := parseRow_outcome g q r
  unfold rowFaults at clean
  cases parsed : parseRow g q r with
  | ok row =>
    rw [parsed] at outcome
    obtain ⟨-, c, read⟩ := outcome
    exact ⟨row, c, rfl, read⟩
  | error found =>
    rw [parsed] at outcome
    simp only [parsed] at clean
    exact absurd clean outcome.1

theorem dataRows_eq (g : Grid) :
    dataRows g = ((List.range g.length).drop 1).filter fun r => !g.blankRow r := by
  have nonblank (r : Nat) : (!g.blankRow r) = (g.getD r []).any (·.kind != .blank) := by
    rw [Grid.blankRow, List.not_all_eq_any_not]
    rfl
  unfold dataRows
  cases g.length with
  | zero => rfl
  | succ n =>
    rw [List.range_succ_eq_map, List.filter_cons, List.drop_one, List.tail_cons]
    simp only [Nat.lt_irrefl, decide_false, Bool.false_and, Bool.false_eq_true, if_false, nonblank]
    -- every row after the header is below it
    refine List.filter_congr fun r member => ?_
    obtain ⟨k, -, rfl⟩ := List.mem_map.mp member
    simp

theorem dataRows_sorted (g : Grid) : (dataRows g).Pairwise (· < ·) :=
  List.pairwise_lt_range.filter _

/-- Folding a step that skips blank rows and otherwise keeps the row read or gathers the
row's faults: the rows and the faults of the rows that are not blank, in order. -/
theorem foldl_gather {g : Grid} {q : QuotaConfig}
    {step : List ScoreSheetRow × List CellError → Nat → List ScoreSheetRow × List CellError}
    (gathers : ∀ rows faults r, step (rows, faults) r =
      if g.blankRow r then (rows, faults)
      else (rows ++ (parseRow g q r).toOption.toList, faults ++ rowFaults g q r)) :
    ∀ (l : List Nat) (rows : List ScoreSheetRow) (faults : List CellError), l.foldl step (rows, faults) =
      (rows ++ (l.filter fun r => !g.blankRow r).filterMap (fun r => (parseRow g q r).toOption),
        faults ++ (l.filter fun r => !g.blankRow r).flatMap (rowFaults g q))
  | [], rows, faults => by simp
  | r :: rest, rows, faults => by
    rw [List.foldl_cons, gathers, List.filter_cons]
    by_cases blank : g.blankRow r
    · simp only [blank, if_true, Bool.not_true, Bool.false_eq_true, if_false]
      exact foldl_gather gathers rest rows faults
    · simp only [blank, Bool.false_eq_true, if_false, Bool.not_false, if_true]
      rw [foldl_gather gathers rest]
      cases parsed : parseRow g q r <;> simp [Except.toOption, parsed]

theorem readRows_eq (g : Grid) (q : QuotaConfig) :
    readRows g q = ((dataRows g).filterMap fun r => (parseRow g q r).toOption,
      (dataRows g).flatMap (rowFaults g q)) := by
  unfold readRows
  rw [foldl_gather ?gathers, dataRows_eq, List.nil_append, List.nil_append]
  case gathers =>
    intro rows faults r
    dsimp only
    split
    · rfl
    · unfold rowFaults
      cases parseRow g q r <;> simp [Except.toOption]

section KeySort

/-! Sorting by an integer key, as the sheet's rows are sorted by examination number. -/

variable {α : Type} (key : α → Int)

theorem keyLe_trans (a b c : α) (ab : decide (key a ≤ key b) = true) (bc : decide (key b ≤ key c) = true) :
    decide (key a ≤ key c) = true := by
  simp only [decide_eq_true_eq] at ab bc ⊢
  omega

theorem keyLe_total (a b : α) : (decide (key a ≤ key b) || decide (key b ≤ key a)) = true := by
  simp only [Bool.or_eq_true, decide_eq_true_eq]
  omega

theorem mergeSort_key_sorted (l : List α) :
    (l.mergeSort fun a b => key a ≤ key b).Pairwise fun a b => key a ≤ key b := by
  simpa using List.pairwise_mergeSort (keyLe_trans key) (keyLe_total key) l

/-- A stable sort by a key keeps the elements of each key in the order they came in. -/
theorem filter_mergeSort_key (l : List α) (k : Int) :
    (l.mergeSort fun a b => key a ≤ key b).filter (key · == k) = l.filter (key · == k) := by
  have tied : (l.filter (key · == k)).Pairwise fun a b => decide (key a ≤ key b) = true :=
    List.pairwise_of_forall_mem_list fun a ofKey b ofKey' => by
      simp only [List.mem_filter, beq_iff_eq] at ofKey ofKey'
      simp [ofKey.2, ofKey'.2]
  have kept := (List.sublist_mergeSort (keyLe_trans key) (keyLe_total key) tied List.filter_sublist).filter
    (key · == k)
  simp only [List.filter_filter, Bool.and_self] at kept
  have counted := ((List.mergeSort_perm l fun a b => decide (key a ≤ key b)).filter (key · == k)).length_eq
  exact (kept.eq_of_length counted.symm).symm

/-- Sorting by a key a list ordered by a tie-break leaves ties in tie-break order. -/
theorem mergeSort_key_lex (tie : α → Nat) {l : List α} (ordered : l.Pairwise fun a b => tie a < tie b) :
    (l.mergeSort fun a b => key a ≤ key b).Pairwise fun a b =>
      key a < key b ∨ key a = key b ∧ tie a < tie b := by
  rw [List.pairwise_iff_forall_sublist]
  intro a b pair
  have le : key a ≤ key b := List.pairwise_iff_forall_sublist.mp (mergeSort_key_sorted key l) pair
  rcases lt_or_eq_of_le le with below | tied
  · exact .inl below
  · refine .inr ⟨tied, ?_⟩
    -- two elements of one key come out in the order they had in `l`
    have inKey := pair.filter (key · == key a)
    have both : [a, b].filter (key · == key a) = [a, b] := by simp [tied]
    rw [filter_mergeSort_key, both] at inKey
    exact List.pairwise_iff_forall_sublist.mp (ordered.filter _) inKey

end KeySort

theorem clean_rows_sheetRow {g : Grid} {q : QuotaConfig} (clean : ∀ r ∈ dataRows g, rowFaults g q r = []) :
    ((dataRows g).filterMap fun r => (parseRow g q r).toOption).map (·.sheetRow) = dataRows g := by
  rw [List.map_filterMap]
  calc _ = (dataRows g).filterMap some := List.filterMap_congr fun r member => by
        obtain ⟨row, c, parsed, read⟩ := parseRow_of_clean (clean r member)
        simp [parsed, Except.toOption, read.sheetRow]
    _ = dataRows g := List.filterMap_some

/-- What a sheet that is read gives: as many rows as expected and as the sheet has data
rows, one for each data row, sorted by examination number with equal numbers in grid
order, each read from its row's cells as `RowRead` describes. -/
structure SheetRead (g : Grid) (n : Int) (q : QuotaConfig) (rows : List ScoreSheetRow) : Prop where
  count : (rows.length : Int) = n ∧ rows.length = (dataRows g).length
  oneEach : (rows.map (·.sheetRow)).Perm (dataRows g)
  sorted : rows.Pairwise fun a b => a.examinationNumber < b.examinationNumber ∨
    a.examinationNumber = b.examinationNumber ∧ a.sheetRow < b.sheetRow
  read : ∀ row ∈ rows, ∃ c, RowRead g q row.sheetRow c row

theorem parse_ok_sheetRead {g : Grid} {n : Int} {q : QuotaConfig} {rows : List ScoreSheetRow}
    (ok : parse g n q = .ok rows) : SheetRead g n q rows := by
  unfold parse at ok
  rw [readRows_eq] at ok
  dsimp only at ok
  split at ok
  case isTrue => cases ok
  case isFalse clean =>
    split at ok
    case isTrue => cases ok
    case isFalse counted =>
      cases ok
      have faultless : ∀ r ∈ dataRows g, rowFaults g q r = [] := by
        simpa [List.flatMap_eq_nil_iff] using clean
      have gridOrder := clean_rows_sheetRow faultless
      have perm := List.mergeSort_perm ((dataRows g).filterMap fun r => (parseRow g q r).toOption)
        fun a b => decide (a.examinationNumber ≤ b.examinationNumber)
      refine ⟨⟨by simpa using counted, ?count⟩, ?oneEach, ?sorted, ?read⟩
      case count =>
        have counted := congrArg List.length gridOrder
        rw [List.length_map] at counted
        rw [perm.length_eq, counted]
      case oneEach => exact (perm.map (·.sheetRow)).trans (List.Perm.of_eq gridOrder)
      case sorted =>
        refine mergeSort_key_lex ScoreSheetRow.examinationNumber ScoreSheetRow.sheetRow ?_
        rw [← List.pairwise_map, gridOrder]
        exact dataRows_sorted g
      case read =>
        intro row member
        rw [List.mem_mergeSort, List.mem_filterMap] at member
        obtain ⟨r, -, found⟩ := member
        have outcome := parseRow_outcome g q r
        cases parsed : parseRow g q r with
        | ok read =>
          rw [parsed] at outcome found
          cases found
          obtain ⟨-, c, read⟩ := outcome
          refine ⟨c, ?_⟩
          rw [read.sheetRow]
          exact read
        | error found' =>
          rw [parsed] at found
          cases found

/-- A sheet with a blank row before its one applicant is read as that applicant's row,
which remembers the grid row it came from. -/
theorem sheetRead_after_blank_row :
    parse [[.text "number"], [], [.number ⟨1001, 0⟩, .text "n", .text "REGULAR", .number ⟨90, 0⟩,
        .number ⟨30, 0⟩, .blank, .boolean true]] 1 QuotaConfig.default =
      .ok [{ sheetRow := 2, examinationNumber := 1001, name := "n", category := "REGULAR",
             present := true, depthInterview := some ⟨90, 0⟩, ncs := some ⟨30, 0⟩ }] ∧
    SheetRead [[.text "number"], [], [.number ⟨1001, 0⟩, .text "n", .text "REGULAR", .number ⟨90, 0⟩,
        .number ⟨30, 0⟩, .blank, .boolean true]] 1 QuotaConfig.default
      [{ sheetRow := 2, examinationNumber := 1001, name := "n", category := "REGULAR",
         present := true, depthInterview := some ⟨90, 0⟩, ncs := some ⟨30, 0⟩ }] := by
  have parsed : parse [[.text "number"], [], [.number ⟨1001, 0⟩, .text "n", .text "REGULAR", .number ⟨90, 0⟩,
        .number ⟨30, 0⟩, .blank, .boolean true]] 1 QuotaConfig.default =
      .ok [{ sheetRow := 2, examinationNumber := 1001, name := "n", category := "REGULAR",
             present := true, depthInterview := some ⟨90, 0⟩, ncs := some ⟨30, 0⟩ }] := by
    simp [parse, show readRows [[.text "number"], [], [.number ⟨1001, 0⟩, .text "n", .text "REGULAR",
        .number ⟨90, 0⟩, .number ⟨30, 0⟩, .blank, .boolean true]] QuotaConfig.default =
      ([{ sheetRow := 2, examinationNumber := 1001, name := "n", category := "REGULAR",
          present := true, depthInterview := some ⟨90, 0⟩, ncs := some ⟨30, 0⟩ }], []) from rfl]
  exact ⟨parsed, parse_ok_sheetRead parsed⟩

theorem rowFaults_row {g : Grid} {q : QuotaConfig} {r : Nat} {e : CellError} (member : e ∈ rowFaults g q r) :
    e.row = r := by
  obtain ⟨-, row, -⟩ := (rowFaults_spec g q r).sound e member
  exact row

/-- The faults of one row are all of one kind: a range fault needs a row without type
faults. -/
theorem Fault.kind_eq {g : Grid} {q : QuotaConfig} {r col col' : Nat} {k k' : CellFault}
    (fault : Fault g q r col k) (fault' : Fault g q r col' k') : k = k' := by
  cases k <;> cases k'
  case invalidType.invalidType | outOfRange.outOfRange => rfl
  case invalidType.outOfRange => exact absurd fault (fault'.1 col)
  case outOfRange.invalidType => exact absurd fault' (fault.1 col')

/-- What a refused sheet reports: every faulty cell of every data row and nothing else,
each once, under its place and name and with the kind of its fault, rows in ascending
order and never two kinds in one row; its code names a type fault when the sheet has
one and a score out of range otherwise. -/
structure SheetFaults (g : Grid) (q : QuotaConfig) (cells : List CellError) : Prop where
  sound : ∀ e ∈ cells, ∃ r col : Nat, r ∈ dataRows g ∧ e.row = r ∧ e.column = col ∧
    e.cell = cellName r col ∧ Fault g q r col e.fault
  complete : ∀ r ∈ dataRows g, ∀ col k, Fault g q r col k →
    ∃ e ∈ cells, e.row = r ∧ e.column = col ∧ e.fault = k
  once : (cells.map fun e => (e.row, e.column)).Nodup
  ascending : cells.Pairwise fun a b => a.row ≤ b.row
  unmixed : ∀ a ∈ cells, ∀ b ∈ cells, a.row = b.row → a.fault = b.fault
  invalidType : AdmissionError.hasInvalidType cells = true ↔ ∃ r ∈ dataRows g, ∃ col, TypeFault g r col
  outOfRange : AdmissionError.hasOutOfRange cells = true ↔ ∃ r ∈ dataRows g, ∃ col, RangeFault g q r col
  typeCode : (AdmissionError.sheet cells).code = "INVALID_CELL_TYPE" ↔
    ∃ r ∈ dataRows g, ∃ col, TypeFault g r col
  rangeCode : (AdmissionError.sheet cells).code = "SCORE_OUT_OF_RANGE" ↔
    ¬∃ r ∈ dataRows g, ∃ col, TypeFault g r col

section Gathered

variable (g : Grid) (q : QuotaConfig)

theorem gathered_sound : ∀ e ∈ (dataRows g).flatMap (rowFaults g q), ∃ r col : Nat, r ∈ dataRows g ∧
    e.row = r ∧ e.column = col ∧ e.cell = cellName r col ∧ Fault g q r col e.fault := by
  intro e member
  obtain ⟨r, inData, inRow⟩ := List.mem_flatMap.mp member
  obtain ⟨col, placed⟩ := (rowFaults_spec g q r).sound e inRow
  exact ⟨r, col, inData, placed⟩

theorem gathered_complete : ∀ r ∈ dataRows g, ∀ col k, Fault g q r col k →
    ∃ e ∈ (dataRows g).flatMap (rowFaults g q), e.row = r ∧ e.column = col ∧ e.fault = k := by
  intro r inData col k fault
  obtain ⟨e, inRow, column, kind⟩ := (rowFaults_spec g q r).complete col k fault
  exact ⟨e, List.mem_flatMap_of_mem inData inRow, rowFaults_row inRow, column, kind⟩

theorem gathered_kind (k : CellFault) :
    (∃ e ∈ (dataRows g).flatMap (rowFaults g q), e.fault = k) ↔ ∃ r ∈ dataRows g, ∃ col, Fault g q r col k := by
  constructor
  · rintro ⟨e, member, rfl⟩
    obtain ⟨r, col, inData, -, -, -, fault⟩ := gathered_sound g q e member
    exact ⟨r, inData, col, fault⟩
  · rintro ⟨r, inData, col, fault⟩
    obtain ⟨e, member, -, -, kind⟩ := gathered_complete g q r inData col k fault
    exact ⟨e, member, kind⟩

theorem gathered_hasInvalidType :
    AdmissionError.hasInvalidType ((dataRows g).flatMap (rowFaults g q)) = true ↔
      ∃ r ∈ dataRows g, ∃ col, TypeFault g r col := by
  rw [AdmissionError.hasInvalidType, List.any_eq_true]
  simpa [Fault] using gathered_kind g q .invalidType

/-- The faults gathered over the data rows of a sheet are reported as `SheetFaults`
describes. -/
theorem gathered_sheetFaults : SheetFaults g q ((dataRows g).flatMap (rowFaults g q)) where
  sound := gathered_sound g q
  complete := gathered_complete g q
  once := by
    rw [List.map_flatMap]
    unfold List.Nodup
    rw [List.pairwise_flatMap]
    refine ⟨fun r _ => ?within, (dataRows_sorted g).imp ?across⟩
    case within =>
      refine List.Nodup.of_map Prod.snd ?_
      rw [List.map_map]
      exact (rowFaults_spec g q r).once
    case across =>
      -- the cells of two data rows lie in two different rows
      intro r r' below x inX y inY same
      obtain ⟨e, member, rfl⟩ := List.mem_map.mp inX
      obtain ⟨e', member', rfl⟩ := List.mem_map.mp inY
      have rows := congrArg Prod.fst same
      simp only [rowFaults_row member, rowFaults_row member'] at rows
      omega
  ascending := by
    rw [List.pairwise_flatMap]
    refine ⟨fun r _ => List.pairwise_of_forall_mem_list fun a inA b inB => ?_, (dataRows_sorted g).imp ?_⟩
    · rw [rowFaults_row inA, rowFaults_row inB]
    · intro r r' below a inA b inB
      rw [rowFaults_row inA, rowFaults_row inB]
      exact_mod_cast below.le
  unmixed := by
    intro a inA b inB sameRow
    obtain ⟨r, col, -, row, -, -, fault⟩ := gathered_sound g q a inA
    obtain ⟨r', col', -, row', -, -, fault'⟩ := gathered_sound g q b inB
    obtain rfl : r = r' := by omega
    exact fault.kind_eq fault'
  invalidType := gathered_hasInvalidType g q
  outOfRange := by
    rw [AdmissionError.hasOutOfRange, List.any_eq_true]
    simpa [Fault] using gathered_kind g q .outOfRange
  typeCode := by
    rw [AdmissionError.code, ← gathered_hasInvalidType g q]
    split <;> simp_all
  rangeCode := by
    rw [AdmissionError.code, ← gathered_hasInvalidType g q]
    split <;> simp_all

end Gathered

theorem parse_eq_sheet_iff {g : Grid} {n : Int} {q : QuotaConfig} {cells : List CellError} :
    parse g n q = .error (.sheet cells) ↔ cells ≠ [] ∧ cells = (dataRows g).flatMap (rowFaults g q) := by
  unfold parse
  rw [readRows_eq]
  dsimp only
  split
  case isTrue faulty =>
    simp only [Bool.not_eq_true', List.isEmpty_eq_false_iff] at faulty
    constructor
    · intro refused
      cases refused
      exact ⟨faulty, rfl⟩
    · rintro ⟨-, rfl⟩
      rfl
  case isFalse clean =>
    simp only [Bool.not_eq_true', Bool.not_eq_false, List.isEmpty_iff] at clean
    constructor
    · intro refused
      split at refused <;> cases refused
    · rintro ⟨nonempty, rfl⟩
      exact absurd clean nonempty

/-- A sheet is refused for its cells exactly when a data row has a faulty cell, and then
with every faulty cell, as `SheetFaults` describes. -/
theorem parse_error_sheetFaults (g : Grid) (n : Int) (q : QuotaConfig) :
    ((∃ cells, parse g n q = .error (.sheet cells)) ↔ ∃ r ∈ dataRows g, ∃ col k, Fault g q r col k) ∧
      ∀ cells, parse g n q = .error (.sheet cells) → SheetFaults g q cells := by
  refine ⟨⟨?faulty, ?refused⟩, fun cells refused => ?report⟩
  case faulty =>
    rintro ⟨cells, refused⟩
    obtain ⟨nonempty, rfl⟩ := parse_eq_sheet_iff.mp refused
    obtain ⟨e, member⟩ := List.exists_mem_of_ne_nil _ nonempty
    obtain ⟨r, col, inData, -, -, -, fault⟩ := gathered_sound g q e member
    exact ⟨r, inData, col, e.fault, fault⟩
  case refused =>
    rintro ⟨r, inData, col, k, fault⟩
    obtain ⟨e, member, -⟩ := gathered_complete g q r inData col k fault
    exact ⟨_, parse_eq_sheet_iff.mpr ⟨List.ne_nil_of_mem member, rfl⟩⟩
  case report =>
    obtain ⟨-, rfl⟩ := parse_eq_sheet_iff.mp refused
    exact gathered_sheetFaults g q

/-- A row whose examination number is text and whose category is unknown is refused for
those two cells. -/
theorem sheetFaults_of_text_number_and_unknown_category :
    ∃ cells, parse [[.text "number"], [.text "x", .text "n", .text "NONE", .blank, .blank, .blank,
        .boolean false]] 1 QuotaConfig.default = .error (.sheet cells) ∧
      SheetFaults [[.text "number"], [.text "x", .text "n", .text "NONE", .blank, .blank, .blank,
        .boolean false]] QuotaConfig.default cells ∧
      cells.map (fun e => (e.row, e.column, e.fault)) = [(1, 0, .invalidType), (1, 2, .invalidType)] :=
  ⟨_, rfl, (parse_error_sheetFaults _ 1 QuotaConfig.default).2 _ rfl, rfl⟩

end Admissions.Sheet
