import Admissions.Proofs.Sheet.Read
import Admissions.Cli.Program

namespace Admissions

namespace Grid

/-- A row is skipped as blank exactly when no cell of it is other than blank. -/
theorem not_blankRow (g : Grid) (r : Nat) :
    (!g.blankRow r) = (g.getD r []).any (·.kind != .blank) := by
  rw [blankRow, List.not_all_eq_any_not]
  rfl

end Grid

namespace Sheet

/-- A sheet read against its own count of data rows is read, or refused for its bad
cells; its count never differs. -/
theorem parse_at_own_count (g : Grid) (q : QuotaConfig) :
    (∃ rows, parse g (dataRows g).length q = .ok rows) ∨
      ∃ cells, parse g (dataRows g).length q = .error (.sheet cells) := by
  by_cases faulty : (dataRows g).flatMap (rowFaults g q) = []
  · -- every data row is read, so as many rows come out as there are data rows
    have clean : ∀ r ∈ dataRows g, rowFaults g q r = [] := by
      simpa [List.flatMap_eq_nil_iff] using faulty
    have counted := congrArg List.length (clean_rows_sheetRow clean)
    rw [List.length_map] at counted
    left
    unfold parse
    rw [readRows_eq]
    dsimp only
    rw [if_neg (by simp [faulty]), if_neg (by rw [List.length_mergeSort, counted]; exact not_not_intro rfl)]
    exact ⟨_, rfl⟩
  · exact Or.inr ⟨_, parse_eq_sheet_iff.mpr ⟨faulty, rfl⟩⟩

end Sheet

namespace Admissionctl

/-- The check's own count is the number of rows below the header that the parser does
not skip as blank. -/
theorem dataRows_eq_unskipped (g : Grid) :
    dataRows g = (((List.range g.length).drop 1).filter fun r => !g.blankRow r).length := by
  rw [dataRows, List.countP_eq_length_filter]
  congr 1
  exact List.filter_congr fun r _ => (Grid.not_blankRow g r).symm

theorem dataRows_eq_length (g : Grid) : dataRows g = (Sheet.dataRows g).length := by
  rw [dataRows_eq_unskipped, Sheet.dataRows_eq]

/-- A sheet checked without an expected count, against its own count of data rows, is
never refused for its count: either its rows come out sorted and are printed, or its bad
cells are reported and the sheet is refused. -/
theorem default_count_never_mismatches (g : Grid) (q : QuotaConfig) (expected : Int)
    (unset : expected ≤ 0) :
    dataRows g = (((List.range g.length).drop 1).filter fun r => !g.blankRow r).length ∧
      (∀ found wanted, Sheet.parse g (dataRows g) q ≠ .error (.rowCount found wanted)) ∧
      ((∃ rows, Sheet.parse g (dataRows g) q = .ok rows ∧ Sheet.SheetRead g (dataRows g) q rows ∧
          runValidateSheet g expected q = sheetRows rows) ∨
        ∃ cells, Sheet.parse g (dataRows g) q = .error (.sheet cells) ∧ Sheet.SheetFaults g q cells ∧
          runValidateSheet g expected q = sheetRejected cells) := by
  have outcome := Sheet.parse_at_own_count g q
  rw [← dataRows_eq_length] at outcome
  refine ⟨dataRows_eq_unskipped g, fun found wanted mismatch => ?_, ?_⟩
  · rcases outcome with ⟨rows, read⟩ | ⟨cells, refused⟩
    · rw [read] at mismatch
      cases mismatch
    · rw [refused] at mismatch
      cases mismatch
  · rcases outcome with ⟨rows, read⟩ | ⟨cells, refused⟩
    · refine Or.inl ⟨rows, read, Sheet.parse_ok_sheetRead read, ?_⟩
      rw [runValidateSheet, if_pos unset, read]
    · refine Or.inr ⟨cells, refused, (Sheet.parse_error_sheetFaults g _ q).2 cells refused, ?_⟩
      rw [runValidateSheet, if_pos unset, refused]

/-- A sheet whose one data row has its only value in the eighth column, past the
columns the parser reads: the check counts that row, as the parser does, so the count
is never what the sheet is refused for. -/
theorem eighth_column_row_counted :
    (0 : Int) ≤ 0 ∧ dataRows [[], [], [.blank, .blank, .blank, .blank, .blank, .blank, .blank, .text "note"]] = 1 ∧
      ∀ found wanted, Sheet.parse [[], [], [.blank, .blank, .blank, .blank, .blank, .blank, .blank, .text "note"]]
        1 QuotaConfig.default ≠ .error (.rowCount found wanted) := by
  have agrees := default_count_never_mismatches
    [[], [], [.blank, .blank, .blank, .blank, .blank, .blank, .blank, .text "note"]] QuotaConfig.default 0 le_rfl
  have counted : dataRows [[], [], [.blank, .blank, .blank, .blank, .blank, .blank, .blank, .text "note"]] = 1 :=
    agrees.1.trans (by decide)
  refine ⟨le_rfl, counted, ?_⟩
  rw [counted] at agrees
  exact agrees.2.1

end Admissionctl

end Admissions
