import Admissions.Proofs.Selection.ScoreSheet

namespace Admissions

namespace Application

/-- A copy is the record itself unless the record lists no subjects in an empty list. -/
theorem copy_eq_self_iff (a : Application) : a.copy = a ↔ a.grade.subjects ≠ some [] := by
  constructor
  · intro same empty
    have kept := congrArg (·.grade.subjects) same
    simp [copy, empty] at kept
  · intro listed
    unfold copy
    split
    · contradiction
    · rfl

end Application

namespace SecondRound

variable {records : List Application} {rows : List ScoreSheetRow}

/-! ### The three checks -/

theorem recordFault_go_numbered {seen : List Int} {records : List Application}
    (clean : recordFault.go seen records = none) : ∀ a ∈ records, a.examinationNumber.isSome := by
  induction records generalizing seen with
  | nil => simp
  | cons a rest ih =>
    simp only [recordFault.go] at clean
    split at clean
    · cases clean
    · split at clean
      · cases clean
      · rename_i numbered
        split at clean
        · cases clean
        · intro b member
          rcases List.mem_cons.mp member with rfl | later
          · exact Option.isSome_iff_ne_none.mpr (by simpa using numbered)
          · exact ih clean b later

/-- The record check passes exactly on numbered first-round passers of distinct numbers. -/
theorem recordFault_eq_none_iff :
    recordFault records = none ↔
      (∀ a ∈ records, a.status = Status.firstPassed.code ∧ a.examinationNumber.isSome) ∧
        (records.map (·.examNo)).Nodup := by
  constructor
  · intro clean
    have passers (a : Application) (member : a ∈ records) :
        a.status = Status.firstPassed.code ∧ a.examinationNumber.isSome :=
      ⟨recordFault_go_passers clean a member, recordFault_go_numbered clean a member⟩
    exact ⟨passers, ((recordFault_go_eq_none_iff passers []).mp clean).1⟩
  · rintro ⟨passers, distinct⟩
    exact (recordFault_go_eq_none_iff passers []).mpr ⟨distinct, by simp⟩

/-- Over records of distinct numbers, the holder of a number is the record that has it. -/
theorem holder?_eq_some_iff (distinct : (records.map (·.examNo)).Nodup) {n : Int} {h : Application} :
    holder? records n = some h ↔ h ∈ records ∧ h.examNo = n := by
  constructor
  · intro held
    exact ⟨List.mem_of_find?_eq_some held, holder?_examNo held⟩
  · rintro ⟨member, rfl⟩
    obtain ⟨h', held⟩ : ∃ h', holder? records h.examNo = some h' :=
      Option.isSome_iff_exists.mp (List.find?_isSome.mpr ⟨h, member, by simp⟩)
    obtain rfl := List.inj_on_of_nodup_map distinct (List.mem_of_find?_eq_some held) member
      (holder?_examNo held)
    exact held

/-- Rows of distinct numbers, none seen before, each naming a held number and its
holder's category, pass the row check. -/
theorem rowFault_go_of_paired {seen : List Int} {rows : List ScoreSheetRow}
    (distinct : (rows.map (·.examinationNumber)).Nodup) (unseen : ∀ r ∈ rows, r.examinationNumber ∉ seen)
    (paired : ∀ r ∈ rows, ∃ h, holder? records r.examinationNumber = some h ∧ r.category = h.category) :
    rowFault.go records seen rows = none := by
  induction rows generalizing seen with
  | nil => rfl
  | cons row rest ih =>
    obtain ⟨h, held, sameCategory⟩ := paired row List.mem_cons_self
    have fresh : seen.contains row.examinationNumber = false := by
      simpa using unseen row List.mem_cons_self
    obtain ⟨first, distinct⟩ := List.nodup_cons.mp distinct
    rw [rowFault.go, fresh, held]
    simp only [sameCategory, ne_eq, not_true_eq_false, if_false, Bool.false_eq_true]
    refine ih distinct (fun r later => ?_) (fun r later => paired r (List.mem_cons_of_mem _ later))
    intro onList
    rcases List.mem_cons.mp onList with same | seenBefore
    · exact first (List.mem_map.mpr ⟨r, later, same⟩)
    · exact unseen r (List.mem_cons_of_mem _ later) seenBefore

/-- No number is missing exactly when every record's number is on a row. -/
theorem missingNumbers_eq_nil_iff :
    missingNumbers records rows = [] ↔ ∀ a ∈ records, a.examNo ∈ rows.map (·.examinationNumber) := by
  rw [missingNumbers, ← List.length_eq_zero_iff, List.length_mergeSort, List.length_eq_zero_iff,
    List.filter_eq_nil_iff]
  simp

/-- A pairing goes through exactly when none of its three checks finds a fault. -/
theorem apply_ok_iff :
    (∃ updated, apply records rows = .ok updated) ↔
      recordFault records = none ∧ rowFault records rows = none ∧ missingNumbers records rows = [] := by
  unfold apply
  cases recordFault records
  · cases rowFault records rows
    · by_cases missing : missingNumbers records rows = [] <;> simp [missing]
    · simp
  · simp

theorem apply_ok_eq {updated : List Application} (ok : apply records rows = .ok updated) :
    updated = (rows.filterMap fun r => (holder? records r.examinationNumber).map (update · r)).mergeSort
      fun a b => a.examNo ≤ b.examNo := by
  unfold apply at ok
  split at ok
  · cases ok
  · split at ok
    · cases ok
    · dsimp only at ok
      split at ok
      · cases ok
      · exact (Except.ok.inj ok).symm

theorem recordFault_go_code {seen : List Int} {records : List Application} {e : AdmissionError}
    (found : recordFault.go seen records = some e) :
    e.code = "INVALID_STATUS_TRANSITION" ∨ e.code = "EXAMINATION_NUMBER_MISMATCH" := by
  induction records generalizing seen with
  | nil => cases found
  | cons a rest ih =>
    simp only [recordFault.go] at found
    split at found
    · cases found
      exact .inl rfl
    · split at found
      · cases found
        exact .inr rfl
      · split at found
        · cases found
          exact .inr rfl
        · exact ih found

theorem rowFault_go_code {seen : List Int} {rows : List ScoreSheetRow} {e : AdmissionError}
    (found : rowFault.go records seen rows = some e) : e.code = "EXAMINATION_NUMBER_MISMATCH" := by
  induction rows generalizing seen with
  | nil => cases found
  | cons row rest ih =>
    simp only [rowFault.go] at found
    split at found
    · cases found
      rfl
    · split at found
      · cases found
        rfl
      · split at found
        · cases found
          rfl
        · exact ih found

/-- A refused pairing is refused for a status or a number mismatch. -/
theorem apply_error_code {e : AdmissionError} (refused : apply records rows = .error e) :
    e.code = "INVALID_STATUS_TRANSITION" ∨ e.code = "EXAMINATION_NUMBER_MISMATCH" := by
  unfold apply at refused
  split at refused
  · rename_i found
    cases refused
    exact recordFault_go_code found
  · split at refused
    · rename_i found
      cases refused
      exact .inr (rowFault_go_code found)
    · dsimp only at refused
      split at refused
      · cases refused
        exact .inr rfl
      · cases refused

/-! ### What the pairing needs and what it answers -/

/-- What pairing the rows with the records needs: every record is a numbered first-round
passer, no two records and no two rows share a number, the rows list exactly the
records' numbers, and each row names its record's category. -/
structure Pairs (records : List Application) (rows : List ScoreSheetRow) : Prop where
  passers : ∀ a ∈ records, a.status = Status.firstPassed.code
  numbered : ∀ a ∈ records, a.examinationNumber.isSome
  recordsDistinct : (records.map (·.examNo)).Nodup
  rowsDistinct : (rows.map (·.examinationNumber)).Nodup
  sameNumbers : ∀ n, n ∈ rows.map (·.examinationNumber) ↔ n ∈ records.map (·.examNo)
  sameCategory : ∀ r ∈ rows, ∀ a ∈ records, a.examNo = r.examinationNumber → r.category = a.category

/-- `u` is the record `a` after its row `r`: present, a first-round passer with the
second-round score; absent, a no-show with the scores it had; every other field as a
copy of `a` has it. -/
structure Updated (a : Application) (r : ScoreSheetRow) (u : Application) : Prop where
  status : u.status = if r.present then Status.firstPassed.code else Status.noShow.code
  score : u.score = if r.present then Score.secondRound a r.input else a.score
  rest : { u with status := a.status, score := a.score } = a.copy

/-- What a pairing answers: records sorted by number, strictly ascending, that match the
records and the rows one to one, each record updated by the row of its number. -/
structure Applied (records : List Application) (rows : List ScoreSheetRow)
    (updated : List Application) : Prop where
  ascending : updated.Pairwise fun u v => u.examNo < v.examNo
  paired : ∃ triples : List (Application × ScoreSheetRow × Application),
    (triples.map (·.1)).Perm records ∧ (triples.map (·.2.1)).Perm rows ∧
      (triples.map (·.2.2)).Perm updated ∧
      ∀ t ∈ triples, t.1.examNo = t.2.1.examinationNumber ∧ Updated t.1 t.2.1 t.2.2

@[simp] theorem update_examinationNumber (a : Application) (r : ScoreSheetRow) :
    (update a r).examinationNumber = a.examinationNumber := by
  unfold update
  split <;> rfl

theorem update_updated {a : Application} (r : ScoreSheetRow) (passer : a.status = Status.firstPassed.code) :
    Updated a r (update a r) := by
  cases present : r.present
  · obtain ⟨status, score⟩ := update_of_absent a present
    refine ⟨by simp [status, present], by simp [score, present], ?_⟩
    simp [update, present, Application.copy]
  · obtain ⟨status, score⟩ := update_of_present a present
    refine ⟨by simp [status, passer, present], by simp [score, present], ?_⟩
    simp [update, present, Application.copy]

/-- The record, row and update of each row of the sheet whose number is held. -/
def pairings (records : List Application) (rows : List ScoreSheetRow) :
    List (Application × ScoreSheetRow × Application) :=
  rows.filterMap fun r => (holder? records r.examinationNumber).map fun a => (a, r, update a r)

theorem mem_pairings {t : Application × ScoreSheetRow × Application} :
    t ∈ pairings records rows ↔
      t.2.1 ∈ rows ∧ holder? records t.2.1.examinationNumber = some t.1 ∧ t.2.2 = update t.1 t.2.1 := by
  obtain ⟨a, r, u⟩ := t
  simp only [pairings, List.mem_filterMap, Option.map_eq_some_iff, Prod.mk.injEq]
  constructor
  · rintro ⟨r', listed, a', held, rfl, rfl, rfl⟩
    exact ⟨listed, held, rfl⟩
  · rintro ⟨listed, held, rfl⟩
    exact ⟨r, listed, a, held, rfl, rfl, rfl⟩

theorem pairings_updates :
    (pairings records rows).map (·.2.2) =
      rows.filterMap fun r => (holder? records r.examinationNumber).map (update · r) := by
  simp [pairings, List.map_filterMap, Option.map_map, Function.comp_def]

/-- When every row's number is held, every row is paired. -/
theorem pairings_rows (held : ∀ r ∈ rows, (holder? records r.examinationNumber).isSome) :
    (pairings records rows).map (·.2.1) = rows := by
  induction rows with
  | nil => rfl
  | cons row rest ih =>
    obtain ⟨h, found⟩ := Option.isSome_iff_exists.mp (held row List.mem_cons_self)
    simp only [pairings, List.filterMap_cons, found, Option.map_some] at ih ⊢
    rw [List.map_cons, ih fun r later => held r (List.mem_cons_of_mem _ later)]

section Paired

variable (pairs : Pairs records rows)
include pairs

theorem Pairs.holder_of_row {r : ScoreSheetRow} (listed : r ∈ rows) :
    ∃ a ∈ records, holder? records r.examinationNumber = some a := by
  obtain ⟨a, member, same⟩ := List.mem_map.mp ((pairs.sameNumbers _).mp (List.mem_map_of_mem listed))
  exact ⟨a, member, (holder?_eq_some_iff pairs.recordsDistinct).mpr ⟨member, same⟩⟩

theorem Pairs.rows_paired : (pairings records rows).map (·.2.1) = rows :=
  pairings_rows fun r listed => by
    obtain ⟨a, -, held⟩ := pairs.holder_of_row listed
    simp [held]

/-- Each record is paired exactly once: the paired records have distinct numbers, the
rows', and take in every record, whose number some row lists. -/
theorem Pairs.records_perm : ((pairings records rows).map (·.1)).Perm records := by
  -- a paired record has the number of its row, so the paired numbers are the rows'
  have numbers : ((pairings records rows).map (·.1)).map (·.examNo) = rows.map (·.examinationNumber) :=
    calc ((pairings records rows).map (·.1)).map (·.examNo)
        = ((pairings records rows).map (·.2.1)).map (·.examinationNumber) := by
          simp only [List.map_map]
          exact List.map_congr_left fun t member => holder?_examNo (mem_pairings.mp member).2.1
      _ = rows.map (·.examinationNumber) := by rw [pairs.rows_paired]
  apply (List.perm_ext_iff_of_nodup _ (pairs.recordsDistinct.of_map _)).mpr
  · intro a
    constructor
    · intro paired
      obtain ⟨t, member, rfl⟩ := List.mem_map.mp paired
      exact List.mem_of_find?_eq_some (mem_pairings.mp member).2.1
    · intro member
      obtain ⟨r, listed, same⟩ := List.mem_map.mp ((pairs.sameNumbers _).mpr (List.mem_map_of_mem member))
      have held := (holder?_eq_some_iff pairs.recordsDistinct).mpr ⟨member, same.symm⟩
      exact List.mem_map.mpr ⟨(a, r, update a r), mem_pairings.mpr ⟨listed, held, rfl⟩, rfl⟩
  · exact (numbers ▸ pairs.rowsDistinct).of_map _

theorem Pairs.applied :
    Applied records rows ((rows.filterMap fun r => (holder? records r.examinationNumber).map (update · r)).mergeSort
      fun a b => a.examNo ≤ b.examNo) := by
  set updated := (rows.filterMap fun r => (holder? records r.examinationNumber).map (update · r)).mergeSort
    fun a b => a.examNo ≤ b.examNo
  have sorted : updated.Pairwise fun u v => decide (u.examNo ≤ v.examNo) :=
    List.pairwise_mergeSort (fun _ _ _ ab bc => by simp only [decide_eq_true_eq] at *; omega)
      (fun u v => by simp only [Bool.or_eq_true, decide_eq_true_eq]; omega) _
  have updates : ((pairings records rows).map (·.2.2)).Perm updated := by
    rw [pairings_updates]
    exact (List.mergeSort_perm _ _).symm
  -- an update keeps its record's number, so the answer's numbers are the records'
  have numbers : (updated.map (·.examNo)).Perm (records.map (·.examNo)) := by
    have kept : ((pairings records rows).map (·.2.2)).map (·.examNo) =
        ((pairings records rows).map (·.1)).map (·.examNo) := by
      rw [List.map_map, List.map_map]
      refine List.map_congr_left fun t member => ?_
      simp [(mem_pairings.mp member).2.2, Application.examNo]
    exact (updates.map _).symm.trans (kept ▸ pairs.records_perm.map _)
  have distinct : updated.Pairwise fun u v => u.examNo ≠ v.examNo :=
    List.pairwise_map.mp (numbers.nodup_iff.mpr pairs.recordsDistinct)
  refine ⟨(sorted.and distinct).imp fun both => lt_of_le_of_ne (of_decide_eq_true both.1) both.2,
    pairings records rows, pairs.records_perm, ?_, updates, fun t member => ?_⟩
  · rw [pairs.rows_paired]
  · obtain ⟨-, held, updatedBy⟩ := mem_pairings.mp member
    refine ⟨holder?_examNo held, ?_⟩
    rw [updatedBy]
    exact update_updated _ (pairs.passers _ (List.mem_of_find?_eq_some held))

end Paired

/-- What pairing a score sheet with the records does: it goes through exactly when the
rows pair with the records, then answering what `Applied` says, and is otherwise
refused for a status or a number mismatch. -/
structure PairingLaw (records : List Application) (rows : List ScoreSheetRow) : Prop where
  accepted : (∃ updated, apply records rows = .ok updated) ↔ Pairs records rows
  applied : ∀ updated, apply records rows = .ok updated → Applied records rows updated
  refused : ∀ e, apply records rows = .error e →
    e.code = "INVALID_STATUS_TRANSITION" ∨ e.code = "EXAMINATION_NUMBER_MISMATCH"

theorem pairs_of_checks (records_clean : recordFault records = none) (rows_clean : rowFault records rows = none)
    (none_missing : missingNumbers records rows = []) : Pairs records rows := by
  obtain ⟨passers, recordsDistinct⟩ := recordFault_eq_none_iff.mp records_clean
  obtain ⟨rowsDistinct, -, paired⟩ := rowFault_go_clean rows_clean
  have listed := missingNumbers_eq_nil_iff.mp none_missing
  refine ⟨fun a member => (passers a member).1, fun a member => (passers a member).2, recordsDistinct,
    rowsDistinct, fun n => ⟨fun onRow => ?_, fun held => ?_⟩, fun r onRow a member same => ?_⟩
  · obtain ⟨r, member, rfl⟩ := List.mem_map.mp onRow
    obtain ⟨h, kept, held, -⟩ := paired r member
    exact List.mem_map.mpr ⟨h, kept, holder?_examNo held⟩
  · obtain ⟨a, member, rfl⟩ := List.mem_map.mp held
    exact listed a member
  · obtain ⟨h, -, held, sameCategory⟩ := paired r onRow
    obtain rfl := Option.some.inj (held.symm.trans ((holder?_eq_some_iff recordsDistinct).mpr ⟨member, same⟩))
    exact sameCategory

theorem checks_of_pairs (pairs : Pairs records rows) :
    recordFault records = none ∧ rowFault records rows = none ∧ missingNumbers records rows = [] := by
  refine ⟨recordFault_eq_none_iff.mpr ⟨fun a member => ⟨pairs.passers a member, pairs.numbered a member⟩,
    pairs.recordsDistinct⟩, rowFault_go_of_paired pairs.rowsDistinct (by simp) fun r listed => ?_,
    missingNumbers_eq_nil_iff.mpr fun a member => (pairs.sameNumbers _).mpr (List.mem_map_of_mem member)⟩
  obtain ⟨a, member, held⟩ := pairs.holder_of_row listed
  exact ⟨a, held, pairs.sameCategory r listed a member (holder?_examNo held)⟩

/-- Pairing a score sheet is a bijection or nothing. For any records and rows it goes
through exactly when every record is a numbered first-round passer, the records' and the
rows' numbers are distinct and the same, and each row names its record's category; it
then answers each record once, updated by its row, in ascending order of number; and
any refusal is a status or a number mismatch. -/
theorem score_sheet_pairs_one_to_one (records : List Application) (rows : List ScoreSheetRow) :
    PairingLaw records rows where
  accepted := by
    rw [apply_ok_iff]
    constructor
    · rintro ⟨records_clean, rows_clean, none_missing⟩
      exact pairs_of_checks records_clean rows_clean none_missing
    · exact checks_of_pairs
  applied updated ok := by
    obtain ⟨records_clean, rows_clean, none_missing⟩ := apply_ok_iff.mp ⟨updated, ok⟩
    rw [apply_ok_eq ok]
    exact (pairs_of_checks records_clean rows_clean none_missing).applied
  refused _ failed := apply_error_code failed

/-- A first-round passer that lists its subjects in an empty list, and its row,
absent from the interview. -/
def emptySubjectsPasser : Application :=
  { id := "a", category := "REGULAR", status := "FIRST_PASSED", examinationNumber := some 1001,
    grade := { subjects := some [] } }

def absentRow : ScoreSheetRow :=
  { sheetRow := 2, examinationNumber := 1001, name := "a", category := "REGULAR", present := false }

/-- The pairing answers a copy, which lists no subjects where the record had an empty
list: the answer differs from the record beyond its status and scores. -/
theorem empty_subject_list_copied_as_none :
    apply [emptySubjectsPasser] [absentRow] = .ok [update emptySubjectsPasser absentRow] ∧
      (update emptySubjectsPasser absentRow).grade.subjects = none ∧
      emptySubjectsPasser.grade.subjects = some [] :=
  ⟨apply_single rfl rfl rfl, rfl, rfl⟩

end SecondRound

end Admissions
