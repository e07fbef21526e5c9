import Admissions.Proofs.Selection.Lease

namespace Admissions.Batch

open Run Service

variable {α : Type}

/-- How a run of the service ends from `b`: when it fails, the application tables
and the key store are as they were; when it succeeds, as `done` says. -/
def AllOrNothing (op : Service α) (b : Backends) (done : α → Backends → Prop) : Prop :=
  match op.run.run b with
  | (.error _, b') => b'.store.tables = b.store.tables ∧ b'.keys = b.keys
  | (.ok v, b') => done v b'

theorem AllOrNothing.mono {op : Service α} {b : Backends} {done done' : α → Backends → Prop}
    (ends : AllOrNothing op b done) (weaker : ∀ v b', done v b' → done' v b') :
    AllOrNothing op b done' := by
  unfold AllOrNothing at ends ⊢
  rcases out : op.run.run b with ⟨e | v, b'⟩ <;> rw [out] at ends
  · exact ends
  · exact weaker v b' ends

/-! ### Steps inside a transaction -/

theorem step_keeps {γ : Type} {view : ApplicationStore → γ} {r : StoreRun α} (keeps : Keeps view r)
    (operation : String) : Keeps view (step operation r) :=
  keeps.tryCatch fun _ => keeps_throw _

theorem step_ok {operation : String} {r : StoreRun α} {s s' : ApplicationStore} {v : α}
    (ok : (step operation r).run.run s = (.ok v, s')) : r.run.run s = (.ok v, s') := by
  rw [step, run_tryCatch] at ok
  rcases out : r.run.run s with ⟨e | a, s₁⟩ <;> rw [out] at ok
  · cases ok
  · exact ok

theorem ruling_keeps {γ : Type} (view : ApplicationStore → γ) (x : Except AdmissionError α) :
    Keeps view (ruling x) := by
  cases x with
  | error e => exact keeps_throw _
  | ok v => exact keeps_pure v

theorem ruling_ok {x : Except AdmissionError α} {s s' : ApplicationStore} {v : α}
    (ok : (ruling x).run.run s = (.ok v, s')) : x = .ok v ∧ s' = s := by
  cases x with
  | error e => cases ok
  | ok a =>
    simp only [ruling, run_pure, outcome_eq_iff, Except.ok.injEq] at ok
    exact ⟨congrArg Except.ok ok.1, ok.2.symm⟩

/-! ### The work of each batch -/

theorem markFirstRound_keeps (q : QuotaConfig) : Keeps (·.snapshot) (markFirstRound q) :=
  (step_keeps ((StoreRun.lockByStatus_keeps _).comp Prod.snd) _).bind fun _ =>
    (ruling_keeps _ _).bind fun _ =>
      (step_keeps (StoreRun.updateStatus_keeps _ _ _) _).bind fun _ => keeps_pure _

/-- The first round's work selects among the received forms and moves exactly its
passers to FIRST_PASSED. -/
theorem markFirstRound_ok {q : QuotaConfig} {s s' : ApplicationStore} {v : Nat × SelectionResult}
    (ok : (markFirstRound q).run.run s = (.ok v, s')) :
    Selection.firstPass (s.tables.inStatuses ["RECEIVED"]) q = .ok v.2 ∧
      v.1 = (s.tables.inStatuses ["RECEIVED"]).length ∧
      s'.tables = (s.tables.moveStatus v.2.passedIds "RECEIVED" "FIRST_PASSED").2 := by
  obtain ⟨records, s₁, locked, ok⟩ := run_bind_ok ok
  obtain ⟨chosen, s₂, ruled, ok⟩ := run_bind_ok ok
  obtain ⟨_, s₃, moved, ok⟩ := run_bind_ok ok
  simp only [run_pure, outcome_eq_iff, Except.ok.injEq] at ok
  obtain ⟨rfl, last⟩ := ok
  obtain ⟨listed, kept⟩ := StoreRun.lockByStatus_ok (step_ok locked)
  obtain ⟨selected, same⟩ := ruling_ok ruled
  have movedTables := (StoreRun.updateStatus_run _ _ _ s₂).2 s₃ (step_ok moved)
  rw [← listed]
  refine ⟨selected, rfl, ?_⟩
  rw [← last, movedTables, same, kept]

/-- On a store with no fault waiting, the first round's work goes through whenever
its selection does and every passer is still received. -/
theorem markFirstRound_run_of_faultless (q : QuotaConfig) {s : ApplicationStore}
    (faultless : s.faults = []) {r : SelectionResult}
    (selected : Selection.firstPass (s.tables.inStatuses ["RECEIVED"]) q = .ok r)
    (current : (s.tables.moveStatus r.passedIds "RECEIVED" "FIRST_PASSED").1 = r.passedIds.length) :
    ∃ s', (markFirstRound q).run.run s = (.ok ((s.tables.inStatuses ["RECEIVED"]).length, r), s') ∧
      s'.faults = [] ∧ s'.tables = (s.tables.moveStatus r.passedIds "RECEIVED" "FIRST_PASSED").2 := by
  obtain ⟨s', moved, faultless', tables'⟩ := StoreRun.run_updateStatus_of_faultless
    (s := s.note Statement.lockByStatus.kind) faultless r.passedIds "RECEIVED" "FIRST_PASSED"
    (by decide) current
  refine ⟨s', ?_, faultless', tables'⟩
  simp only [markFirstRound, run_bind, step, run_tryCatch,
    StoreRun.run_lockByStatus_of_faultless faultless, selected, ruling, run_pure, moved]

/-- On a store with no fault waiting, the first round's transaction commits whenever
its selection goes through and every passer is still received, and it leaves no
fault behind. -/
theorem withTx_markFirstRound_of_faultless (q : QuotaConfig) {s : ApplicationStore}
    (faultless : s.faults = []) {r : SelectionResult}
    (selected : Selection.firstPass (s.tables.inStatuses ["RECEIVED"]) q = .ok r)
    (current : (s.tables.moveStatus r.passedIds "RECEIVED" "FIRST_PASSED").1 = r.passedIds.length) :
    ∃ s', (StoreRun.withTx (markFirstRound q)).run.run s =
        (.ok ((s.tables.inStatuses ["RECEIVED"]).length, r), s') ∧
      s'.faults = [] ∧ s'.tables = (s.tables.moveStatus r.passedIds "RECEIVED" "FIRST_PASSED").2 := by
  obtain ⟨s₁, ran, faultless₁, tables₁⟩ := markFirstRound_run_of_faultless q
    (s := { s.note Statement.begin.kind with snapshot := some s.tables }) faultless selected current
  exact ⟨_, StoreRun.run_withTx_of_faultless faultless ran faultless₁, faultless₁, tables₁⟩

theorem markSecondRound_keeps (q : QuotaConfig) : Keeps (·.snapshot) (markSecondRound q) :=
  (step_keeps ((StoreRun.lockByStatus_keeps _).comp Prod.snd) _).bind fun _ =>
    (ruling_keeps _ _).bind fun _ =>
      (step_keeps (StoreRun.updateStatus_keeps _ _ _) _).bind fun _ =>
        (step_keeps (StoreRun.updateStatus_keeps _ _ _) _).bind fun _ => keeps_pure _

/-- The second round's work selects among the first-round passers, moves its
passers to SECOND_PASSED and then its failures to SECOND_FAILED. -/
theorem markSecondRound_ok {q : QuotaConfig} {s s' : ApplicationStore} {v : Nat × SelectionResult}
    (ok : (markSecondRound q).run.run s = (.ok v, s')) :
    Selection.secondPass (s.tables.inStatuses ["FIRST_PASSED"]) q = .ok v.2 ∧
      v.1 = (s.tables.inStatuses ["FIRST_PASSED"]).length ∧
      s'.tables = ((s.tables.moveStatus v.2.passedIds "FIRST_PASSED" "SECOND_PASSED").2.moveStatus
        v.2.failedIds "FIRST_PASSED" "SECOND_FAILED").2 := by
  obtain ⟨records, s₁, locked, ok⟩ := run_bind_ok ok
  obtain ⟨chosen, s₂, ruled, ok⟩ := run_bind_ok ok
  obtain ⟨_, s₃, passed, ok⟩ := run_bind_ok ok
  obtain ⟨_, s₄, failed, ok⟩ := run_bind_ok ok
  simp only [run_pure, outcome_eq_iff, Except.ok.injEq] at ok
  obtain ⟨rfl, last⟩ := ok
  obtain ⟨listed, kept⟩ := StoreRun.lockByStatus_ok (step_ok locked)
  obtain ⟨selected, same⟩ := ruling_ok ruled
  have passedTables := (StoreRun.updateStatus_run _ _ _ s₂).2 s₃ (step_ok passed)
  have failedTables := (StoreRun.updateStatus_run _ _ _ s₃).2 s₄ (step_ok failed)
  rw [← listed]
  refine ⟨selected, rfl, ?_⟩
  rw [← last, failedTables, passedTables, same, kept]

theorem saveAll_keeps (updated : List Application) : Keeps (·.snapshot) (saveAll updated) := by
  induction updated with
  | nil => exact keeps_pure _
  | cons a rest ih =>
    exact (step_keeps (StoreRun.saveSecondRound_keeps a) _).bind fun _ =>
      ih.bind fun _ => keeps_pure _

/-- Saving the updated forms writes each one's second-round scores over the tables,
in turn. -/
theorem saveAll_ok {updated : List Application} {s s' : ApplicationStore} {counts : Nat × Nat}
    (ok : (saveAll updated).run.run s = (.ok counts, s')) :
    s'.tables = updated.foldl (fun t a => (t.saveSecondRound a).2) s.tables := by
  induction updated generalizing s s' counts with
  | nil =>
    simp only [saveAll, run_pure, outcome_eq_iff] at ok
    rw [← ok.2, List.foldl_nil]
  | cons a rest ih =>
    obtain ⟨_, s₁, saved, ok⟩ := run_bind_ok ok
    obtain ⟨_, s₂, others, ok⟩ := run_bind_ok ok
    simp only [run_pure, outcome_eq_iff] at ok
    rw [← ok.2, ih others, List.foldl_cons, (StoreRun.saveSecondRound_run a s).2 s₁ (step_ok saved)]

theorem recordScores_keeps (q : QuotaConfig) (g : Grid) : Keeps (·.snapshot) (recordScores q g) :=
  (step_keeps ((StoreRun.lockByStatus_keeps _).comp Prod.snd) _).bind fun _ =>
    (ruling_keeps _ _).bind fun _ =>
      (ruling_keeps _ _).bind fun _ =>
        (saveAll_keeps _).bind fun _ => keeps_pure _

/-- A score import's work reads the sheet against the first-round passers, pairs
them with its rows and saves every updated form. -/
theorem recordScores_ok {q : QuotaConfig} {g : Grid} {s s' : ApplicationStore} {v : Nat × Nat × Nat}
    (ok : (recordScores q g).run.run s = (.ok v, s')) :
    ∃ sheet updated, Sheet.parse g (s.tables.inStatuses ["FIRST_PASSED"]).length q = .ok sheet ∧
      SecondRound.apply (s.tables.inStatuses ["FIRST_PASSED"]) sheet = .ok updated ∧
      v.1 = updated.length ∧
      s'.tables = updated.foldl (fun t a => (t.saveSecondRound a).2) s.tables := by
  obtain ⟨records, s₁, locked, ok⟩ := run_bind_ok ok
  obtain ⟨sheet, s₂, parsed, ok⟩ := run_bind_ok ok
  obtain ⟨updated, s₃, paired, ok⟩ := run_bind_ok ok
  obtain ⟨⟨present, noShow⟩, s₄, saved, ok⟩ := run_bind_ok ok
  simp only [run_pure, outcome_eq_iff, Except.ok.injEq] at ok
  obtain ⟨rfl, last⟩ := ok
  obtain ⟨listed, kept⟩ := StoreRun.lockByStatus_ok (step_ok locked)
  obtain ⟨read, same⟩ := ruling_ok parsed
  obtain ⟨matched, same'⟩ := ruling_ok paired
  rw [← listed]
  refine ⟨sheet, updated, read, matched, rfl, ?_⟩
  rw [← last, saveAll_ok saved, same', same, kept]

/-! ### The batches -/

@[simp] theorem run_summarize (runId : String) (dryRun : Bool) (candidates : Nat)
    (result : SelectionResult) (failed : Nat) (b : Backends) :
    (summarize runId dryRun candidates result failed).run.run b =
      (.ok { runId, dryRun, candidates, result, failed, completedAt := b.now.toUTC.format }, b) :=
  rfl

theorem summarize_keeps {γ : Type} (view : Backends → γ) (runId : String) (dryRun : Bool)
    (candidates : Nat) (result : SelectionResult) (failed : Nat) :
    Keeps view (summarize runId dryRun candidates result failed) :=
  fun _ => rfl

theorem commitPass_keeps_keys (runId : String) (failed : SelectionResult → Nat)
    (work : StoreRun (Nat × SelectionResult)) : Keeps (·.keys) (commitPass runId failed work) :=
  (onStore_keeps_keys _).bind fun ⟨n, result⟩ => summarize_keeps _ runId false n result (failed result)

/-- A real pass's body touches the store only. When it fails the tables are as it
found them; when it succeeds its summary carries the run id and what its work
answered, and the tables are as the work left them. -/
theorem commitPass_run (runId : String) (failed : SelectionResult → Nat)
    (work : StoreRun (Nat × SelectionResult)) (keeps : Keeps (·.snapshot) work) (b : Backends) :
    match (commitPass runId failed work).run.run b with
    | (.error _, b') => b'.store.tables = b.store.tables
    | (.ok summary, b') => summary.runId = runId ∧ ∃ s₀ s₁, s₀.tables = b.store.tables ∧
        work.run.run s₀ = (.ok (summary.candidates, summary.result), s₁) ∧
        b'.store.tables = s₁.tables := by
  have atomic := onStore_withTx_run b work keeps
  simp only [commitPass, run_bind]
  rcases out : (onStore (StoreRun.withTx work)).run.run b with ⟨e | ⟨n, result⟩, b₁⟩ <;>
    rw [out] at atomic
  · exact atomic
  · exact ⟨rfl, atomic⟩

/-- A real pass's body whose transaction commits answers the summary of what its
work answered, under its run id. -/
theorem run_commitPass_of_committed (runId : String) (failed : SelectionResult → Nat)
    (work : StoreRun (Nat × SelectionResult)) {b : Backends} {n : Nat} {r : SelectionResult}
    {s' : ApplicationStore} (committed : (StoreRun.withTx work).run.run b.store = (.ok (n, r), s')) :
    (commitPass runId failed work).run.run b =
      (.ok { runId, dryRun := false, candidates := n, result := r, failed := failed r,
             completedAt := b.now.toUTC.format },
        { b with store := s' }) := by
  simp only [commitPass, run_bind, run_onStore, committed, run_summarize]

/-- A one-shot pass is all or nothing: when it fails nothing it wrote stays, and
when it succeeds it found its marker unset and its lease free, gave the lease back,
set its marker to its run id, and left the tables as its work did from the tables
it found. -/
theorem exclusively_commitPass_run (leaseKey marker : String) (distinct : leaseKey ≠ marker)
    (doneCode : String) (time : Int) (failed : SelectionResult → Nat)
    (work : StoreRun (Nat × SelectionResult)) (keeps : Keeps (·.snapshot) work) (b : Backends) :
    AllOrNothing (exclusively leaseKey marker doneCode time fun runId => commitPass runId failed work) b
      fun summary b' => b.keys.get? marker = none ∧ b.keys.get? leaseKey = none ∧
        b'.keys = b.keys.put marker summary.runId none ∧
        ∃ s₀ s₁, s₀.tables = b.store.tables ∧
          work.run.run s₀ = (.ok (summary.candidates, summary.result), s₁) ∧
          b'.store.tables = s₁.tables := by
  unfold AllOrNothing
  by_cases ready : b.keys.failure = none ∧ b.keys.get? marker = none ∧ b.keys.get? leaseKey = none
  · obtain ⟨working, unmarked, free⟩ := ready
    have settled := commitPass_run b.ids.next.2.next.1 failed work keeps
      { b with ids := b.ids.next.2.next.2, keys := b.keys.put leaseKey b.ids.next.1 (some time) }
    rcases body : (commitPass b.ids.next.2.next.1 failed work).run.run
        { b with ids := b.ids.next.2.next.2, keys := b.keys.put leaseKey b.ids.next.1 (some time) }
      with ⟨res, b₂⟩
    rw [body] at settled
    rw [exclusively_run_of_ready leaseKey marker doneCode time _ distinct
      (fun runId => commitPass_keeps_keys runId failed work) working unmarked free body]
    cases res with
    | error e => exact ⟨settled, rfl⟩
    | ok summary =>
      obtain ⟨named, rest⟩ := settled
      exact ⟨unmarked, free, by simp [Except.isOk, Except.toBool, named], rest⟩
  · obtain ⟨e, ids, stop⟩ := exclusively_run_of_busy leaseKey marker doneCode time _ ready
    rw [stop]
    exact ⟨rfl, rfl⟩

/-- A real first pass is a one-shot pass over the first round's work. -/
theorem firstPass_ends (s : SelectionSettings) (b : Backends) :
    AllOrNothing (firstPass s false) b fun summary b' =>
      b.keys.get? firstPassMarker = none ∧ b.keys.get? firstPassLease = none ∧
      b'.keys = b.keys.put firstPassMarker summary.runId none ∧
      ∃ s₀ s₁, s₀.tables = b.store.tables ∧
        (markFirstRound s.quota).run.run s₀ = (.ok (summary.candidates, summary.result), s₁) ∧
        b'.store.tables = s₁.tables := by
  simp only [firstPass, Bool.false_eq_true, if_false]
  exact exclusively_commitPass_run _ _ (by decide) _ _ _ _ (markFirstRound_keeps s.quota) b

/-- A real second pass is a one-shot pass over the second round's work. -/
theorem secondPass_ends (s : SelectionSettings) (b : Backends) :
    AllOrNothing (secondPass s false) b fun summary b' =>
      b.keys.get? secondPassMarker = none ∧ b.keys.get? secondPassLease = none ∧
      b'.keys = b.keys.put secondPassMarker summary.runId none ∧
      ∃ s₀ s₁, s₀.tables = b.store.tables ∧
        (markSecondRound s.quota).run.run s₀ = (.ok (summary.candidates, summary.result), s₁) ∧
        b'.store.tables = s₁.tables := by
  simp only [secondPass, Bool.false_eq_true, if_false]
  exact exclusively_commitPass_run _ _ (by decide) _ _ _ _ (markSecondRound_keeps s.quota) b

/-- A real first pass is all or nothing. When it succeeds it selected among the
received forms, moved exactly its passers to FIRST_PASSED, set its marker to its run
id and gave back its lease. -/
theorem firstPass_all_or_nothing (s : SelectionSettings) (b : Backends) :
    AllOrNothing (firstPass s false) b fun summary b' =>
      Selection.firstPass (b.store.tables.inStatuses ["RECEIVED"]) s.quota = .ok summary.result ∧
      b'.store.tables =
        (b.store.tables.moveStatus summary.result.passedIds "RECEIVED" "FIRST_PASSED").2 ∧
      b'.keys = b.keys.put firstPassMarker summary.runId none ∧
      b.keys.get? firstPassLease = none := by
  refine (firstPass_ends s b).mono ?_
  rintro summary b' ⟨-, free, marked, s₀, s₁, start, ran, finish⟩
  obtain ⟨selected, -, moved⟩ := markFirstRound_ok ran
  rw [start] at selected moved
  exact ⟨selected, finish.trans moved, marked, free⟩

/-- A real first pass that finds the key store working, its marker unset, its lease
free and no fault waiting in the store commits whenever its selection goes through
and every passer is still received: it moves exactly its passers to FIRST_PASSED,
sets its marker for good and leaves no fault behind. -/
theorem firstPass_commits (s : SelectionSettings) {b : Backends} (working : b.keys.failure = none)
    (unmarked : b.keys.get? firstPassMarker = none) (free : b.keys.get? firstPassLease = none)
    (faultless : b.store.faults = []) {r : SelectionResult}
    (selected : Selection.firstPass (b.store.tables.inStatuses ["RECEIVED"]) s.quota = .ok r)
    (current : (b.store.tables.moveStatus r.passedIds "RECEIVED" "FIRST_PASSED").1 = r.passedIds.length) :
    ∃ summary b', (firstPass s false).run.run b = (.ok summary, b') ∧ summary.result = r ∧
      b'.keys = b.keys.put firstPassMarker summary.runId none ∧ b'.store.faults = [] ∧
      b'.store.tables = (b.store.tables.moveStatus r.passedIds "RECEIVED" "FIRST_PASSED").2 := by
  obtain ⟨s', committed, faultless', tables'⟩ :=
    withTx_markFirstRound_of_faultless s.quota faultless selected current
  have body := run_commitPass_of_committed b.ids.next.2.next.1 (fun _ => 0) (markFirstRound s.quota)
    (b := { b with ids := b.ids.next.2.next.2,
                   keys := b.keys.put firstPassLease b.ids.next.1 (some s.leaseTime) })
    committed
  simp only [firstPass, Bool.false_eq_true, if_false]
  rw [exclusively_run_of_ready _ _ _ _ _ (by decide)
    (fun runId => commitPass_keeps_keys runId _ _) working unmarked free body]
  exact ⟨_, _, rfl, rfl, by simp [Except.isOk, Except.toBool], faultless', tables'⟩

/-- A real second pass is all or nothing. When it succeeds it selected among the
first-round passers, moved its passers to SECOND_PASSED and its failures to
SECOND_FAILED, set its marker to its run id and gave back its lease. -/
theorem secondPass_all_or_nothing (s : SelectionSettings) (b : Backends) :
    AllOrNothing (secondPass s false) b fun summary b' =>
      Selection.secondPass (b.store.tables.inStatuses ["FIRST_PASSED"]) s.quota = .ok summary.result ∧
      b'.store.tables =
        ((b.store.tables.moveStatus summary.result.passedIds "FIRST_PASSED" "SECOND_PASSED").2.moveStatus
          summary.result.failedIds "FIRST_PASSED" "SECOND_FAILED").2 ∧
      b'.keys = b.keys.put secondPassMarker summary.runId none ∧
      b.keys.get? secondPassLease = none := by
  refine (secondPass_ends s b).mono ?_
  rintro summary b' ⟨-, free, marked, s₀, s₁, start, ran, finish⟩
  obtain ⟨selected, -, moved⟩ := markSecondRound_ok ran
  rw [start] at selected moved
  exact ⟨selected, finish.trans moved, marked, free⟩

/-- A score import is its work in one transaction under its lease: when it fails the
tables and the key store are as they were; when it succeeds it gave its lease back
and left the tables as its work did from the tables it found. -/
theorem importScores_ends (s : SelectionSettings) (g : Grid) (b : Backends) :
    AllOrNothing (importScores s g) b fun summary b' =>
      b'.keys = b.keys ∧ b.keys.get? scoreImportLease = none ∧
      ∃ s₀ s₁, s₀.tables = b.store.tables ∧
        (recordScores s.quota g).run.run s₀ = (.ok (summary.rows, summary.present, summary.noShow), s₁) ∧
        b'.store.tables = s₁.tables := by
  have keepsLease : Keeps (fun b => (b.keys.failure, b.keys.get? scoreImportLease))
      (onStore (StoreRun.withTx (recordScores s.quota g))) :=
    (onStore_keeps_keys _).comp fun k => (k.failure, k.get? scoreImportLease)
  unfold AllOrNothing
  simp only [importScores, run_bind]
  by_cases ready : b.keys.failure = none ∧ b.keys.get? scoreImportLease = none
  · obtain ⟨working, free⟩ := ready
    have atomic := onStore_withTx_run
      { b with ids := b.ids.next.2, keys := b.keys.put scoreImportLease b.ids.next.1 (some s.leaseTime) }
      _ (recordScores_keeps s.quota g)
    rcases body : (onStore (StoreRun.withTx (recordScores s.quota g))).run.run
        { b with ids := b.ids.next.2, keys := b.keys.put scoreImportLease b.ids.next.1 (some s.leaseTime) }
      with ⟨res, b₂⟩
    rw [body] at atomic
    rw [underLease_run_of_free _ _ _ keepsLease working free body]
    -- the lease was the only key the import set, and it is given back
    have kept : b₂.keys = b.keys.put scoreImportLease b.ids.next.1 (some s.leaseTime) := by
      simpa [body] using onStore_keeps_keys (StoreRun.withTx (recordScores s.quota g))
        { b with ids := b.ids.next.2, keys := b.keys.put scoreImportLease b.ids.next.1 (some s.leaseTime) }
    have given : b₂.keys.remove scoreImportLease = b.keys := by
      rw [kept]
      exact KeyStore.remove_put_of_get?_eq_none _ _ _ _ free
    cases res with
    | error e => exact ⟨atomic, given⟩
    | ok counts =>
      obtain ⟨rows, present, noShow⟩ := counts
      simp only [run_stamp, run_pure]
      exact ⟨given, free, atomic⟩
  · obtain ⟨e, stop⟩ := underLease_run_of_busy _ _ _ ready
    rw [stop]
    exact ⟨rfl, rfl⟩

/-- A score import is all or nothing. When it succeeds it read the sheet against
the first-round passers, saved every form the pairing updated, and gave back its
lease. -/
theorem importScores_all_or_nothing (s : SelectionSettings) (g : Grid) (b : Backends) :
    AllOrNothing (importScores s g) b fun summary b' =>
      b'.keys = b.keys ∧ b.keys.get? scoreImportLease = none ∧
      ∃ sheet updated,
        Sheet.parse g (b.store.tables.inStatuses ["FIRST_PASSED"]).length s.quota = .ok sheet ∧
        SecondRound.apply (b.store.tables.inStatuses ["FIRST_PASSED"]) sheet = .ok updated ∧
        summary.rows = updated.length ∧
        b'.store.tables = updated.foldl (fun t a => (t.saveSecondRound a).2) b.store.tables := by
  refine (importScores_ends s g b).mono ?_
  rintro summary b' ⟨kept, free, s₀, s₁, start, work, finish⟩
  obtain ⟨sheet, updated, read, matched, counted, saved⟩ := recordScores_ok work
  rw [start] at read matched saved
  exact ⟨kept, free, sheet, updated, read, matched, counted, finish.trans saved⟩

/-- A dry run reads and selects only: the tables and the key store stay as they were. -/
theorem firstPass_dry_keeps (s : SelectionSettings) :
    Keeps (fun b => (b.store.tables, b.keys)) (firstPass s true) := by
  simp only [firstPass, if_true]
  exact (onStore_keeps (step_keeps ((StoreRun.listByStatus_keeps _).comp Prod.fst) _)).bind fun _ =>
    (onStore_keeps (ruling_keeps (·.tables) _)).bind fun _ => summarize_keeps _ _ _ _ _ _

theorem secondPass_dry_keeps (s : SelectionSettings) :
    Keeps (fun b => (b.store.tables, b.keys)) (secondPass s true) := by
  simp only [secondPass, if_true]
  exact (onStore_keeps (step_keeps ((StoreRun.listByStatus_keeps _).comp Prod.fst) _)).bind fun _ =>
    (onStore_keeps (ruling_keeps (·.tables) _)).bind fun _ => summarize_keeps _ _ _ _ _ _

end Admissions.Batch
