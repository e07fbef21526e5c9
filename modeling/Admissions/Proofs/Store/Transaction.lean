import Admissions.Proofs.Run
import Admissions.Store.Repository

namespace Admissions

namespace ApplicationStore

/-- The part of the store a transaction answers for: the tables, and the
snapshot an open transaction took of them. -/
def guarded (s : ApplicationStore) : Tables × Option Tables := (s.tables, s.snapshot)

/-- Meeting the faults uses one up at most; the tables are not touched. -/
@[simp] theorem fire_guarded (s : ApplicationStore) (text : String) :
    (s.fire text).2.guarded = s.guarded := by
  unfold fire
  split
  · rfl
  · split <;> rfl

/-- With no fault waiting, nothing answers a statement and the store is not touched. -/
theorem fire_of_faults_eq_nil {s : ApplicationStore} (faultless : s.faults = []) (text : String) :
    s.fire text = (none, s) := by
  simp [fire, faultless]

@[simp] theorem note_tables (s : ApplicationStore) (name : String) :
    (s.note name).tables = s.tables := rfl

@[simp] theorem note_snapshot (s : ApplicationStore) (name : String) :
    (s.note name).snapshot = s.snapshot := rfl

@[simp] theorem note_guarded (s : ApplicationStore) (name : String) :
    (s.note name).guarded = s.guarded := rfl

end ApplicationStore

@[simp] theorem Tables.moveStatus_nil (t : Tables) (source target : String) :
    (t.moveStatus [] source target).2 = t := by
  simp [Tables.moveStatus, Tables.updateWhere]

theorem Run.Keeps.within {α γ : Type} {view : ApplicationStore → γ} {r : StoreRun α}
    (keeps : Run.Keeps view r) (context : String) : Run.Keeps view (StoreRun.within context r) :=
  keeps.tryCatch fun _ => Run.keeps_throw _

namespace StoreRun

open Run

@[simp] theorem run_tables (s : ApplicationStore) : tables.run.run s = (.ok s.tables, s) := rfl

@[simp] theorem run_setTables (t : Tables) (s : ApplicationStore) :
    (setTables t).run.run s = (.ok ⟨⟩, { s with tables := t }) := rfl

@[simp] theorem run_condition {α : Type} (name detail : String) (s : ApplicationStore) :
    (condition name detail : StoreRun α).run.run s =
      (.error ⟨name ++ ": " ++ detail, .condition name⟩, s) :=
  rfl

theorem send_keeps (text name : String) : Keeps ApplicationStore.guarded (send text name) := by
  intro s
  have fired := s.fire_guarded text
  simp only [send, run_get_bind]
  rcases hit : s.fire text with ⟨_ | e, s'⟩ <;> simp only [hit] at fired
  · simp [fired]
  · simp only [run_bind, run_set]
    exact fired

theorem attempt_keeps (st : Statement) : Keeps ApplicationStore.guarded (attempt st) :=
  send_keeps _ _

theorem retried_keeps : ∀ (tries : Nat) (st : Statement),
    Keeps ApplicationStore.guarded (retried tries st)
  | 0, st => attempt_keeps st
  | tries + 1, st => (attempt_keeps st).tryCatch fun e => by
    cases e.cause with
    | badConnection => exact retried_keeps tries st
    | _ => exact keeps_throw e

theorem outside_keeps (st : Statement) : Keeps ApplicationStore.guarded (outside st) :=
  retried_keeps 2 st

/-- A read without locks keeps the store's tables. -/
theorem listByStatus_keeps (statuses : List String) :
    Keeps ApplicationStore.guarded (listByStatus statuses) :=
  ((outside_keeps .listByStatus).bind fun _ =>
    (show Keeps ApplicationStore.guarded tables from fun _ => rfl).bind fun _ => keeps_pure _).within _

/-- A read under a lock keeps the store's tables and answers the forms in the
statuses asked for. -/
theorem lockByStatus_run (statuses : List String) (s : ApplicationStore) :
    ((lockByStatus statuses).run.run s).2.guarded = s.guarded ∧
      ∀ v s', (lockByStatus statuses).run.run s = (.ok v, s') →
        v = s.tables.inStatuses statuses := by
  have quiet := attempt_keeps .lockByStatus s
  simp only [lockByStatus, within, tables, run_tryCatch, run_bind]
  rcases out : (attempt .lockByStatus).run.run s with ⟨e | _, s₁⟩ <;>
    simp only [out] at quiet ⊢
  · exact ⟨quiet, fun _ _ failed => by cases failed⟩
  · refine ⟨quiet, ?_⟩
    rintro v s' ⟨⟩
    simp [ApplicationStore.guarded] at quiet
    rw [quiet.1]

theorem lockByStatus_keeps (statuses : List String) :
    Keeps ApplicationStore.guarded (lockByStatus statuses) :=
  fun s => (lockByStatus_run statuses s).1

theorem lockByStatus_ok {statuses : List String} {s s' : ApplicationStore} {v : List Application}
    (ok : (lockByStatus statuses).run.run s = (.ok v, s')) :
    v = s.tables.inStatuses statuses ∧ s'.tables = s.tables := by
  obtain ⟨quiet, read⟩ := lockByStatus_run statuses s
  rw [ok] at quiet read
  exact ⟨read v s' rfl, congrArg Prod.fst quiet⟩

/-! ### The three status writes

Each write is guarded, then runs one statement and a table operation, and checks
that the operation changed as many forms as it should. -/

def staleStatus (detail : String) : Fault := ⟨"STALE_STATUS: " ++ detail, .condition "STALE_STATUS"⟩

theorem condition_staleStatus (detail : String) :
    (condition "STALE_STATUS" detail : StoreRun α) = throw (staleStatus detail) := by
  simp only [condition, staleStatus, String.append_assoc]
  rfl

/-- What the three status writes share once their guard lets them through: the
statement, the table operation, and the check that it changed as many forms as it
should. -/
def checkedWrite (context : String) (st : Statement) (op : Tables → Nat × Tables) (expected : Nat)
    (stale : Nat → String) : StoreRun Unit := do
  within context (attempt st)
  let (n, t) := op (← tables)
  setTables t
  if n ≠ expected then condition "STALE_STATUS" (stale n)

section CheckedWrite

variable (context : String) (st : Statement) (op : Tables → Nat × Tables) (expected : Nat)
  (stale : Nat → String)

theorem checkedWrite_run (s : ApplicationStore) :
    (checkedWrite context st op expected stale).run.run s =
      match (within context (attempt st)).run.run s with
      | (.error e, s₁) => (.error e, s₁)
      | (.ok _, s₁) =>
        (if (op s₁.tables).1 = expected then .ok () else .error (staleStatus (stale (op s₁.tables).1)),
          { s₁ with tables := (op s₁.tables).2 }) := by
  simp only [checkedWrite, run_bind]
  rcases (within context (attempt st)).run.run s with ⟨e | _, s₁⟩
  · rfl
  · simp only [run_tables, run_setTables]
    by_cases current : (op s₁.tables).1 = expected
    · simp only [current, ne_eq, not_true_eq_false, if_true, if_false, run_pure]
    · simp only [current, ne_eq, not_false_eq_true, if_true, if_false, condition_staleStatus, run_throw]

theorem checkedWrite_keeps_snapshot : Keeps (·.snapshot) (checkedWrite context st op expected stale) := by
  intro s
  have quiet := (attempt_keeps st).within context s
  rw [checkedWrite_run]
  rcases out : (within context (attempt st)).run.run s with ⟨e | _, s₁⟩ <;>
    simp only [out, ApplicationStore.guarded, Prod.mk.injEq] at quiet ⊢ <;> exact quiet.2

/-- A write that goes through changed exactly as many forms as it should, and left
the tables as its table operation does. -/
theorem checkedWrite_ok {s s' : ApplicationStore}
    (ok : (checkedWrite context st op expected stale).run.run s = (.ok (), s')) :
    (op s.tables).1 = expected ∧ s'.tables = (op s.tables).2 := by
  have quiet := (attempt_keeps st).within context s
  rw [checkedWrite_run] at ok
  rcases out : (within context (attempt st)).run.run s with ⟨e | _, s₁⟩ <;>
    simp only [out, ApplicationStore.guarded, Prod.mk.injEq] at quiet ok
  · cases ok
  · rw [← quiet.1]
    by_cases current : (op s₁.tables).1 = expected
    · simp only [current, if_true, outcome_eq_iff] at ok
      exact ⟨current, by rw [← ok.2]⟩
    · simp only [current, if_false] at ok
      cases ok

end CheckedWrite

/-- A move by ids: nothing without ids, a refusal of a move the statuses do not
allow, and otherwise the checked write of the forms of those ids still in `source`. -/
theorem run_updateStatus (ids : List String) (source target : String) (s : ApplicationStore) :
    (updateStatus ids source target).run.run s =
      if ids.isEmpty then (.ok (), s)
      else if Status.canTransition source target then
        (checkedWrite "update status" .updateStatus (·.moveStatus ids source target) ids.length
          fun n => toString n ++ " of " ++ toString ids.length ++ " applications were in " ++ source).run.run s
      else (badTransition source target : StoreRun Unit).run.run s := by
  unfold updateStatus
  by_cases empty : ids.isEmpty
  · simp only [empty, if_true, run_pure]
  · by_cases allowed : Status.canTransition source target = true
    · simp only [empty, allowed, Bool.not_true, Bool.false_eq_true, if_false, if_true]
      rfl
    · have refused : Status.canTransition source target = false := Bool.eq_false_iff.mpr allowed
      simp only [empty, refused, Bool.not_false, Bool.false_eq_true, if_true, if_false, badTransition, run_bind,
        run_condition]

/-- A rejection: the checked write of the form of the id if still in `source`, when
REJECTED may follow `source`. -/
theorem run_reject (id source reason : String) (s : ApplicationStore) :
    (reject id source reason).run.run s =
      if Status.canTransition source Status.rejected.code then
        (checkedWrite "reject application" .reject (·.reject id source reason) 1
          fun _ => "application " ++ id ++ " is no longer " ++ source).run.run s
      else (badTransition source Status.rejected.code : StoreRun Unit).run.run s := by
  unfold reject
  by_cases allowed : Status.canTransition source "REJECTED" = true
  · simp only [Status.code, allowed, Bool.not_true, Bool.false_eq_true, if_false, if_true]
    rfl
  · have refused : Status.canTransition source "REJECTED" = false := Bool.eq_false_iff.mpr allowed
    simp only [Status.code, refused, Bool.not_false, Bool.false_eq_true, if_true, if_false, badTransition,
      run_bind, run_condition]

/-- Saving second-round scores: unlike the other two writes, the guard lets through a
form that stays FIRST_PASSED as well as one an allowed move away. -/
theorem run_saveSecondRound (a : Application) (s : ApplicationStore) :
    (saveSecondRound a).run.run s =
      if a.status = Status.firstPassed.code ∨ Status.canTransition Status.firstPassed.code a.status then
        (checkedWrite "save second round" .saveSecondRound (·.saveSecondRound a) 1
          fun _ => "application " ++ a.id ++ " is no longer FIRST_PASSED").run.run s
      else (badTransition Status.firstPassed.code a.status : StoreRun Unit).run.run s := by
  unfold saveSecondRound
  by_cases allowed : a.status = Status.firstPassed.code ∨ Status.canTransition Status.firstPassed.code a.status
  · have passes : (a.status != "FIRST_PASSED" && !Status.canTransition "FIRST_PASSED" a.status) = false := by
      rcases allowed with kept | moved
      · simp only [kept, Status.code, bne_self_eq_false, Bool.false_and]
      · simp only [Status.code] at moved
        simp only [moved, Bool.not_true, Bool.and_false]
    simp only [allowed, passes, Bool.false_eq_true, if_false, if_true]
    rfl
  · have refused : (a.status != "FIRST_PASSED" && !Status.canTransition "FIRST_PASSED" a.status) = true := by
      simp only [not_or, Status.code] at allowed
      simp [allowed]
    rw [if_neg allowed]
    simp only [refused, if_true, badTransition, run_bind, run_condition]
    rfl

/-- A status move keeps the snapshot and, when it goes through, leaves the
tables as the table operation says. -/
theorem updateStatus_run (ids : List String) (source target : String) (s : ApplicationStore) :
    ((updateStatus ids source target).run.run s).2.snapshot = s.snapshot ∧
      ∀ s', (updateStatus ids source target).run.run s = (.ok (), s') →
        s'.tables = (s.tables.moveStatus ids source target).2 := by
  rw [run_updateStatus]
  by_cases empty : ids.isEmpty = true
  · rw [if_pos empty]
    refine ⟨rfl, ?_⟩
    rintro s' ⟨⟩
    rw [List.isEmpty_iff.mp empty, Tables.moveStatus_nil]
  · rw [if_neg empty]
    by_cases allowed : Status.canTransition source target = true
    · rw [if_pos allowed]
      exact ⟨checkedWrite_keeps_snapshot _ _ _ _ _ s, fun _ ok => (checkedWrite_ok _ _ _ _ _ ok).2⟩
    · rw [if_neg allowed]
      exact ⟨rfl, fun _ failed => by cases failed⟩

theorem updateStatus_keeps (ids : List String) (source target : String) :
    Keeps (·.snapshot) (updateStatus ids source target) :=
  fun s => (updateStatus_run ids source target s).1

/-- Saving second-round scores keeps the snapshot and, when it goes through,
leaves the tables as the table operation says. -/
theorem saveSecondRound_run (a : Application) (s : ApplicationStore) :
    ((saveSecondRound a).run.run s).2.snapshot = s.snapshot ∧
      ∀ s', (saveSecondRound a).run.run s = (.ok (), s') →
        s'.tables = (s.tables.saveSecondRound a).2 := by
  rw [run_saveSecondRound]
  by_cases allowed : a.status = Status.firstPassed.code ∨ Status.canTransition Status.firstPassed.code a.status
  · rw [if_pos allowed]
    exact ⟨checkedWrite_keeps_snapshot _ _ _ _ _ s, fun _ ok => (checkedWrite_ok _ _ _ _ _ ok).2⟩
  · rw [if_neg allowed]
    exact ⟨rfl, fun _ failed => by cases failed⟩

theorem saveSecondRound_keeps (a : Application) : Keeps (·.snapshot) (saveSecondRound a) :=
  fun s => (saveSecondRound_run a s).1

/-- A transaction is all or nothing: when it fails, for whatever reason, the
tables are as it found them; when it succeeds, they are as its body left them,
run from the tables it found. -/
theorem withTx_run {α : Type} (body : StoreRun α) (keeps : Keeps (·.snapshot) body)
    (s : ApplicationStore) :
    match (withTx body).run.run s with
    | (.error _, s') => s'.tables = s.tables
    | (.ok v, s') => ∃ s₀ s₁, s₀.tables = s.tables ∧ body.run.run s₀ = (.ok v, s₁) ∧
        s'.tables = s₁.tables := by
  have began := ((outside_keeps .begin).within "begin transaction") s
  simp only [withTx, run_bind, run_modify]
  rcases start : (within "begin transaction" (outside .begin)).run.run s with ⟨e | _, s₁⟩ <;>
    simp only [start, ApplicationStore.guarded, Prod.mk.injEq] at began ⊢
  · exact began.1
  · have kept := keeps { s₁ with snapshot := some s₁.tables }
    simp only [run_tryCatch, run_map]
    rcases ran : body.run.run { s₁ with snapshot := some s₁.tables } with ⟨e | v, s₂⟩ <;>
      simp only [ran] at kept ⊢
    · simp only [run_pure, rollback, restore, run_bind, run_modify, run_throw,
        ApplicationStore.note_snapshot, kept, Option.getD_some]
      exact began.1
    · have settled := (attempt_keeps .commit) s₂
      simp only [commit, within, run_tryCatch, run_bind, run_modify, run_pure, restore, run_throw]
      rcases committed : (attempt .commit).run.run s₂ with ⟨e | _, s₃⟩ <;>
        simp only [committed, ApplicationStore.guarded, Prod.mk.injEq] at settled ⊢
      · rw [settled.2, kept, Option.getD_some, began.1]
      · exact ⟨{ s₁ with snapshot := some s₁.tables }, s₂, began.1, ran, settled.1⟩

/-! ### A store with no faults waiting

With no fault injected every statement goes through and only adds its name to the
log, so a run stops only where its own checks refuse. -/

section Faultless

variable {s : ApplicationStore} (faultless : s.faults = [])
include faultless

theorem run_send_of_faultless (text name : String) :
    (send text name).run.run s = (.ok (), s.note name) := by
  simp only [send, run_get_bind, ApplicationStore.fire_of_faults_eq_nil faultless, run_set]

theorem run_retried_of_faultless (tries : Nat) (st : Statement) :
    (retried tries st).run.run s = (.ok (), s.note st.kind) := by
  cases tries with
  | zero => exact run_send_of_faultless faultless _ _
  | succ tries => simp only [retried, run_tryCatch, attempt, run_send_of_faultless faultless]

theorem run_lockByStatus_of_faultless (statuses : List String) :
    (lockByStatus statuses).run.run s =
      (.ok (s.tables.inStatuses statuses), s.note Statement.lockByStatus.kind) := by
  simp only [lockByStatus, within, run_tryCatch, run_bind, attempt, run_send_of_faultless faultless,
    run_tables, ApplicationStore.note_tables, run_pure]

/-- With no fault waiting, a checked write runs its statement and its table
operation, and fails with STALE_STATUS unless the operation changed as many forms as
it should. -/
theorem checkedWrite_run_of_faultless (context : String) (st : Statement) (op : Tables → Nat × Tables)
    (expected : Nat) (stale : Nat → String) :
    (checkedWrite context st op expected stale).run.run s =
      (if (op s.tables).1 = expected then .ok () else .error (staleStatus (stale (op s.tables).1)),
        { s.note st.kind with tables := (op s.tables).2 }) := by
  rw [checkedWrite_run, within, run_tryCatch, attempt, run_send_of_faultless faultless]
  rfl

/-- A move whose forms are all still in the status it moves them from goes through. -/
theorem run_updateStatus_of_faultless (ids : List String) (source target : String)
    (allowed : Status.canTransition source target = true)
    (current : (s.tables.moveStatus ids source target).1 = ids.length) :
    ∃ s', (updateStatus ids source target).run.run s = (.ok (), s') ∧ s'.faults = [] ∧
      s'.tables = (s.tables.moveStatus ids source target).2 := by
  cases ids with
  | nil => exact ⟨s, rfl, faultless, by simp⟩
  | cons id rest =>
    refine ⟨{ s.note Statement.updateStatus.kind with
      tables := (s.tables.moveStatus (id :: rest) source target).2 }, ?_, faultless, rfl⟩
    rw [run_updateStatus, if_neg (by simp), if_pos allowed, checkedWrite_run_of_faultless faultless, if_pos current]

/-- A transaction whose body succeeds, leaving no fault waiting, commits: the
store keeps what the body wrote. -/
theorem run_withTx_of_faultless {α : Type} {body : StoreRun α} {v : α} {s₁ : ApplicationStore}
    (ran : body.run.run { s.note Statement.begin.kind with snapshot := some s.tables } = (.ok v, s₁))
    (faultless₁ : s₁.faults = []) :
    (withTx body).run.run s = (.ok v, { s₁.note Statement.commit.kind with snapshot := none }) := by
  simp only [ApplicationStore.note_tables] at ran
  simp only [withTx, run_bind, within, run_tryCatch, outside, run_retried_of_faultless faultless,
    run_modify, run_map, ApplicationStore.note_tables, ran, commit, attempt,
    run_send_of_faultless faultless₁, run_pure]

end Faultless

end Admissions.StoreRun
