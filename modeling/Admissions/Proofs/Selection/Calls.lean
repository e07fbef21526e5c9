import Admissions.Proofs.Selection.Batch
import Admissions.Selection.Calls

namespace Admissions.Batch

open Run Service

variable {α : Type}

@[simp] theorem run_settle (r : Service α) (next : α → Stage) (stop : Fault → Stage) (b : Backends) :
    (settle r next stop).run.run b =
      (.ok (match (r.run.run b).1 with
        | .ok v => next v
        | .error e => stop e), (r.run.run b).2) := by
  simp only [settle, run_bind, run_outcome]
  rcases r.run.run b with ⟨_ | _, b'⟩ <;> rfl

namespace Job

variable (j : Job)

theorem advance_eq (st : Stage) (b : Backends) :
    j.advance st b = match (j.step st).run.run b with
      | (.ok next, b') => (next, b')
      | (.error e, b') => (.done (.error e), b') := rfl

/-! ### One equation for each stage -/

section Marked

variable {j} {marker code : String} (marks : j.marker? = some (marker, code))
include marks

theorem advance_start_of_marker (b : Backends) :
    if b.keys.failure = none ∧ b.keys.get? marker = none then j.advance .start b = (.checked, b)
    else ∃ e, j.advance .start b = (.done (.error e), b) := by
  have checked := checkMarker_run marker code b
  by_cases ready : b.keys.failure = none ∧ b.keys.get? marker = none
  · rw [if_pos ready] at checked ⊢
    simp only [advance_eq, step, marks, run_settle, checked]
  · rw [if_neg ready] at checked ⊢
    obtain ⟨e, failed⟩ := checked
    exact ⟨e, by simp only [advance_eq, step, marks, run_settle, failed]⟩

theorem advance_leased_of_marker (token : String) (b : Backends) :
    if b.keys.failure = none ∧ b.keys.get? marker = none then
      j.advance (.leased token) b = (.armed token b.ids.next.1, { b with ids := b.ids.next.2 })
    else ∃ e, j.advance (.leased token) b = (.releasing token (.error e), b) := by
  have checked := checkMarker_run marker code b
  by_cases ready : b.keys.failure = none ∧ b.keys.get? marker = none
  · rw [if_pos ready] at checked ⊢
    simp only [advance_eq, step, marks, run_settle, run_bind, checked, run_freshId]
  · rw [if_neg ready] at checked ⊢
    obtain ⟨e, failed⟩ := checked
    exact ⟨e, by simp only [advance_eq, step, marks, run_settle, run_bind, failed]⟩

theorem advance_committed_of_marker (token runId : String) (answer : Answer) (b : Backends) :
    j.advance (.committed token runId answer) b =
      (.releasing token (.ok answer), ((setMarker marker runId).run.run b).2) := by
  simp only [advance_eq, step, marks, run_bind, run_attempt, run_pure]

end Marked

theorem advance_lease {st : Stage} (leasing : st = .checked ∨ st = .start ∧ j.marker? = none)
    (b : Backends) :
    if b.keys.failure = none ∧ b.keys.get? j.leaseKey = none then
      j.advance st b = (.leased b.ids.next.1,
        { b with ids := b.ids.next.2, keys := b.keys.put j.leaseKey b.ids.next.1 (some j.settings.leaseTime) })
    else ∃ e, j.advance st b = (.done (.error e), { b with ids := b.ids.next.2 }) := by
  have taken := lease_run j.leaseKey j.settings.leaseTime b
  by_cases ready : b.keys.failure = none ∧ b.keys.get? j.leaseKey = none
  · rw [if_pos ready] at taken ⊢
    rcases leasing with rfl | ⟨rfl, unmarked⟩
    · simp only [advance_eq, step, run_settle, taken]
    · simp only [advance_eq, step, unmarked, run_settle, taken]
  · rw [if_neg ready] at taken ⊢
    obtain ⟨e, failed⟩ := taken
    refine ⟨e, ?_⟩
    rcases leasing with rfl | ⟨rfl, unmarked⟩
    · simp only [advance_eq, step, run_settle, failed]
    · simp only [advance_eq, step, unmarked, run_settle, failed]

theorem advance_armed (token runId : String) (b : Backends) :
    j.advance (.armed token runId) b = match (j.work runId).run.run b with
      | (.ok a, b') => (.committed token runId a, b')
      | (.error e, b') => (.releasing token (.error e), b') := by
  simp only [advance_eq, step, run_settle]
  rcases (j.work runId).run.run b with ⟨_ | _, b'⟩ <;> rfl

theorem advance_leased_of_unmarked (unmarked : j.marker? = none) (token : String) (b : Backends) :
    j.advance (.leased token) b = match (j.work "").run.run b with
      | (.ok a, b') => (.releasing token (.ok a), b')
      | (.error e, b') => (.releasing token (.error e), b') := by
  simp only [advance_eq, step, unmarked, run_settle]
  rcases (j.work "").run.run b with ⟨_ | _, b'⟩ <;> rfl

theorem advance_committed_of_unmarked (unmarked : j.marker? = none) (token runId : String)
    (answer : Answer) (b : Backends) :
    j.advance (.committed token runId answer) b = (.releasing token (.ok answer), b) := by
  simp only [advance_eq, step, unmarked, run_pure]

theorem advance_releasing (token : String) (outcome : Except Fault Answer) (b : Backends) :
    j.advance (.releasing token outcome) b =
      (.done outcome, ((releaseLease j.leaseKey token).run.run b).2) := by
  simp only [advance_eq, step, run_bind, run_attempt, run_pure]

@[simp] theorem advance_done (outcome : Except Fault Answer) (b : Backends) :
    j.advance (.done outcome) b = (.done outcome, b) := rfl

/-! ### The transaction -/

theorem work_keeps_keys (runId : String) : Keeps (·.keys) (j.work runId) := by
  cases j with
  | first s => exact (commitPass_keeps_keys runId _ _).bind fun _ => keeps_pure _
  | second s => exact (commitPass_keeps_keys runId _ _).bind fun _ => keeps_pure _
  | scores s g => exact (onStore_keeps_keys _).bind fun _ => keeps_pure _

end Job

/-! ### A call run alone -/

/-- A call's steps from one stage and backends, taken with nothing in between. -/
def Job.alone (j : Job) : Nat → Stage → Backends → Stage × Backends
  | 0, st, b => (st, b)
  | n + 1, st, b => j.alone n (j.advance st b).1 (j.advance st b).2

theorem Job.alone_succ (j : Job) (n : Nat) (st : Stage) (b : Backends) :
    j.alone (n + 1) st b = j.alone n (j.advance st b).1 (j.advance st b).2 := rfl

@[simp] theorem Job.alone_done (j : Job) (n : Nat) (outcome : Except Fault Answer) (b : Backends) :
    j.alone n (.done outcome) b = (.done outcome, b) := by
  induction n with
  | zero => rfl
  | succ n ih => rw [alone_succ, advance_done, ih]

/-- A one-shot pass run alone is its batch run as one piece: six steps take it from its
start to the end, with what `exclusively` answers and the backends it leaves. -/
theorem Job.alone_of_marker {j : Job} {marker code : String} (marks : j.marker? = some (marker, code))
    {body : String → Service PassSummary}
    (works : ∀ runId, j.work runId = body runId >>= fun summary => pure (.pass summary))
    (b : Backends) :
    j.alone 6 .start b =
      (.done (((exclusively j.leaseKey marker code j.settings.leaseTime body).run.run b).1.map .pass),
        ((exclusively j.leaseKey marker code j.settings.leaseTime body).run.run b).2) := by
  -- the runs are taken apart at the same commands: each check, the lease and the body
  have keeps := checkMarker_keeps id marker code
  rcases first : (checkMarker marker code).run.run b with ⟨e | u, b'⟩
  · have same : b' = b := by simpa [first] using keeps b
    subst same
    have stop : j.advance .start b' = (.done (.error e), b') := by
      simp only [advance_eq, step, marks, run_settle, first]
    rw [alone_succ, stop, alone_done]
    simp only [exclusively, run_bind, first]
    rfl
  have same : b' = b := by simpa [first] using keeps b
  subst same
  have checked : j.advance .start b' = (.checked, b') := by
    simp only [advance_eq, step, marks, run_settle, first]
  rw [alone_succ, checked]
  rcases taken : (lease j.leaseKey j.settings.leaseTime).run.run b' with ⟨e | token, b₁⟩
  · have stop : j.advance .checked b' = (.done (.error e), b₁) := by
      simp only [advance_eq, step, run_settle, taken]
    rw [alone_succ, stop, alone_done]
    simp only [exclusively, run_bind, first, underLease, taken]
    rfl
  have leased : j.advance .checked b' = (.leased token, b₁) := by
    simp only [advance_eq, step, run_settle, taken]
  rw [alone_succ, leased]
  rcases again : (checkMarker marker code).run.run b₁ with ⟨e | u', b₁'⟩
  · have same₁ : b₁' = b₁ := by simpa [again] using keeps b₁
    subst same₁
    have stop : j.advance (.leased token) b₁' = (.releasing token (.error e), b₁') := by
      simp only [advance_eq, step, marks, run_settle, run_bind, again]
    rw [alone_succ, stop, alone_succ, advance_releasing, alone_done]
    simp only [exclusively, run_bind, first, underLease, taken, run_outcome, marked, again,
      run_attempt, run_ofExcept]
    rfl
  have same₁ : b₁' = b₁ := by simpa [again] using keeps b₁
  subst same₁
  have armed : j.advance (.leased token) b₁' =
      (.armed token b₁'.ids.next.1, { b₁' with ids := b₁'.ids.next.2 }) := by
    simp only [advance_eq, step, marks, run_settle, run_bind, again, run_freshId]
  rw [alone_succ, armed, alone_succ, advance_armed, works]
  rcases ran : (body b₁'.ids.next.1).run.run { b₁' with ids := b₁'.ids.next.2 } with ⟨e | v, b₂⟩
  · simp only [run_bind, ran, alone_succ, advance_releasing]
    simp only [exclusively, run_bind, first, underLease, taken, run_outcome, marked, again,
      run_freshId, ran, run_attempt, run_ofExcept]
    rfl
  · simp only [run_bind, ran, run_pure, alone_succ, advance_committed_of_marker marks,
      advance_releasing, alone_done]
    simp only [exclusively, run_bind, first, underLease, taken, run_outcome, marked, again,
      run_freshId, ran, run_attempt, run_pure, run_ofExcept]
    rfl

/-- A real first pass run alone is the batch `firstPass s false`. -/
theorem Job.alone_first (s : SelectionSettings) (b : Backends) :
    (Job.first s).alone 6 .start b =
      (.done (((firstPass s false).run.run b).1.map .pass), ((firstPass s false).run.run b).2) := by
  simp only [firstPass, Bool.false_eq_true, if_false]
  exact Job.alone_of_marker rfl (fun _ => rfl) b

/-- A real second pass run alone is the batch `secondPass s false`. -/
theorem Job.alone_second (s : SelectionSettings) (b : Backends) :
    (Job.second s).alone 6 .start b =
      (.done (((secondPass s false).run.run b).1.map .pass), ((secondPass s false).run.run b).2) := by
  simp only [secondPass, Bool.false_eq_true, if_false]
  exact Job.alone_of_marker rfl (fun _ => rfl) b

/-- A score import run alone is the batch `importScores s g`, its summary less the time
it was stamped with. -/
theorem Job.alone_scores (s : SelectionSettings) (g : Grid) (b : Backends) :
    (Job.scores s g).alone 6 .start b =
      (.done (((importScores s g).run.run b).1.map fun summary =>
          .counts summary.rows summary.present summary.noShow),
        ((importScores s g).run.run b).2) := by
  have unmarked : (Job.scores s g).marker? = none := rfl
  rcases taken : (lease scoreImportLease s.leaseTime).run.run b with ⟨e | token, b₁⟩
  · have stop : (Job.scores s g).advance .start b = (.done (.error e), b₁) := by
      simp only [advance_eq, step, unmarked, run_settle, Job.leaseKey, Job.settings, taken]
    rw [alone_succ, stop, alone_done]
    simp only [importScores, underLease, run_bind, taken]
    rfl
  have leased : (Job.scores s g).advance .start b = (.leased token, b₁) := by
    simp only [advance_eq, step, unmarked, run_settle, Job.leaseKey, Job.settings, taken]
  rw [alone_succ, leased, alone_succ, advance_leased_of_unmarked _ unmarked]
  rcases ran : (onStore (StoreRun.withTx (recordScores s.quota g))).run.run b₁
    with ⟨e | ⟨rows, present, noShow⟩, b₂⟩
  · simp only [Job.work, run_bind, ran, alone_succ, advance_releasing]
    simp only [importScores, underLease, run_bind, taken, run_outcome, ran, run_attempt,
      run_ofExcept]
    rfl
  · simp only [Job.work, run_bind, ran, run_pure, alone_succ, advance_releasing]
    simp only [importScores, underLease, run_bind, taken, run_outcome, ran, run_attempt,
      run_ofExcept, run_stamp, run_pure]
    rfl

/-! ### Runs of the system -/

namespace System

variable {sys : System} {i : Nat} {c : Call}

@[simp] theorem runs_nil (sys : System) : sys.runs [] = sys := rfl

@[simp] theorem runs_cons (sys : System) (e : Event) (events : List Event) :
    sys.runs (e :: events) = (sys.apply e).runs events := rfl

theorem runs_append (sys : System) (events more : List Event) :
    sys.runs (events ++ more) = (sys.runs events).runs more :=
  List.foldl_append

theorem apply_step (found : sys.calls[i]? = some c) :
    sys.apply (.step i) =
      { backends := (c.job.advance c.stage sys.backends).2,
        calls := sys.calls.set i ⟨c.job, (c.job.advance c.stage sys.backends).1⟩ } := by
  simp only [apply, moveCall, found]

theorem apply_stepLost (found : sys.calls[i]? = some c) (text : String) :
    sys.apply (.stepLost i text) =
      { backends := (c.job.advanceLost c.stage text sys.backends).2,
        calls := sys.calls.set i ⟨c.job, (c.job.advanceLost c.stage text sys.backends).1⟩ } := by
  simp only [apply, moveCall, found]

theorem apply_call (j : Job) : sys.apply (.call j) = ⟨sys.backends, sys.calls ++ [⟨j, .start⟩]⟩ :=
  rfl

theorem apply_step_of {j : Job} {st st' : Stage} {b' : Backends}
    (found : sys.calls[i]? = some ⟨j, st⟩) (moved : j.advance st sys.backends = (st', b')) :
    sys.apply (.step i) = ⟨b', sys.calls.set i ⟨j, st'⟩⟩ := by
  rw [apply_step found, moved]

theorem runs_steps (found : sys.calls[i]? = some c) (n : Nat) :
    sys.runs (List.replicate n (.step i)) =
      { backends := (c.job.alone n c.stage sys.backends).2,
        calls := sys.calls.set i ⟨c.job, (c.job.alone n c.stage sys.backends).1⟩ } := by
  induction n generalizing sys c with
  | zero =>
    obtain ⟨within, atIndex⟩ := List.getElem?_eq_some_iff.mp found
    have kept : sys.calls.set i ⟨c.job, c.stage⟩ = sys.calls := by
      rw [← atIndex]
      exact List.set_getElem_self within
    simp only [List.replicate_zero, runs_nil, Job.alone, kept]
  | succ n ih =>
    have moved : (sys.apply (.step i)).calls[i]? = some ⟨c.job, (c.job.advance c.stage sys.backends).1⟩ := by
      have within : i < sys.calls.length := (List.getElem?_eq_some_iff.mp found).1
      rw [apply_step found, List.getElem?_set_self within]
    rw [List.replicate_succ, runs_cons, ih moved, apply_step found, List.set_set, Job.alone_succ]

/-- A call that comes in and then runs alone for `n` steps. -/
theorem runs_call_alone (b : Backends) (j : Job) (n : Nat) :
    (System.mk b []).runs (.call j :: List.replicate n (.step 0)) =
      { backends := (j.alone n .start b).2, calls := [⟨j, (j.alone n .start b).1⟩] } := by
  rw [runs_cons, runs_steps (c := ⟨j, .start⟩) rfl]
  rfl

end System

end Admissions.Batch
