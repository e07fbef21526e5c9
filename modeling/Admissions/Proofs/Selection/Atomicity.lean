import Admissions.Proofs.Selection.Calls
import Admissions.Proofs.Locks.Ownership

namespace Admissions.Batch

open Run Service

/-- What a call's committed transaction did to the tables, read off its answer: a pass
selected and moved exactly its result's rows, an import saved exactly the forms its sheet
updated. -/
def Job.Effect : Job → Answer → Tables → Tables → Prop
  | .first s, .pass summary, t, t' =>
    Selection.firstPass (t.inStatuses ["RECEIVED"]) s.quota = .ok summary.result ∧
      t' = (t.moveStatus summary.result.passedIds "RECEIVED" "FIRST_PASSED").2
  | .second s, .pass summary, t, t' =>
    Selection.secondPass (t.inStatuses ["FIRST_PASSED"]) s.quota = .ok summary.result ∧
      t' = ((t.moveStatus summary.result.passedIds "FIRST_PASSED" "SECOND_PASSED").2.moveStatus
        summary.result.failedIds "FIRST_PASSED" "SECOND_FAILED").2
  | .scores s g, .counts rows _ _, t, t' =>
    ∃ sheet updated, Sheet.parse g (t.inStatuses ["FIRST_PASSED"]).length s.quota = .ok sheet ∧
      SecondRound.apply (t.inStatuses ["FIRST_PASSED"]) sheet = .ok updated ∧
      rows = updated.length ∧ t' = updated.foldl (fun t a => (t.saveSecondRound a).2) t
  | _, _, _, _ => False

/-- A step that commits a call's transaction with an answer: a pass's from armed, an
import's from its lease. -/
def Job.Commits (j : Job) (st st' : Stage) (answer : Answer) : Prop :=
  (∃ token runId, st = .armed token runId ∧ st' = .committed token runId answer) ∨
    (j.marker? = none ∧ ∃ token, st = .leased token ∧ st' = .releasing token (.ok answer))

/-- The token of the lease a call holds, from taking it to its last step. -/
def Stage.token? : Stage → Option String
  | .leased t | .armed t _ | .committed t _ _ | .releasing t _ => some t
  | _ => none

/-- The answer a call has committed, from its transaction to its end. -/
def Stage.answer? : Stage → Option Answer
  | .committed _ _ a | .releasing _ (.ok a) | .done (.ok a) => some a
  | _ => none

/-- One step of call `j` from `st` on backends `b`, reaching `st'` and `b'`, is all or
nothing. The tables change only by a committed transaction, by exactly its result, and a
call has an answer only from that step on, and keeps it. A pass's marker is written only
by the step after its committed transaction, to its run id. A lease is taken only while
the key store works and its key is free, with the lease time; the call keeps its token to
its last step, which runs the release script and ends the call with its outcome. -/
structure AllOrNothingStep (j : Job) (st : Stage) (b : Backends) (st' : Stage) (b' : Backends) :
    Prop where
  tables : b'.store.tables = b.store.tables ∨
    ∃ a, j.Commits st st' a ∧ j.Effect a b.store.tables b'.store.tables
  answers : ∀ a, st'.answer? = some a → st.answer? = some a ∨ j.Commits st st' a
  keepsAnswer : ∀ a, st.answer? = some a → st'.answer? = some a
  marker : ∀ m, m = firstPassMarker ∨ m = secondPassMarker →
    b'.keys.get? m = b.keys.get? m ∨ ∃ code token runId a, j.marker? = some (m, code) ∧
      st = .committed token runId a ∧ b'.keys.get? m = some runId
  takes : ∀ t, st'.token? = some t → st.token? = some t ∨
    (b.keys.failure = none ∧ b.keys.get? j.leaseKey = none ∧
      b'.keys.lookup? j.leaseKey = some ⟨j.leaseKey, t, some j.settings.leaseTime⟩)
  holds : ∀ t, st.token? = some t → st'.token? = some t ∨ ∃ o, st = .releasing t o ∧ st' = .done o
  gives : ∀ t o, st = .releasing t o → st' = .done o ∧ b'.keys =
    if b.keys.failure = none ∧ b.keys.get? j.leaseKey = some t then b.keys.remove j.leaseKey
    else b.keys

namespace Job

theorem leaseKey_ne_marker (j : Job) {m : String} (pass : m = firstPassMarker ∨ m = secondPassMarker) :
    j.leaseKey ≠ m := by
  rcases pass with rfl | rfl <;> cases j <;> simp only [leaseKey] <;> decide

/-- A call's transaction either fails and leaves the tables as they were, or commits and
changes them by exactly its result. -/
theorem work_tables (j : Job) (runId : String) (b : Backends) :
    match (j.work runId).run.run b with
    | (.error _, b') => b'.store.tables = b.store.tables
    | (.ok a, b') => j.Effect a b.store.tables b'.store.tables := by
  cases j with
  | first s =>
    have settled := commitPass_run runId (fun _ => 0) _ (markFirstRound_keeps s.quota) b
    simp only [work, run_bind]
    rcases ran : (commitPass runId (fun _ => 0) (markFirstRound s.quota)).run.run b with
      ⟨e | summary, b'⟩ <;> rw [ran] at settled
    · exact settled
    · obtain ⟨-, s₀, s₁, start, work, finish⟩ := settled
      obtain ⟨selected, -, moved⟩ := markFirstRound_ok work
      rw [start] at selected moved
      exact ⟨selected, finish.trans moved⟩
  | second s =>
    have settled := commitPass_run runId (·.failedIds.length) _ (markSecondRound_keeps s.quota) b
    simp only [work, run_bind]
    rcases ran : (commitPass runId (·.failedIds.length) (markSecondRound s.quota)).run.run b with
      ⟨e | summary, b'⟩ <;> rw [ran] at settled
    · exact settled
    · obtain ⟨-, s₀, s₁, start, work, finish⟩ := settled
      obtain ⟨selected, -, moved⟩ := markSecondRound_ok work
      rw [start] at selected moved
      exact ⟨selected, finish.trans moved⟩
  | scores s g =>
    have atomic := onStore_withTx_run b _ (recordScores_keeps s.quota g)
    simp only [work, run_bind]
    rcases ran : (onStore (StoreRun.withTx (recordScores s.quota g))).run.run b with
      ⟨e | ⟨rows, present, noShow⟩, b'⟩ <;> rw [ran] at atomic
    · exact atomic
    · obtain ⟨s₀, s₁, start, work, finish⟩ := atomic
      obtain ⟨sheet, updated, read, matched, counted, saved⟩ := recordScores_ok work
      rw [start] at read matched saved
      exact ⟨sheet, updated, read, matched, counted, finish.trans saved⟩

end Job

@[simp] theorem Stage.answer?_releasing (token : String) (outcome : Except Fault Answer) :
    (Stage.releasing token outcome).answer? = (Stage.done outcome).answer? := by
  cases outcome <;> rfl

namespace AllOrNothingStep

variable {j : Job} {st st' : Stage} {b b' : Backends}

/-- A step that changes no table and no key, and neither takes a lease, gives one back
nor commits. -/
theorem quiet (tables : b'.store.tables = b.store.tables) (keys : b'.keys = b.keys)
    (token : st'.token? = st.token?) (answer : st'.answer? = st.answer?)
    (notLast : ∀ t o, st ≠ .releasing t o) : AllOrNothingStep j st b st' b' where
  tables := .inl tables
  answers a found := .inl (answer ▸ found)
  keepsAnswer a found := answer ▸ found
  marker m _ := .inl (by rw [keys])
  takes t found := .inl (token ▸ found)
  holds t found := .inl (token ▸ found)
  gives t o last := absurd last (notLast t o)

/-- A step that runs a call's transaction: a failed one is quiet, one that commits
changes the tables by its result and gives the call its answer. -/
theorem of_work {runId : String} {next : Answer → Stage} {stop : Fault → Stage}
    (commits : ∀ a, j.Commits st (next a) a) (token : ∀ a, (next a).token? = st.token?)
    (answer : ∀ a, (next a).answer? = some a) (stopToken : ∀ e, (stop e).token? = st.token?)
    (stopAnswer : ∀ e, (stop e).answer? = none) (unanswered : st.answer? = none)
    (notLast : ∀ t o, st ≠ .releasing t o) :
    match (j.work runId).run.run b with
    | (.ok a, b') => AllOrNothingStep j st b (next a) b'
    | (.error e, b') => AllOrNothingStep j st b (stop e) b' := by
  have effect := j.work_tables runId b
  have keys : ((j.work runId).run.run b).2.keys = b.keys := j.work_keeps_keys runId b
  rcases ran : (j.work runId).run.run b with ⟨e | a, b'⟩ <;> rw [ran] at effect keys
  · exact quiet effect keys (stopToken e) ((stopAnswer e).trans unanswered.symm) notLast
  · refine ⟨.inr ⟨a, commits a, effect⟩, ?_, ?_, fun m _ => .inl (by rw [keys]), ?_, ?_, ?_⟩
    · intro a' found
      rw [answer a] at found
      cases found
      exact .inr (commits a)
    · intro a' found
      rw [unanswered] at found
      cases found
    · exact fun t found => .inl ((token a) ▸ found)
    · exact fun t found => .inl ((token a) ▸ found)
    · exact fun t o last => absurd last (notLast t o)

end AllOrNothingStep

namespace Job

open AllOrNothingStep

variable (j : Job)

/-- Taking the lease: a refused or failed command is quiet, a granted one puts a key with
the lease time where there was none. -/
theorem lease_all_or_nothing {st : Stage} (leasing : st = .checked ∨ st = .start ∧ j.marker? = none)
    (b : Backends) : AllOrNothingStep j st b (j.advance st b).1 (j.advance st b).2 := by
  have taken := j.advance_lease leasing b
  obtain ⟨noToken, noAnswer, notLast⟩ : st.token? = none ∧ st.answer? = none ∧
      ∀ t o, st ≠ .releasing t o := by
    rcases leasing with rfl | ⟨rfl, -⟩ <;> simp [Stage.token?, Stage.answer?]
  by_cases ready : b.keys.failure = none ∧ b.keys.get? j.leaseKey = none
  · rw [if_pos ready] at taken
    rw [taken]
    refine ⟨.inl rfl, fun a found => (by cases found), fun a found => (by simp [noAnswer] at found),
      fun m pass => .inl (KeyStore.get?_put_of_ne _ _ _ _ _ (j.leaseKey_ne_marker pass).symm),
      fun t found => .inr ⟨ready.1, ready.2, ?_⟩, fun t found => (by simp [noToken] at found),
      fun t o last => absurd last (notLast t o)⟩
    cases found
    exact KeyStore.lookup?_put_self _ _ _ _
  · rw [if_neg ready] at taken
    obtain ⟨e, failed⟩ := taken
    rw [failed]
    exact quiet rfl rfl (by rw [noToken]; rfl) (by rw [noAnswer]; rfl) notLast

/-- Every step of a call is all or nothing. -/
theorem advance_all_or_nothing (st : Stage) (b : Backends) :
    AllOrNothingStep j st b (j.advance st b).1 (j.advance st b).2 := by
  cases st with
  | start =>
    cases marks : j.marker? with
    | none => exact j.lease_all_or_nothing (.inr ⟨rfl, marks⟩) b
    | some pass =>
      obtain ⟨marker, code⟩ := pass
      have checked := advance_start_of_marker marks b
      split_ifs at checked
      · rw [checked]
        exact quiet rfl rfl rfl rfl (by simp)
      · obtain ⟨e, failed⟩ := checked
        rw [failed]
        exact quiet rfl rfl rfl rfl (by simp)
  | checked => exact j.lease_all_or_nothing (.inl rfl) b
  | leased token =>
    cases marks : j.marker? with
    | none =>
      have moved := @of_work j (.leased token) b "" (fun a => .releasing token (.ok a))
        (fun e => .releasing token (.error e))
        (fun a => .inr ⟨marks, token, rfl, rfl⟩) (fun _ => rfl) (fun _ => rfl) (fun _ => rfl)
        (fun _ => rfl) rfl (by simp)
      rw [advance_leased_of_unmarked j marks]
      rcases ran : (j.work "").run.run b with ⟨e | a, b'⟩ <;> rw [ran] at moved
      · exact moved
      · exact moved
    | some pass =>
      obtain ⟨marker, code⟩ := pass
      have checked := advance_leased_of_marker marks token b
      split_ifs at checked
      · rw [checked]
        exact quiet rfl rfl rfl rfl (by simp)
      · obtain ⟨e, failed⟩ := checked
        rw [failed]
        exact quiet rfl rfl rfl rfl (by simp)
  | armed token runId =>
    have moved := @of_work j (.armed token runId) b runId (.committed token runId)
      (fun e => .releasing token (.error e))
      (fun a => .inl ⟨token, runId, rfl, rfl⟩) (fun _ => rfl) (fun _ => rfl) (fun _ => rfl)
      (fun _ => rfl) rfl (by simp)
    rw [advance_armed]
    rcases ran : (j.work runId).run.run b with ⟨e | a, b'⟩ <;> rw [ran] at moved
    · exact moved
    · exact moved
  | committed token runId a =>
    cases marks : j.marker? with
    | none =>
      rw [advance_committed_of_unmarked j marks]
      exact quiet rfl rfl rfl rfl (by simp)
    | some pass =>
      obtain ⟨marker, code⟩ := pass
      rw [advance_committed_of_marker marks, setMarker_backends]
      refine ⟨.inl rfl, fun a found => .inl found, fun a found => found, ?_, fun t found => .inl found,
        fun t found => .inl found, fun t o last => (by cases last)⟩
      intro m pass
      by_cases same : m = marker
      · subst same
        by_cases working : b.keys.failure = none
        · exact .inr ⟨code, token, runId, a, marks, rfl, by simp [working]⟩
        · exact .inl (by simp [working])
      · exact .inl (by split_ifs <;> simp [KeyStore.get?_put_of_ne _ _ _ _ _ same])
  | releasing token outcome =>
    rw [advance_releasing, Service.releaseLease_backends]
    refine ⟨.inl rfl, fun a found => .inl (by simpa using found), fun a found => (by simpa using found),
      fun m pass => .inl ?_, fun t found => (by cases found), fun t found => ?_,
      fun t o last => ?_⟩
    · split_ifs
      · exact KeyStore.get?_remove_of_ne _ _ _ (j.leaseKey_ne_marker pass).symm
      · rfl
    · cases found
      exact .inr ⟨outcome, rfl, rfl⟩
    · cases last
      exact ⟨rfl, rfl⟩
  | done outcome => exact quiet rfl rfl rfl rfl (by simp)

/-- A step whose key-store answer is lost is all or nothing too. The call goes on as on a
failing key store, so it takes no lease; the key store ends as the command left it, so the
marker and the release are those of the step that was answered. -/
theorem advanceLost_all_or_nothing (st : Stage) (text : String) (b : Backends) :
    AllOrNothingStep j st b (j.advanceLost st text b).1 (j.advanceLost st text b).2 := by
  have seen := j.advance_all_or_nothing st { b with keys := b.keys.fail text }
  have answered := j.advance_all_or_nothing st b
  refine ⟨seen.tables, seen.answers, seen.keepsAnswer, answered.marker, fun t found => ?_, seen.holds,
    fun t o last => ⟨(seen.gives t o last).1, (answered.gives t o last).2⟩⟩
  rcases seen.takes t found with held | ⟨working, -⟩
  · exact .inl held
  · simp [KeyStore.fail] at working

end Job

end Admissions.Batch
