import Admissions.Proofs.Store.Lifecycle
import Admissions.Proofs.Selection.Batch
import Admissions.Worker.Job

namespace Admissions

/-! ### The service's steps -/

namespace Service

open Run

variable {α γ : Type}

theorem onStore_moves {R : List StoredForm → List StoredForm → Prop} {r : StoreRun α}
    (moves : Moves R (·.tables.forms) r) : Moves R (·.store.tables.forms) (onStore r) := by
  intro b
  rw [run_onStore]
  exact moves b.store

theorem onStore_keeps_forms {r : StoreRun α} (keeps : Keeps (·.tables.forms) r) :
    Keeps (·.store.tables.forms) (onStore r) := by
  intro b
  rw [run_onStore]
  exact keeps b.store

theorem outcome_moves {R : γ → γ → Prop} {view : Backends → γ} {r : Service α} (moves : Moves R view r) :
    Moves R view (outcome r) := by
  intro b
  rw [run_outcome]
  exact moves b

theorem outcome_keeps {view : Backends → γ} {r : Service α} (keeps : Keeps view r) : Keeps view (outcome r) := by
  intro b
  rw [run_outcome]
  exact keeps b

theorem query_keeps_forms (operation : String) {r : StoreRun α} (keeps : Keeps (·.tables.forms) r) :
    Keeps (·.store.tables.forms) (query operation r) := by
  unfold query
  refine (outcome_keeps (onStore_keeps_forms keeps)).bind fun res => ?_
  cases res with
  | ok v => exact keeps_pure v
  | error e => exact keeps_throw _

theorem failWith_keeps (view : Backends → γ) (o : Option Failure) : Keeps view (failWith o) := by
  cases o with
  | some f => exact keeps_throw _
  | none => exact keeps_pure _

theorem failIf_keeps (view : Backends → γ) (c : Bool) (f : Failure) : Keeps view (failIf c f) := by
  unfold failIf
  split
  · exact keeps_throw _
  · exact keeps_pure _

end Service

/-! ### The selection batches -/

namespace Batch

open Run Service

variable {α : Type}

theorem step_moves {R : List StoredForm → List StoredForm → Prop} {r : StoreRun α}
    (moves : Moves R (·.tables.forms) r) (operation : String) : Moves R (·.tables.forms) (step operation r) :=
  moves.tryCatch fun _ => keeps_throw _

theorem markFirstRound_moveFrom (q : QuotaConfig) :
    Moves (FormsMoveFrom "RECEIVED") (·.tables.forms) (markFirstRound q) :=
  Keeps.bind_moves (FormsMoveFrom.refl _) (step_keeps (StoreRun.Keeps.forms (StoreRun.lockByStatus_keeps _)) _)
    fun _ => Keeps.bind_moves (FormsMoveFrom.refl _) (ruling_keeps _ _) fun _ =>
      (step_moves (StoreRun.updateStatus_moveFrom _ _ _) _).bind_keeps fun _ => keeps_pure _

/-- The second round's two moves both go out of FIRST_PASSED, so a passer moved by
the first is left alone by the second. -/
theorem markSecondRound_moveFrom (q : QuotaConfig) :
    Moves (FormsMoveFrom "FIRST_PASSED") (·.tables.forms) (markSecondRound q) :=
  Keeps.bind_moves (FormsMoveFrom.refl _) (step_keeps (StoreRun.Keeps.forms (StoreRun.lockByStatus_keeps _)) _)
    fun _ => Keeps.bind_moves (FormsMoveFrom.refl _) (ruling_keeps _ _) fun _ =>
      (step_moves (StoreRun.updateStatus_moveFrom _ _ _) _).bind (R := FormsMoveFrom _)
        (fun _ _ _ => FormsMoveFrom.trans) fun _ =>
        (step_moves (StoreRun.updateStatus_moveFrom _ _ _) _).bind_keeps fun _ => keeps_pure _

theorem saveAll_moveFrom :
    ∀ updated : List Application, Moves (FormsMoveFrom Status.firstPassed.code) (·.tables.forms) (saveAll updated)
  | [] => (keeps_pure _).moves (FormsMoveFrom.refl _)
  | a :: rest =>
    (step_moves (StoreRun.saveSecondRound_moveFrom a) _).bind (R := FormsMoveFrom _)
      (fun _ _ _ => FormsMoveFrom.trans) fun _ =>
      (saveAll_moveFrom rest).bind_keeps fun _ => keeps_pure _

theorem recordScores_moveFrom (q : QuotaConfig) (g : Grid) :
    Moves (FormsMoveFrom Status.firstPassed.code) (·.tables.forms) (recordScores q g) :=
  Keeps.bind_moves (FormsMoveFrom.refl _) (step_keeps (StoreRun.Keeps.forms (StoreRun.lockByStatus_keeps _)) _)
    fun _ => Keeps.bind_moves (FormsMoveFrom.refl _) (ruling_keeps _ _) fun _ =>
      Keeps.bind_moves (FormsMoveFrom.refl _) (ruling_keeps _ _) fun _ =>
        (saveAll_moveFrom _).bind_keeps fun _ => keeps_pure _

/-- A batch that is all or nothing over some work in its transaction changes the
forms only as that work does. -/
theorem moves_of_ends {β : Type} {op : Service α} {work : StoreRun β} {R : List StoredForm → List StoredForm → Prop}
    (refl : ∀ x, R x x) (moves : Moves R (·.tables.forms) work)
    (ends : ∀ b, AllOrNothing op b fun _ b' => ∃ s₀ s₁ w, s₀.tables = b.store.tables ∧
      work.run.run s₀ = (.ok w, s₁) ∧ b'.store.tables = s₁.tables) :
    Moves R (·.store.tables.forms) op := by
  intro b
  have ended := ends b
  unfold AllOrNothing at ended
  split at ended
  · rename_i out
    rw [out]
    dsimp only
    rw [ended.1]
    exact refl _
  · rename_i out
    rw [out]
    obtain ⟨s₀, s₁, w, start, ran, finish⟩ := ended
    have moved := moves s₀
    rw [ran] at moved
    dsimp only at moved ⊢
    rw [start] at moved
    rw [finish]
    exact moved

/-- A one-shot pass changes the forms only as the work in its transaction does. -/
theorem exclusively_commitPass_moves (leaseKey marker : String) (distinct : leaseKey ≠ marker)
    (doneCode : String) (time : Int) (failed : SelectionResult → Nat) {work : StoreRun (Nat × SelectionResult)}
    (keeps : Keeps (·.snapshot) work) {source : String} (moves : Moves (FormsMoveFrom source) (·.tables.forms) work) :
    Moves FormsAdvance (·.store.tables.forms)
      (exclusively leaseKey marker doneCode time fun runId => commitPass runId failed work) := by
  refine (moves_of_ends (FormsMoveFrom.refl _) moves fun b =>
    (exclusively_commitPass_run leaseKey marker distinct doneCode time failed work keeps b).mono ?_).mono
      fun _ _ moved => moved.advance
  rintro summary b' ⟨-, -, -, s₀, s₁, start, ran, finish⟩
  exact ⟨s₀, s₁, _, start, ran, finish⟩

theorem firstPass_advances (s : SelectionSettings) (dryRun : Bool) :
    Moves FormsAdvance (·.store.tables.forms) (firstPass s dryRun) := by
  cases dryRun with
  | true => exact ((firstPass_dry_keeps s).comp fun p => p.1.forms).moves FormsAdvance.refl
  | false =>
    simp only [firstPass, Bool.false_eq_true, if_false]
    exact exclusively_commitPass_moves _ _ (by decide) _ _ _ (markFirstRound_keeps s.quota)
      (markFirstRound_moveFrom s.quota)

theorem secondPass_advances (s : SelectionSettings) (dryRun : Bool) :
    Moves FormsAdvance (·.store.tables.forms) (secondPass s dryRun) := by
  cases dryRun with
  | true => exact ((secondPass_dry_keeps s).comp fun p => p.1.forms).moves FormsAdvance.refl
  | false =>
    simp only [secondPass, Bool.false_eq_true, if_false]
    exact exclusively_commitPass_moves _ _ (by decide) _ _ _ (markSecondRound_keeps s.quota)
      (markSecondRound_moveFrom s.quota)

theorem importScores_advances (s : SelectionSettings) (g : Grid) :
    Moves FormsAdvance (·.store.tables.forms) (importScores s g) := by
  refine (moves_of_ends (FormsMoveFrom.refl _) (recordScores_moveFrom s.quota g) fun b =>
    (importScores_ends s g b).mono ?_).mono fun _ _ moved => moved.advance
  rintro summary b' ⟨-, -, s₀, s₁, start, ran, finish⟩
  exact ⟨s₀, s₁, _, start, ran, finish⟩

end Batch

/-! ### The handlers -/

namespace Handler

open Run Service

theorem newForm_status (admission : AdmissionSettings) (i : SubmitInput) (id : String) (now : Instant) :
    (newForm admission i id now).status = Status.submitted.code :=
  rfl

theorem storeForm_keeps_snapshot (bases : List (String × Int)) (form : Application) :
    Keeps (·.snapshot) (storeForm bases form) :=
  ((StoreRun.lockCategory_keeps _).comp Prod.snd).bind fun _ =>
    ((StoreRun.maxExaminationNumber_keeps _).comp Prod.snd).bind fun _ =>
      (Batch.ruling_keeps _ _).bind fun _ => (StoreRun.insert_keeps_snapshot _).bind fun _ => keeps_pure _

/-- Numbering and storing a SUBMITTED form only adds it after the others. -/
theorem storeForm_grows (bases : List (String × Int)) {form : Application}
    (submitted : form.status = Status.submitted.code) :
    Moves FormsGrow (·.tables.forms) (storeForm bases form) :=
  Keeps.bind_moves FormsGrow.refl (StoreRun.Keeps.forms (StoreRun.lockCategory_keeps _)) fun _ =>
    Keeps.bind_moves FormsGrow.refl (StoreRun.Keeps.forms (StoreRun.maxExaminationNumber_keeps _)) fun _ =>
      Keeps.bind_moves FormsGrow.refl (Batch.ruling_keeps _ _) fun _ =>
        Moves.bind_keeps (StoreRun.insert_grows submitted) fun _ => keeps_pure _

theorem writeDecision_keeps_snapshot (i : ReviewInput) (form : Application) :
    Keeps (·.snapshot) (writeDecision i form) := by
  unfold writeDecision
  split
  · exact StoreRun.reject_keeps_snapshot _ _ _
  · exact StoreRun.updateStatus_keeps _ _ _

/-- A decision is written only over forms still in the status the form was read in,
along an allowed move. -/
theorem writeDecision_moveFrom (i : ReviewInput) (form : Application) :
    Moves (FormsMoveFrom form.status) (·.tables.forms) (writeDecision i form) := by
  unfold writeDecision
  split
  · exact StoreRun.reject_moveFrom _ _ _
  · exact StoreRun.updateStatus_moveFrom _ _ _

theorem applyDecision_keeps_snapshot (i : ReviewInput) : Keeps (·.snapshot) (applyDecision i) := by
  unfold applyDecision
  refine ((StoreRun.find_keeps _).comp Prod.snd).bind fun form => ?_
  split
  · exact keeps_throw _
  · exact (writeDecision_keeps_snapshot i form).bind fun _ => keeps_pure _

/-- A review moves the form it read only out of the status it read, along an allowed move. -/
theorem applyDecision_advances (i : ReviewInput) : Moves FormsAdvance (·.tables.forms) (applyDecision i) := by
  unfold applyDecision
  refine Keeps.bind_moves FormsAdvance.refl (StoreRun.Keeps.forms (StoreRun.find_keeps _)) fun form => ?_
  refine Moves.mono (R := FormsMoveFrom form.status) (fun _ _ moved => moved.advance) ?_
  split
  · exact (keeps_throw _).moves (FormsMoveFrom.refl _)
  · exact (writeDecision_moveFrom i form).bind_keeps fun _ => keeps_pure _

/-- A review changes the forms only as its decision, in one transaction, does. -/
theorem review_moves {R : List StoredForm → List StoredForm → Prop} (refl : ∀ x, R x x) (i : ReviewInput)
    (decides : Moves R (·.tables.forms) (applyDecision i)) : Moves R (·.store.tables.forms) (review i) := by
  unfold review
  refine Keeps.bind_moves refl (failWith_keeps _ _) fun _ => ?_
  refine Moves.bind_keeps (outcome_moves (onStore_moves (StoreRun.withTx_moves refl
    (applyDecision_keeps_snapshot i) decides))) fun reviewed => ?_
  split
  · exact (stamp_keeps _).bind fun _ => keeps_pure _
  · split
    · exact keeps_throw _
    · split <;> exact keeps_throw _

/-- A hand-in changes the forms only as numbering and storing its new form, in one
transaction, does. -/
theorem submit_moves {R : List StoredForm → List StoredForm → Prop} (refl : ∀ x, R x x)
    (admission : AdmissionSettings) (bases : List (String × Int)) (i : SubmitInput)
    (stores : ∀ id now, Moves R (·.tables.forms) (storeForm bases (newForm admission i id now))) :
    Moves R (·.store.tables.forms) (submit admission bases i) := by
  unfold submit
  refine Keeps.bind_moves refl (fun _ => rfl) fun now => ?_
  refine Keeps.bind_moves refl (failWith_keeps _ _) fun _ => ?_
  refine Keeps.bind_moves refl
    (query_keeps_forms _ (StoreRun.Keeps.forms (StoreRun.hasForm_keeps _))) fun found => ?_
  refine Keeps.bind_moves refl (failIf_keeps _ _ _) fun _ => ?_
  refine Keeps.bind_moves refl (fun _ => rfl) fun id => ?_
  -- the one write: the new form, numbered and inserted in a transaction
  refine Moves.bind_keeps (outcome_moves (onStore_moves (StoreRun.withTx_moves refl
    (storeForm_keeps_snapshot _ _) (stores id _)))) fun stored => ?_
  split
  · exact keeps_pure _
  · split
    · exact keeps_throw _
    · split <;> exact keeps_throw _

theorem deliver_keeps (mailFrom textSender : Option String) (channel : String) (form : Application)
    (subject body : String) : Keeps (·.store) (deliver mailFrom textSender channel form subject body) := by
  intro b
  simp only [deliver, run_get_bind]
  -- a text message or an e-mail changes the outbox only
  split
  · split
    · split <;> rfl
    · rfl
  · split
    · split <;> rfl
    · rfl

theorem recordNotice_keeps_forms (status channel result : String) (form : Application) :
    Keeps (·.store.tables.forms) (recordNotice status channel result form) :=
  (show Keeps (·.store.tables.forms) freshId from fun _ => rfl).bind fun _ =>
    (stamp_keeps _).bind fun _ => attempt_keeps (onStore_keeps_forms (StoreRun.recordNotification_keeps_forms _))

theorem noticeChannels_keeps_forms (mailFrom textSender : Option String) (status : String)
    (done : List (String × String)) (form : Application) (subject body : String) :
    ∀ (channels : List String) (t : NoticeTally),
      Keeps (·.store.tables.forms) (noticeChannels mailFrom textSender status done form subject body channels t)
  | [], t => keeps_pure t
  | channel :: rest, t => by
    have next := noticeChannels_keeps_forms mailFrom textSender status done form subject body rest
    rw [noticeChannels]
    split
    · exact (keeps_pure _).bind next
    · refine ((deliver_keeps _ _ _ _ _ _).comp fun s => s.tables.forms).bind fun sent => ?_
      split
      · exact (keeps_pure _).bind next
      · exact (recordNotice_keeps_forms _ _ _ _).bind fun _ => (keeps_pure _).bind next
      · exact (recordNotice_keeps_forms _ _ _ _).bind fun _ => (keeps_pure _).bind next

theorem noticeForms_keeps_forms (schoolName : String) (mailFrom textSender : Option String) (status : String)
    (template : Template) (done : List (String × String)) :
    ∀ (forms : List Application) (t : NoticeTally),
      Keeps (·.store.tables.forms) (noticeForms schoolName mailFrom textSender status template done forms t)
  | [], t => keeps_pure t
  | _ :: rest, _ =>
    (noticeChannels_keeps_forms _ _ _ _ _ _ _ _ _).bind fun t' =>
      noticeForms_keeps_forms schoolName mailFrom textSender status template done rest t'

/-- Result notifications write notification rows only. -/
theorem notify_keeps_forms (schoolName : String) (mailFrom textSender : Option String) (status : String) :
    Keeps (·.store.tables.forms) (notify schoolName mailFrom textSender status) :=
  (failWith_keeps _ _).bind fun _ =>
    (query_keeps_forms _ (StoreRun.Keeps.forms (StoreRun.listByStatus_keeps _))).bind fun _ =>
      (query_keeps_forms _ (StoreRun.Keeps.forms (StoreRun.sentNotifications_keeps _))).bind fun _ =>
        (noticeForms_keeps_forms _ _ _ _ _ _ _ _).bind fun _ => (failIf_keeps _ _ _).bind fun _ => keeps_pure _

/-- Indexing writes the results index only. -/
theorem index_keeps_forms (name : String) (statuses : List String) :
    Keeps (·.store.tables.forms) (index name statuses) := by
  refine (failIf_keeps _ _ _).bind fun _ =>
    (query_keeps_forms _ (StoreRun.Keeps.forms (StoreRun.listByStatus_keeps _))).bind fun forms => ?_
  intro b
  rw [run_get_bind]
  split
  · rfl
  · -- past the one write to the index, the rest reads the clock and writes the index again
    rw [run_set_bind]
    refine (?_ : Keeps (fun b : Backends => b.store.tables.forms) _) _
    refine (show Keeps _ clock from fun _ => rfl).bind fun now => ?_
    refine Keeps.bind (fun _ => rfl) fun _ => ?_
    split
    · exact keeps_throw _
    · exact keeps_pure _

theorem scores_moves {R : List StoredForm → List StoredForm → Prop} (refl : ∀ x, R x x)
    (s : SelectionSettings) (sheet : Option Grid)
    (imports : ∀ g, Moves R (·.store.tables.forms) (Batch.importScores s g)) :
    Moves R (·.store.tables.forms) (scores s sheet) :=
  Keeps.bind_moves refl (failIf_keeps _ _ _) fun _ => (imports _).bind_keeps fun _ => keeps_pure _

theorem read_keeps {γ : Type} (view : Backends → γ) (w : Worker) (text : String) : Keeps view (read w text) := by
  unfold read
  split
  · exact keeps_pure _
  · exact keeps_throw _

theorem readChecked_keeps {γ : Type} (view : Backends → γ) (w : Worker) (text : String) :
    Keeps view (readChecked w text) :=
  (failIf_keeps _ _ _).bind fun _ => read_keeps view w text

end Handler

/-- What a relation on the forms must allow of each write a job can make: numbering
and storing a new form, a review's decision, a score import and the two passes. The
rest of every job only reads the forms. -/
structure JobWrites (R : List StoredForm → List StoredForm → Prop) : Prop where
  refl : ∀ x, R x x
  stores : ∀ (admission : AdmissionSettings) (bases : List (String × Int)) (i : SubmitInput) (id : String)
    (now : Instant), Run.Moves R (·.tables.forms) (Handler.storeForm bases (Handler.newForm admission i id now))
  decides : ∀ i, Run.Moves R (·.tables.forms) (Handler.applyDecision i)
  imports : ∀ s g, Run.Moves R (·.store.tables.forms) (Batch.importScores s g)
  firstPasses : ∀ s dryRun, Run.Moves R (·.store.tables.forms) (Batch.firstPass s dryRun)
  secondPasses : ∀ s dryRun, Run.Moves R (·.store.tables.forms) (Batch.secondPass s dryRun)

/-- The jobs' writes keep each form in its place with its id, in its status or one
allowed move on, and add only SUBMITTED forms. -/
theorem JobWrites.formsAdvance : JobWrites FormsAdvance where
  refl := FormsAdvance.refl
  stores _ _ _ _ _ :=
    (Handler.storeForm_grows _ (Handler.newForm_status _ _ _ _)).mono fun _ _ grown => grown.advance
  decides := Handler.applyDecision_advances
  imports := Batch.importScores_advances
  firstPasses := Batch.firstPass_advances
  secondPasses := Batch.secondPass_advances

namespace ReadyWorker

open Run Service Handler

variable {R : List StoredForm → List StoredForm → Prop}

/-- Every job of every worker, whatever its variables and whatever the backends
hold, changes the forms only as a relation allows that allows each of the jobs' writes. -/
theorem handle_moves (j : JobWrites R) (rw : ReadyWorker) (text : String) :
    Moves R (·.store.tables.forms) (rw.handle text) := by
  cases rw with
  | submit admission bases =>
    refine Keeps.bind_moves j.refl (read_keeps _ _ _) fun i => ?_
    split
    · exact submit_moves j.refl _ _ _ (j.stores _ _ _)
    · exact (keeps_pure _).moves j.refl
  | review =>
    refine Keeps.bind_moves j.refl (read_keeps _ _ _) fun i => ?_
    split
    · exact review_moves j.refl _ (j.decides _)
    · exact (keeps_pure _).moves j.refl
  | notify school mailFrom textSender =>
    refine ((read_keeps _ _ _).bind fun i => ?_).moves j.refl
    split
    · exact notify_keeps_forms _ _ _ _
    · exact keeps_pure _
  | index name =>
    refine ((readChecked_keeps _ _ _).bind fun i => ?_).moves j.refl
    split
    · exact index_keeps_forms _ _
    · exact keeps_pure _
  | scores s =>
    refine Keeps.bind_moves j.refl (readChecked_keeps _ _ _) fun i => ?_
    split
    · exact scores_moves j.refl _ _ (j.imports s)
    · exact (keeps_pure _).moves j.refl
  | firstPass s =>
    -- the variables only say whether the pass runs dry
    have pass : ∀ dryRun, Moves R (·.store.tables.forms) (Handler.firstPass s dryRun) :=
      fun dryRun => (j.firstPasses s dryRun).bind_keeps fun _ => keeps_pure _
    simp only [handle]
    split
    · exact Keeps.bind_moves j.refl (keeps_pure _) pass
    · refine Keeps.bind_moves j.refl (readChecked_keeps _ _ _) fun i => ?_
      split <;> exact Keeps.bind_moves j.refl (keeps_pure _) pass
  | secondPass s =>
    have pass : ∀ dryRun, Moves R (·.store.tables.forms) (Handler.secondPass s dryRun) :=
      fun dryRun => (j.secondPasses s dryRun).bind_keeps fun _ => keeps_pure _
    simp only [handle]
    split
    · exact Keeps.bind_moves j.refl (keeps_pure _) pass
    · refine Keeps.bind_moves j.refl (readChecked_keeps _ _ _) fun i => ?_
      split <;> exact Keeps.bind_moves j.refl (keeps_pure _) pass

theorem work_moves (j : JobWrites R) (rw : ReadyWorker) (job : Job) :
    Moves R (·.store.tables.forms) (rw.work job) :=
  (outcome_moves (rw.handle_moves j job.vars)).bind_keeps fun _ => keeps_pure _

/-- Every job of every worker keeps each form it found in its place with its id, in
its status or one allowed move on, and adds only SUBMITTED forms. -/
theorem work_advances (rw : ReadyWorker) (job : Job) :
    Moves FormsAdvance (·.store.tables.forms) (rw.work job) :=
  rw.work_moves JobWrites.formsAdvance job

end ReadyWorker

/-! ### Runs of the system -/

namespace Backends

/-- One step of the system: a worker works a job, a fault is injected into the
database, time moves on, or the key store changes (it fails, recovers, loses keys). -/
inductive Step : Backends → Backends → Prop
  | work (rw : ReadyWorker) (job : Job) (b : Backends) : Step b ((rw.work job).run.run b).2
  | fault (f : InjectedFault) (b : Backends) :
      Step b { b with store := { b.store with faults := b.store.faults ++ [f] } }
  | elapse (nanos : Int) (b : Backends) :
      Step b { b with keys := b.keys.advance nanos, now := b.now.addNanos nanos }
  | keys (change : KeyStore → KeyStore) (b : Backends) : Step b { b with keys := change b.keys }

/-- Only a job changes the forms: faults, time and the key store leave them alone. -/
theorem Step.moves {R : List StoredForm → List StoredForm → Prop} (j : JobWrites R) {b b' : Backends}
    (step : Step b b') : R b.store.tables.forms b'.store.tables.forms := by
  cases step with
  | work rw job => exact rw.work_moves j job b
  | fault f => exact j.refl _
  | elapse nanos => exact j.refl _
  | keys change => exact j.refl _

theorem Step.advances {b b' : Backends} (step : Step b b') :
    FormsAdvance b.store.tables.forms b'.store.tables.forms :=
  step.moves JobWrites.formsAdvance

/-- Along any run of the system every form is one that was there or one handed in
as SUBMITTED, moved along allowed moves since. -/
theorem forms_evolve {b b' : Backends} (steps : Relation.ReflTransGen Step b b') :
    FormsEvolve b.store.tables.forms b'.store.tables.forms := by
  induction steps with
  | refl => exact FormsEvolve.refl _
  | tail _ step ih => exact ih.trans (FormsEvolve.of_advance step.advances)

end Backends

/-- Stored statuses move only along the life of a form. Every job of every worker
changes the forms only as `FormsAdvance` allows, and along any run of the system
every form is one found or handed in as SUBMITTED, moved along allowed moves since:
so when every status found was reached from SUBMITTED, every status stays so. Each
status write moves forms only out of the status the operation read, along an allowed
move, whatever it answers; on a store with no fault waiting, such a write inside a
transaction commits when all its forms are still in that status, and otherwise
fails with STALE_STATUS and is taken back. -/
theorem statuses_follow_lifecycle :
    (∀ (rw : ReadyWorker) (job : Job), Run.Moves FormsAdvance (·.store.tables.forms) (rw.work job)) ∧
    (∀ b b', Relation.ReflTransGen Backends.Step b b' →
      FormsEvolve b.store.tables.forms b'.store.tables.forms ∧
      ((∀ f ∈ b.store.tables.forms, Status.Reaches Status.submitted.code f.form.status) →
        ∀ f ∈ b'.store.tables.forms, Status.Reaches Status.submitted.code f.form.status)) ∧
    (∀ (s : ApplicationStore) ids source target,
      Run.Moves (FormsMoveFrom source) (·.tables.forms) (StoreRun.updateStatus ids source target) ∧
      StoreRun.TakenBackUnlessCurrent (StoreRun.updateStatus ids source target) s
        ((s.tables.moveStatus ids source target).1 = ids.length) ∧
      (s.faults = [] → Status.canTransition source target = true →
        StoreRun.WritesWhenCurrent (StoreRun.updateStatus ids source target) s
          ((s.tables.moveStatus ids source target).1 = ids.length) (s.tables.moveStatus ids source target).2
          (toString (s.tables.moveStatus ids source target).1 ++ " of " ++ toString ids.length ++
            " applications were in " ++ source))) ∧
    (∀ (s : ApplicationStore) id source reason,
      Run.Moves (FormsMoveFrom source) (·.tables.forms) (StoreRun.reject id source reason) ∧
      StoreRun.TakenBackUnlessCurrent (StoreRun.reject id source reason) s
        ((s.tables.reject id source reason).1 = 1) ∧
      (s.faults = [] → Status.canTransition source Status.rejected.code = true →
        StoreRun.WritesWhenCurrent (StoreRun.reject id source reason) s ((s.tables.reject id source reason).1 = 1)
          (s.tables.reject id source reason).2 ("application " ++ id ++ " is no longer " ++ source))) ∧
    ∀ (s : ApplicationStore) (a : Application),
      Run.Moves (FormsMoveFrom Status.firstPassed.code) (·.tables.forms) (StoreRun.saveSecondRound a) ∧
      StoreRun.TakenBackUnlessCurrent (StoreRun.saveSecondRound a) s ((s.tables.saveSecondRound a).1 = 1) ∧
      (s.faults = [] →
        (a.status = Status.firstPassed.code ∨ Status.canTransition Status.firstPassed.code a.status = true) →
        StoreRun.WritesWhenCurrent (StoreRun.saveSecondRound a) s ((s.tables.saveSecondRound a).1 = 1)
          (s.tables.saveSecondRound a).2 ("application " ++ a.id ++ " is no longer FIRST_PASSED")) :=
  ⟨ReadyWorker.work_advances,
    fun _ _ steps => ⟨Backends.forms_evolve steps, (Backends.forms_evolve steps).reaches⟩,
    fun s ids source target => ⟨StoreRun.updateStatus_moveFrom ids source target,
      StoreRun.updateStatus_takenBack ids source target s,
      fun faultless allowed => StoreRun.updateStatus_writesWhenCurrent faultless ids source target allowed⟩,
    fun s id source reason => ⟨StoreRun.reject_moveFrom id source reason, StoreRun.reject_takenBack id source reason s,
      fun faultless allowed => StoreRun.reject_writesWhenCurrent faultless id source reason allowed⟩,
    fun s a => ⟨StoreRun.saveSecondRound_moveFrom a, StoreRun.saveSecondRound_takenBack a s,
      fun faultless allowed => StoreRun.saveSecondRound_writesWhenCurrent faultless a allowed⟩⟩

/-- A form read as SUBMITTED and received since: rejecting it from SUBMITTED fails
with STALE_STATUS, and the transaction leaves the form received. -/
theorem stale_rejection_taken_back :
    ∃ s', (StoreRun.withTx (StoreRun.reject "a" "SUBMITTED" "late")).run.run
        { tables := { forms := [{ form := { id := "a", status := "RECEIVED" } }] } } =
      (.error (StoreRun.staleStatus ("application " ++ "a" ++ " is no longer " ++ "SUBMITTED")), s') ∧
      s'.tables = { forms := [{ form := { id := "a", status := "RECEIVED" } }] } := by
  obtain ⟨s', ran, tables⟩ := (statuses_follow_lifecycle.2.2.2.1
    { tables := { forms := [{ form := { id := "a", status := "RECEIVED" } }] } } "a" "SUBMITTED" "late").2.2 rfl
    (by decide)
  have stale : ¬(Tables.reject { forms := [{ form := { id := "a", status := "RECEIVED" } }] } "a" "SUBMITTED"
      "late").1 = 1 := by
    decide
  simp only [stale, if_false] at ran tables
  exact ⟨s', ran, tables⟩

end Admissions
