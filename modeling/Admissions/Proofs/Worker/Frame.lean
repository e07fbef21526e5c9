import Admissions.Proofs.Worker.Lifecycle

namespace Admissions

open Run

/-- A relation on the forms that holds across each table operation a job can run: a
preorder that relates the forms before and after a status move, a rejection, a save
of second-round scores and an insert that goes through. -/
structure FormWrites (R : List StoredForm → List StoredForm → Prop) : Prop where
  refl : ∀ forms, R forms forms
  trans : ∀ xs ys zs, R xs ys → R ys zs → R xs zs
  moveStatus : ∀ (t : Tables) ids source target, R t.forms (t.moveStatus ids source target).2.forms
  reject : ∀ (t : Tables) id source reason, R t.forms (t.reject id source reason).2.forms
  saveSecondRound : ∀ (t : Tables) a, R t.forms (t.saveSecondRound a).2.forms
  insert : ∀ (t t' : Tables) a, t.insert a = .ok t' → R t.forms t'.forms

namespace FormWrites

variable {R : List StoredForm → List StoredForm → Prop} (w : FormWrites R)
include w

/-! ### The store's writes -/

theorem updateStatus_moves (ids : List String) (source target : String) :
    Moves R (·.tables.forms) (StoreRun.updateStatus ids source target) := by
  intro s
  rw [StoreRun.run_updateStatus]
  split_ifs
  · exact w.refl _
  · exact StoreRun.checkedWrite_moves _ _ _ _ _ w.refl (fun t => w.moveStatus t ids source target) s
  · exact w.refl _

theorem reject_moves (id source reason : String) :
    Moves R (·.tables.forms) (StoreRun.reject id source reason) := by
  intro s
  rw [StoreRun.run_reject]
  split_ifs
  · exact StoreRun.checkedWrite_moves _ _ _ _ _ w.refl (fun t => w.reject t id source reason) s
  · exact w.refl _

theorem insert_moves (a : Application) : Moves R (·.tables.forms) (StoreRun.insert a) := by
  intro s
  have quiet := (StoreRun.attempt_keeps .insertForm).within "insert application" s
  simp only [StoreRun.insert, run_bind, StoreRun.run_tables]
  rcases out : (StoreRun.within "insert application" (StoreRun.attempt .insertForm)).run.run s with ⟨e | _, s₁⟩ <;>
    simp only [out, ApplicationStore.guarded, Prod.mk.injEq] at quiet ⊢
  · rw [quiet.1]
    exact w.refl _
  · split
    · rename_i t inserted
      rw [quiet.1] at inserted
      exact w.insert _ _ _ inserted
    · simp only [run_throw]
      rw [quiet.1]
      exact w.refl _

/-- Saving a pairing's forms one after another. -/
theorem saveAll_forms (updated : List Application) (t : Tables) :
    R t.forms (updated.foldl (fun t a => (t.saveSecondRound a).2) t).forms := by
  induction updated generalizing t with
  | nil => exact w.refl _
  | cons a rest ih => exact w.trans _ _ _ (w.saveSecondRound t a) (ih _)

/-! ### The jobs' writes -/

theorem storeForm_moves (bases : List (String × Int)) (form : Application) :
    Moves R (·.tables.forms) (Handler.storeForm bases form) :=
  Keeps.bind_moves w.refl (StoreRun.Keeps.forms (StoreRun.lockCategory_keeps _)) fun _ =>
    Keeps.bind_moves w.refl (StoreRun.Keeps.forms (StoreRun.maxExaminationNumber_keeps _)) fun _ =>
      Keeps.bind_moves w.refl (Batch.ruling_keeps _ _) fun _ =>
        Moves.bind_keeps (w.insert_moves _) fun _ => keeps_pure _

theorem applyDecision_moves (i : ReviewInput) : Moves R (·.tables.forms) (Handler.applyDecision i) := by
  unfold Handler.applyDecision
  refine Keeps.bind_moves w.refl (StoreRun.Keeps.forms (StoreRun.find_keeps _)) fun form => ?_
  split
  · exact (keeps_throw _).moves w.refl
  · refine Moves.bind_keeps ?_ fun _ => keeps_pure _
    unfold Handler.writeDecision
    split
    · exact w.reject_moves _ _ _
    · exact w.updateStatus_moves _ _ _

/-- A batch that is all or nothing changes the forms only as its commits do. -/
theorem allOrNothing_moves {α : Type} {op : Service α}
    (ends : ∀ b, Batch.AllOrNothing op b fun _ b' => R b.store.tables.forms b'.store.tables.forms) :
    Moves R (·.store.tables.forms) op := by
  intro b
  have ended := ends b
  unfold Batch.AllOrNothing at ended
  rcases out : op.run.run b with ⟨e | v, b'⟩ <;> rw [out] at ended <;> dsimp only
  · rw [ended.1]
    exact w.refl _
  · exact ended

theorem firstPass_moves (s : SelectionSettings) (dryRun : Bool) :
    Moves R (·.store.tables.forms) (Batch.firstPass s dryRun) := by
  cases dryRun with
  | true => exact ((Batch.firstPass_dry_keeps s).comp fun p => p.1.forms).moves w.refl
  | false =>
    refine w.allOrNothing_moves fun b => (Batch.firstPass_all_or_nothing s b).mono ?_
    rintro summary b' ⟨-, moved, -⟩
    rw [moved]
    exact w.moveStatus _ _ _ _

theorem secondPass_moves (s : SelectionSettings) (dryRun : Bool) :
    Moves R (·.store.tables.forms) (Batch.secondPass s dryRun) := by
  cases dryRun with
  | true => exact ((Batch.secondPass_dry_keeps s).comp fun p => p.1.forms).moves w.refl
  | false =>
    refine w.allOrNothing_moves fun b => (Batch.secondPass_all_or_nothing s b).mono ?_
    rintro summary b' ⟨-, moved, -⟩
    rw [moved]
    -- the passers move first, then the failures, each a status move of its own
    exact w.trans _ _ _ (w.moveStatus _ _ _ _) (w.moveStatus _ _ _ _)

theorem importScores_moves (s : SelectionSettings) (g : Grid) :
    Moves R (·.store.tables.forms) (Batch.importScores s g) := by
  refine w.allOrNothing_moves fun b => (Batch.importScores_all_or_nothing s g b).mono ?_
  rintro summary b' ⟨-, -, sheet, updated, -, -, -, saved⟩
  rw [saved]
  exact w.saveAll_forms updated _

/-- What holds across each table operation holds across each write of a job. -/
theorem jobWrites : JobWrites R where
  refl := w.refl
  stores _ bases _ _ _ := w.storeForm_moves bases _
  decides := w.applyDecision_moves
  imports := w.importScores_moves
  firstPasses := w.firstPass_moves
  secondPasses := w.secondPass_moves

/-- Along any run of the system the forms change only as `R` allows. -/
theorem run {b b' : Backends} (steps : Relation.ReflTransGen Backends.Step b b') :
    R b.store.tables.forms b'.store.tables.forms := by
  induction steps with
  | refl => exact w.refl _
  | tail _ step ih => exact w.trans _ _ _ ih (step.moves w.jobWrites)

end FormWrites

/-! ### What was handed in -/

namespace StoredForm

/-- A form with what the store writes over it after the hand-in set aside: its
status, its second-round scores and its total. -/
def fixed (f : StoredForm) : Application :=
  { f.form with
    status := ""
    score := { f.form.score with depthInterview := none, ncs := none, codingTest := none, total := none } }

/-- Forms equal once what the store writes is set aside agree on every field of the
hand-in and of the first round. -/
theorem handedIn_of_fixed {f g : StoredForm} (same : g.fixed = f.fixed) :
    g.form.id = f.form.id ∧ g.form.userId = f.form.userId ∧ g.form.category = f.form.category ∧
      g.form.formType = f.form.formType ∧ g.form.examinationNumber = f.form.examinationNumber ∧
      g.form.grade = f.form.grade ∧ g.form.score.subjectGrade = f.form.score.subjectGrade ∧
      g.form.score.attendance = f.form.score.attendance ∧ g.form.score.volunteer = f.form.score.volunteer ∧
      g.form.score.bonus = f.form.score.bonus ∧ g.form.score.firstRound = f.form.score.firstRound :=
  ⟨congrArg (·.id) same, congrArg (·.userId) same, congrArg (·.category) same, congrArg (·.formType) same,
    congrArg (·.examinationNumber) same, congrArg (·.grade) same, congrArg (·.score.subjectGrade) same,
    congrArg (·.score.attendance) same, congrArg (·.score.volunteer) same, congrArg (·.score.bonus) same,
    congrArg (·.score.firstRound) same⟩

end StoredForm

/-- The forms after writes over statuses, second-round scores and totals only: the
forms found, with those set aside, are the first forms after. -/
def FormsFrozen (old new : List StoredForm) : Prop :=
  old.map StoredForm.fixed <+: new.map StoredForm.fixed

/-- The form found at a place is still there, equal once what the store writes is
set aside. -/
theorem FormsFrozen.getElem? {old new : List StoredForm} (frozen : FormsFrozen old new) {i : Nat}
    {f : StoredForm} (found : old[i]? = some f) : ∃ g, new[i]? = some g ∧ g.fixed = f.fixed := by
  obtain ⟨rest, grown⟩ := frozen
  have within : i < (old.map StoredForm.fixed).length := by
    rw [List.length_map]
    exact (List.getElem?_eq_some_iff.mp found).1
  have there : (new.map StoredForm.fixed)[i]? = some f.fixed := by
    rw [← grown, List.getElem?_append_left within]
    simp [found]
  rw [List.getElem?_map, Option.map_eq_some_iff] at there
  exact there

namespace Tables

theorem updateWhere_frozen (t : Tables) {hit : Application → Bool} {change : StoredForm → StoredForm}
    (kept : ∀ s, (change s).fixed = s.fixed) : FormsFrozen t.forms (t.updateWhere hit change).2.forms := by
  have same : (t.updateWhere hit change).2.forms.map StoredForm.fixed = t.forms.map StoredForm.fixed := by
    simp only [updateWhere, List.map_map]
    refine List.map_congr_left fun s _ => ?_
    simp only [Function.comp_apply]
    split
    · exact kept s
    · rfl
  unfold FormsFrozen
  exact same ▸ List.prefix_refl _

theorem insert_frozen (t t' : Tables) (a : Application) (inserted : t.insert a = .ok t') :
    FormsFrozen t.forms t'.forms := by
  unfold insert at inserted
  split at inserted
  · cases inserted
  · cases inserted
    rw [FormsFrozen, List.map_append]
    exact List.prefix_append _ _

end Tables

/-- Every table operation a job runs writes statuses, second-round scores and totals
only, or adds a form after the others. -/
theorem FormsFrozen.writes : FormWrites FormsFrozen where
  refl _ := List.prefix_refl _
  trans _ _ _ first second := first.trans second
  moveStatus t _ _ _ := t.updateWhere_frozen fun _ => rfl
  reject t _ _ _ := t.updateWhere_frozen fun _ => rfl
  saveSecondRound t _ := t.updateWhere_frozen fun _ => rfl
  insert := Tables.insert_frozen

/-- A form's identity and first-round fields are never written after it is stored.
Every job of every worker, whatever it answers, keeps each form it found in its
place, equal once its status, second-round scores and total are set aside, and adds
forms only after the others; so along any run of jobs, faults, time and key-store
changes the form at each place keeps its id, user, category, form type, examination
number, grades and subject, attendance, volunteer, bonus and first-round scores. -/
theorem handed_in_fields_never_rewritten :
    (∀ (rw : ReadyWorker) (job : Job), Moves FormsFrozen (·.store.tables.forms) (rw.work job)) ∧
    ∀ b b', Relation.ReflTransGen Backends.Step b b' →
      FormsFrozen b.store.tables.forms b'.store.tables.forms ∧
      ∀ (i : Nat) (f : StoredForm), b.store.tables.forms[i]? = some f →
        ∃ g, b'.store.tables.forms[i]? = some g ∧ g.fixed = f.fixed ∧
          g.form.id = f.form.id ∧ g.form.userId = f.form.userId ∧ g.form.category = f.form.category ∧
          g.form.formType = f.form.formType ∧ g.form.examinationNumber = f.form.examinationNumber ∧
          g.form.grade = f.form.grade ∧ g.form.score.subjectGrade = f.form.score.subjectGrade ∧
          g.form.score.attendance = f.form.score.attendance ∧ g.form.score.volunteer = f.form.score.volunteer ∧
          g.form.score.bonus = f.form.score.bonus ∧ g.form.score.firstRound = f.form.score.firstRound := by
  refine ⟨fun rw job => rw.work_moves FormsFrozen.writes.jobWrites job, fun b b' steps => ?_⟩
  have frozen := FormsFrozen.writes.run steps
  refine ⟨frozen, fun i f found => ?_⟩
  obtain ⟨g, there, same⟩ := frozen.getElem? found
  exact ⟨g, there, same, StoredForm.handedIn_of_fixed same⟩

/-- A received form, numbered and scored in the first round. -/
def numberedForm : StoredForm where
  form :=
    { id := "a"
      category := "REGULAR"
      status := "RECEIVED"
      examinationNumber := some 1001
      score := { subjectGrade := ⟨120, 0⟩, firstRound := some ⟨150, 0⟩ } }

/-- The backends holding only that form. -/
def numberedStore : Backends where
  store := { tables := { forms := [numberedForm] } }

/-- A review job sending the form back, and a first-pass job. -/
def rejectionJob : Job :=
  ⟨1, "receive-application", 3, "\x7b\"applicationId\":\"a\",\"decision\":\"REJECTED\",\"reason\":\"late\"\x7d"⟩

def firstPassJob : Job := ⟨2, "select-first-pass", 3, ""⟩

/-- After a review sending the form back and a first pass, the form in the first
place still has its id, number and first-round score. -/
theorem rejected_then_passed_keeps_number :
    Relation.ReflTransGen Backends.Step numberedStore
        (((ReadyWorker.firstPass default).work firstPassJob).run.run
          ((ReadyWorker.review.work rejectionJob).run.run numberedStore).2).2 ∧
      numberedStore.store.tables.forms[0]? = some numberedForm ∧
      ∃ g, (((ReadyWorker.firstPass default).work firstPassJob).run.run
          ((ReadyWorker.review.work rejectionJob).run.run numberedStore).2).2.store.tables.forms[0]? = some g ∧
        g.form.id = "a" ∧ g.form.examinationNumber = some 1001 ∧ g.form.score.firstRound = some ⟨150, 0⟩ := by
  have steps := Relation.ReflTransGen.tail (.single (Backends.Step.work .review rejectionJob numberedStore))
    (Backends.Step.work (.firstPass default) firstPassJob _)
  have found : numberedStore.store.tables.forms[0]? = some numberedForm := rfl
  obtain ⟨g, there, -, sameId, -, -, -, sameNumber, -, -, -, -, -, sameFirst⟩ :=
    (handed_in_fields_never_rewritten.2 _ _ steps).2 0 numberedForm found
  exact ⟨steps, found, g, there, sameId, sameNumber, sameFirst⟩

end Admissions
