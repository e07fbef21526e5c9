import Mathlib.Data.List.Forall2
import Mathlib.Logic.Relation
import Admissions.Proofs.Store.Transaction

namespace Admissions

/-! ### Moves between statuses -/

namespace Status

theorem code_injective : Function.Injective Status.code := by
  intro s t
  cases s <;> cases t <;> decide

theorem code_of_ofCode? {c : String} {s : Status} (found : ofCode? c = some s) : s.code = c := by
  simpa using List.find?_some found

theorem canMove_self (s : Status) : canMove s s = false := by
  cases s <;> rfl

/-- An allowed move between codes is a move between the statuses they name. -/
theorem canTransition_eq_true {source target : String} (allowed : canTransition source target = true) :
    ∃ s t, s.code = source ∧ t.code = target ∧ canMove s t = true := by
  unfold canTransition at allowed
  split at allowed
  · rename_i s t named named'
    exact ⟨s, t, code_of_ofCode? named, code_of_ofCode? named', allowed⟩
  · cases allowed

theorem canTransition_ne {source target : String} (allowed : canTransition source target = true) :
    target ≠ source := by
  obtain ⟨s, t, rfl, rfl, moves⟩ := canTransition_eq_true allowed
  intro same
  rw [code_injective same, canMove_self] at moves
  cases moves

/-- A status reached from another by allowed moves, none or more. -/
def Reaches (source target : String) : Prop :=
  Relation.ReflTransGen (fun a b => canTransition a b = true) source target

end Status

/-! ### What a write may do to a form -/

namespace StoredForm

/-- A form after an operation: the same form, in the status it had or one allowed
move on. -/
def Advances (a b : StoredForm) : Prop :=
  b.form.id = a.form.id ∧
    (b.form.status = a.form.status ∨ Status.canTransition a.form.status b.form.status = true)

/-- A form after writes that move forms only out of `source`: in the status it had,
or moved out of `source` along an allowed move. -/
def MovesFrom (source : String) (a b : StoredForm) : Prop :=
  b.form.id = a.form.id ∧
    (b.form.status = a.form.status ∨
      (a.form.status = source ∧ Status.canTransition source b.form.status = true))

theorem MovesFrom.refl (source : String) (a : StoredForm) : MovesFrom source a a :=
  ⟨rfl, .inl rfl⟩

/-- Writes out of one status compose: a form moved out of `source` is no longer in
it, so a later write out of `source` leaves it alone. -/
theorem MovesFrom.trans {source : String} {a b c : StoredForm} (first : MovesFrom source a b)
    (second : MovesFrom source b c) : MovesFrom source a c := by
  obtain ⟨sameId, kept | ⟨was, allowed⟩⟩ := first <;>
    obtain ⟨sameId', kept' | ⟨was', allowed'⟩⟩ := second
  · exact ⟨sameId'.trans sameId, .inl (kept'.trans kept)⟩
  · exact ⟨sameId'.trans sameId, .inr ⟨kept.symm.trans was', allowed'⟩⟩
  · exact ⟨sameId'.trans sameId, .inr ⟨was, by rw [kept']; exact allowed⟩⟩
  · exact absurd was' (Status.canTransition_ne allowed)

theorem MovesFrom.advances {source : String} {a b : StoredForm} (moved : MovesFrom source a b) :
    Advances a b := by
  obtain ⟨sameId, kept | ⟨was, allowed⟩⟩ := moved
  · exact ⟨sameId, .inl kept⟩
  · exact ⟨sameId, .inr (by rw [was]; exact allowed)⟩

/-- A form after a run of operations: the same form, its status reached from the one
it had by allowed moves. -/
def Evolves (a b : StoredForm) : Prop :=
  b.form.id = a.form.id ∧ Status.Reaches a.form.status b.form.status

theorem Advances.evolves {a b : StoredForm} (advanced : Advances a b) : Evolves a b := by
  obtain ⟨sameId, kept | moved⟩ := advanced
  · exact ⟨sameId, by rw [kept]; exact .refl⟩
  · exact ⟨sameId, .single moved⟩

theorem Evolves.trans {a b c : StoredForm} (first : Evolves a b) (second : Evolves b c) : Evolves a c :=
  ⟨second.1.trans first.1, first.2.trans second.2⟩

end StoredForm

open StoredForm

/-- The forms after writes out of `source`: each form in its place, moved as
`MovesFrom` allows. -/
def FormsMoveFrom (source : String) (old new : List StoredForm) : Prop :=
  List.Forall₂ (MovesFrom source) old new

/-- The forms after forms were only added, every new one SUBMITTED. -/
def FormsGrow (old new : List StoredForm) : Prop :=
  ∃ added, new = old ++ added ∧ ∀ f ∈ added, f.form.status = Status.submitted.code

/-- What one operation may do to the forms: keep each form it found in its place,
with its id, in its status or one allowed move on, and add forms after them, all
SUBMITTED. -/
def FormsAdvance (old new : List StoredForm) : Prop :=
  ∃ kept added, new = kept ++ added ∧ List.Forall₂ Advances old kept ∧
    ∀ f ∈ added, f.form.status = Status.submitted.code

/-- The forms after a run of operations: each one a form that was there, or one
that was handed in as SUBMITTED, moved along allowed moves since. -/
def FormsEvolve (old new : List StoredForm) : Prop :=
  ∃ origin, List.Forall₂ Evolves (old ++ origin) new ∧ ∀ f ∈ origin, f.form.status = Status.submitted.code

theorem forall₂_comp {α β γ : Type} {R : α → β → Prop} {S : β → γ → Prop} {T : α → γ → Prop}
    (comp : ∀ a b c, R a b → S b c → T a c) :
    ∀ {xs ys zs}, List.Forall₂ R xs ys → List.Forall₂ S ys zs → List.Forall₂ T xs zs
  | _, _, _, .nil, .nil => .nil
  | _, _, _, .cons r rest, .cons s rest' => .cons (comp _ _ _ r s) (forall₂_comp comp rest rest')

theorem forall₂_exists_left {α β : Type} {R : α → β → Prop} :
    ∀ {xs ys}, List.Forall₂ R xs ys → ∀ y ∈ ys, ∃ x ∈ xs, R x y
  | _, _, .nil, _, member => absurd member List.not_mem_nil
  | _, _, .cons r rest, y, member => by
    rcases List.mem_cons.mp member with rfl | later
    · exact ⟨_, List.mem_cons_self, r⟩
    · obtain ⟨x, source, related⟩ := forall₂_exists_left rest y later
      exact ⟨x, List.mem_cons_of_mem _ source, related⟩

namespace FormsMoveFrom

variable {source : String}

theorem refl (source : String) (forms : List StoredForm) : FormsMoveFrom source forms forms :=
  List.forall₂_same.mpr fun a _ => MovesFrom.refl source a

theorem trans {xs ys zs : List StoredForm} (first : FormsMoveFrom source xs ys)
    (second : FormsMoveFrom source ys zs) : FormsMoveFrom source xs zs :=
  forall₂_comp (fun _ _ _ moved moved' => moved.trans moved') first second

theorem advance {old new : List StoredForm} (moved : FormsMoveFrom source old new) :
    FormsAdvance old new :=
  ⟨new, [], (List.append_nil new).symm, moved.imp fun _ _ step => step.advances, by simp⟩

end FormsMoveFrom

namespace FormsGrow

theorem refl (forms : List StoredForm) : FormsGrow forms forms :=
  ⟨[], (List.append_nil forms).symm, by simp⟩

theorem trans {xs ys zs : List StoredForm} (first : FormsGrow xs ys) (second : FormsGrow ys zs) :
    FormsGrow xs zs := by
  obtain ⟨added, rfl, submitted⟩ := first
  obtain ⟨added', rfl, submitted'⟩ := second
  refine ⟨added ++ added', List.append_assoc _ _ _, fun f member => ?_⟩
  rcases List.mem_append.mp member with early | late
  · exact submitted f early
  · exact submitted' f late

theorem advance {old new : List StoredForm} (grown : FormsGrow old new) : FormsAdvance old new := by
  obtain ⟨added, rfl, submitted⟩ := grown
  exact ⟨old, added, rfl, List.forall₂_same.mpr fun a _ => ⟨rfl, .inl rfl⟩, submitted⟩

end FormsGrow

theorem FormsAdvance.refl (forms : List StoredForm) : FormsAdvance forms forms :=
  (FormsGrow.refl forms).advance

namespace FormsEvolve

theorem refl (forms : List StoredForm) : FormsEvolve forms forms :=
  ⟨[], by rw [List.append_nil]; exact List.forall₂_same.mpr fun a _ => ⟨rfl, .refl⟩, by simp⟩

theorem trans {xs ys zs : List StoredForm} (first : FormsEvolve xs ys) (second : FormsEvolve ys zs) :
    FormsEvolve xs zs := by
  obtain ⟨origin, evolved, submitted⟩ := first
  obtain ⟨origin', evolved', submitted'⟩ := second
  -- the forms handed in during the second run evolve from themselves through the first
  have carried : List.Forall₂ Evolves (xs ++ origin ++ origin') (ys ++ origin') :=
    List.rel_append evolved (List.forall₂_same.mpr fun a _ => ⟨rfl, .refl⟩)
  refine ⟨origin ++ origin', ?_, fun f member => ?_⟩
  · rw [← List.append_assoc]
    exact forall₂_comp (fun _ _ _ first second => first.trans second) carried evolved'
  · rcases List.mem_append.mp member with early | late
    · exact submitted f early
    · exact submitted' f late

theorem of_advance {old new : List StoredForm} (advanced : FormsAdvance old new) : FormsEvolve old new := by
  obtain ⟨kept, added, rfl, moved, submitted⟩ := advanced
  exact ⟨added, List.rel_append (moved.imp fun _ _ step => step.evolves)
    (List.forall₂_same.mpr fun a _ => ⟨rfl, .refl⟩), submitted⟩

/-- When every status found was reached from SUBMITTED, so is every status after. -/
theorem reaches {old new : List StoredForm} (evolved : FormsEvolve old new)
    (found : ∀ f ∈ old, Status.Reaches Status.submitted.code f.form.status) :
    ∀ f ∈ new, Status.Reaches Status.submitted.code f.form.status := by
  obtain ⟨origin, evolved, submitted⟩ := evolved
  intro f member
  obtain ⟨a, source, _, moved⟩ := forall₂_exists_left evolved f member
  rcases List.mem_append.mp source with before | handedIn
  · exact (found a before).trans moved
  · rw [← submitted a handedIn]
    exact moved

end FormsEvolve

/-! ### The table operations -/

namespace Tables

variable (t : Tables)

theorem updateWhere_moveFrom {source : String} {hit : Application → Bool} {change : StoredForm → StoredForm}
    (moved : ∀ s, hit s.form = true → MovesFrom source s (change s)) :
    FormsMoveFrom source t.forms (t.updateWhere hit change).2.forms := by
  simp only [updateWhere, FormsMoveFrom]
  rw [List.forall₂_map_right_iff]
  refine List.forall₂_same.mpr fun s _ => ?_
  split
  · rename_i chosen
    exact moved s chosen
  · exact MovesFrom.refl source s

theorem moveStatus_moveFrom (ids : List String) {source target : String}
    (allowed : Status.canTransition source target = true) :
    FormsMoveFrom source t.forms (t.moveStatus ids source target).2.forms :=
  t.updateWhere_moveFrom fun s chosen => ⟨rfl, .inr ⟨by simp at chosen; exact chosen.2, allowed⟩⟩

theorem reject_moveFrom (id : String) {source : String} (reason : String)
    (allowed : Status.canTransition source Status.rejected.code = true) :
    FormsMoveFrom source t.forms (t.reject id source reason).2.forms :=
  t.updateWhere_moveFrom fun s chosen => ⟨rfl, .inr ⟨by simp at chosen; exact chosen.2, allowed⟩⟩

/-- Saving second-round scores keeps a first-round passer's status, or moves it
along an allowed move when the form saved carries one. -/
theorem saveSecondRound_moveFrom {a : Application}
    (allowed : a.status = Status.firstPassed.code ∨
      Status.canTransition Status.firstPassed.code a.status = true) :
    FormsMoveFrom Status.firstPassed.code t.forms (t.saveSecondRound a).2.forms := by
  refine t.updateWhere_moveFrom fun s chosen => ⟨rfl, ?_⟩
  have passer : s.form.status = Status.firstPassed.code := by
    simp at chosen
    exact chosen.2
  rcases allowed with kept | moved
  · exact .inl (kept.trans passer.symm)
  · exact .inr ⟨passer, moved⟩

theorem insert_grows {t' : Tables} {a : Application} (submitted : a.status = Status.submitted.code)
    (ok : t.insert a = .ok t') : FormsGrow t.forms t'.forms := by
  unfold insert at ok
  split at ok
  · cases ok
  · cases ok
    exact ⟨_, rfl, by simpa using submitted⟩

theorem recordNotification_forms {t' : Tables} {n : NotificationRow}
    (ok : t.recordNotification n = some t') : t'.forms = t.forms := by
  unfold recordNotification at ok
  split at ok
  · cases ok
    rfl
  · cases ok

end Tables

/-! ### Runs that change a view only as a relation allows -/

namespace Run

variable {σ α β γ : Type} {R : γ → γ → Prop} {view : σ → γ}

/-- A run changes a view of the state only as `R` allows, whatever it answers. -/
def Moves (R : γ → γ → Prop) (view : σ → γ) (r : ExceptT Fault (StateM σ) α) : Prop :=
  ∀ s, R (view s) (view (r.run.run s).2)

theorem Keeps.moves (refl : ∀ x, R x x) {r : ExceptT Fault (StateM σ) α} (keeps : Keeps view r) :
    Moves R view r := by
  intro s
  rw [keeps s]
  exact refl _

theorem Moves.mono {R' : γ → γ → Prop} (weaker : ∀ x y, R x y → R' x y) {r : ExceptT Fault (StateM σ) α}
    (moves : Moves R view r) : Moves R' view r :=
  fun s => weaker _ _ (moves s)

theorem Moves.bind (trans : ∀ x y z, R x y → R y z → R x z) {r : ExceptT Fault (StateM σ) α}
    {f : α → ExceptT Fault (StateM σ) β} (first : Moves R view r) (rest : ∀ a, Moves R view (f a)) :
    Moves R view (r >>= f) := by
  intro s
  have before := first s
  rw [run_bind]
  rcases out : r.run.run s with ⟨_ | a, s'⟩ <;> rw [out] at before
  · exact before
  · exact trans _ _ _ before (rest a s')

theorem Moves.bind_keeps {r : ExceptT Fault (StateM σ) α} {f : α → ExceptT Fault (StateM σ) β}
    (first : Moves R view r) (rest : ∀ a, Keeps view (f a)) : Moves R view (r >>= f) := by
  intro s
  have before := first s
  rw [run_bind]
  rcases out : r.run.run s with ⟨_ | a, s'⟩ <;> rw [out] at before
  · exact before
  · rw [rest a s']
    exact before

theorem Keeps.bind_moves (refl : ∀ x, R x x) {r : ExceptT Fault (StateM σ) α}
    {f : α → ExceptT Fault (StateM σ) β} (first : Keeps view r) (rest : ∀ a, Moves R view (f a)) :
    Moves R view (r >>= f) := by
  intro s
  have before := first s
  rw [run_bind]
  rcases out : r.run.run s with ⟨_ | a, s'⟩ <;> rw [out] at before
  · rw [before]
    exact refl _
  · rw [← before]
    exact rest a s'

theorem keeps_throw_bind (e : Fault) (f : α → ExceptT Fault (StateM σ) β) : Keeps view (throw e >>= f) :=
  fun _ => rfl

theorem Moves.tryCatch {r : ExceptT Fault (StateM σ) α} {handle : Fault → ExceptT Fault (StateM σ) α}
    (first : Moves R view r) (recover : ∀ e, Keeps view (handle e)) : Moves R view (tryCatch r handle) := by
  intro s
  have before := first s
  rw [run_tryCatch]
  rcases out : r.run.run s with ⟨e | a, s'⟩ <;> rw [out] at before
  · rw [recover e s']
    exact before
  · exact before

theorem run_set_bind (s' s : σ) (f : PUnit → ExceptT Fault (StateM σ) β) :
    (set s' >>= f).run.run s = (f ⟨⟩).run.run s' := rfl

end Run

/-! ### The store's writes -/

namespace StoreRun

open Run

variable {α : Type}

theorem Keeps.forms {r : StoreRun α} (keeps : Keeps ApplicationStore.guarded r) : Keeps (·.tables.forms) r :=
  keeps.comp fun g => g.1.forms

/-! ### The status writes' moves -/

/-- The write changes the forms as its table operation does, or not at all. -/
theorem checkedWrite_moves (context : String) (st : Statement) (op : Tables → Nat × Tables)
    (expected : Nat) (stale : Nat → String) {R : List StoredForm → List StoredForm → Prop} (refl : ∀ x, R x x)
    (moved : ∀ t, R t.forms (op t).2.forms) :
    Moves R (·.tables.forms) (checkedWrite context st op expected stale) := by
  intro s
  have quiet := (attempt_keeps st).within context s
  rw [checkedWrite_run]
  rcases out : (within context (attempt st)).run.run s with ⟨e | _, s₁⟩ <;>
    simp only [out, ApplicationStore.guarded, Prod.mk.injEq] at quiet ⊢ <;> rw [quiet.1]
  · exact refl _
  · exact moved s.tables

/-- A move by ids moves forms only out of the status it was given, along an allowed
move, whatever it answers: also when it goes on to fail with STALE_STATUS. -/
theorem updateStatus_moveFrom (ids : List String) (source target : String) :
    Moves (FormsMoveFrom source) (·.tables.forms) (updateStatus ids source target) := by
  intro s
  rw [run_updateStatus]
  split_ifs with empty allowed
  · exact FormsMoveFrom.refl _ _
  · exact checkedWrite_moves _ _ _ _ _ (FormsMoveFrom.refl _) (fun t => t.moveStatus_moveFrom ids allowed) s
  · exact FormsMoveFrom.refl _ _

/-- A rejection moves a form only out of the status it was given, to REJECTED along
an allowed move, whatever it answers. -/
theorem reject_moveFrom (id source reason : String) :
    Moves (FormsMoveFrom source) (·.tables.forms) (reject id source reason) := by
  intro s
  rw [run_reject]
  split_ifs with allowed
  · exact checkedWrite_moves _ _ _ _ _ (FormsMoveFrom.refl _) (fun t => t.reject_moveFrom id reason allowed) s
  · exact FormsMoveFrom.refl _ _

/-- Saving second-round scores moves a form only out of FIRST_PASSED, and only to the
status the saved form carries when that is FIRST_PASSED itself or an allowed move,
whatever it answers. -/
theorem saveSecondRound_moveFrom (a : Application) :
    Moves (FormsMoveFrom Status.firstPassed.code) (·.tables.forms) (saveSecondRound a) := by
  intro s
  rw [run_saveSecondRound]
  split_ifs with allowed
  · exact checkedWrite_moves _ _ _ _ _ (FormsMoveFrom.refl _) (fun t => t.saveSecondRound_moveFrom allowed) s
  · exact FormsMoveFrom.refl _ _

/-- Inserting a SUBMITTED form only adds it after the others. -/
theorem insert_grows {a : Application} (submitted : a.status = Status.submitted.code) :
    Moves FormsGrow (·.tables.forms) (insert a) := by
  intro s
  have quiet := (attempt_keeps .insertForm).within "insert application" s
  simp only [insert, run_bind, run_tables]
  rcases out : (within "insert application" (attempt .insertForm)).run.run s with ⟨e | _, s₁⟩ <;>
    simp only [out, ApplicationStore.guarded, Prod.mk.injEq] at quiet ⊢
  · rw [quiet.1]
    exact FormsGrow.refl _
  · split
    · rename_i t inserted
      rw [quiet.1] at inserted
      exact s.tables.insert_grows submitted inserted
    · simp only [run_throw]
      rw [quiet.1]
      exact FormsGrow.refl _

/-- A transaction changes the forms only as its body does: when it fails it takes
everything back. -/
theorem withTx_moves {R : List StoredForm → List StoredForm → Prop} (refl : ∀ x, R x x) {body : StoreRun α}
    (keeps : Keeps (·.snapshot) body) (moves : Moves R (·.tables.forms) body) :
    Moves R (·.tables.forms) (withTx body) := by
  intro s
  have atomic := withTx_run body keeps s
  rcases out : (withTx body).run.run s with ⟨e | v, s'⟩ <;> rw [out] at atomic <;> dsimp only
  · rw [atomic]
    exact refl _
  · obtain ⟨s₀, s₁, start, ran, finish⟩ := atomic
    have moved := moves s₀
    simp only [ran, start] at moved
    rw [finish]
    exact moved

theorem find_keeps (id : String) : Keeps ApplicationStore.guarded (find id) :=
  ((attempt_keeps _).within _).bind fun _ =>
    (show Keeps ApplicationStore.guarded tables from fun _ => rfl).bind fun t => by
      cases t.find? id with
      | some a => exact keeps_pure a
      | none => exact keeps_throw _

theorem lockCategory_keeps (category : String) : Keeps ApplicationStore.guarded (lockCategory category) :=
  (attempt_keeps _).within _

theorem maxExaminationNumber_keeps (category : String) :
    Keeps ApplicationStore.guarded (maxExaminationNumber category) :=
  ((attempt_keeps _).bind fun _ =>
    (show Keeps ApplicationStore.guarded tables from fun _ => rfl).bind fun _ => keeps_pure _).within _

theorem hasForm_keeps (userId : String) : Keeps ApplicationStore.guarded (hasForm userId) :=
  ((outside_keeps _).bind fun _ =>
    (show Keeps ApplicationStore.guarded tables from fun _ => rfl).bind fun _ => keeps_pure _).within _

theorem sentNotifications_keeps (status : String) : Keeps ApplicationStore.guarded (sentNotifications status) :=
  ((outside_keeps _).bind fun _ =>
    (show Keeps ApplicationStore.guarded tables from fun _ => rfl).bind fun _ => keeps_pure _).within _

theorem recordNotification_keeps_forms (n : NotificationRow) : Keeps (·.tables.forms) (recordNotification n) := by
  intro s
  have quiet := (outside_keeps .recordNotification) s
  simp only [recordNotification, within, run_tryCatch, run_bind, run_tables]
  rcases out : (outside .recordNotification).run.run s with ⟨e | _, s₁⟩ <;>
    simp only [out, ApplicationStore.guarded, Prod.mk.injEq] at quiet ⊢
  · simp only [run_throw]
    exact congrArg Tables.forms quiet.1
  · cases recorded : s₁.tables.recordNotification n with
    | some t' =>
      simp only [run_setTables]
      rw [s₁.tables.recordNotification_forms recorded, quiet.1]
    | none =>
      simp only [run_throw]
      exact congrArg Tables.forms quiet.1

theorem insert_keeps_snapshot (a : Application) : Keeps (·.snapshot) (insert a) :=
  (((attempt_keeps _).within _).comp Prod.snd).bind fun _ =>
    (show Keeps (·.snapshot) tables from fun _ => rfl).bind fun t => by
      cases t.insert a with
      | ok t' => exact fun _ => rfl
      | error k => exact keeps_throw _

theorem reject_keeps_snapshot (id source reason : String) : Keeps (·.snapshot) (reject id source reason) := by
  intro s
  rw [run_reject]
  split_ifs
  · exact checkedWrite_keeps_snapshot _ _ _ _ _ s
  · rfl

/-! ### Stale writes -/

/-- A move by ids that goes through found every one of its forms still in `source`. -/
theorem updateStatus_current_of_ok {ids : List String} {source target : String} {s s' : ApplicationStore}
    (ok : (updateStatus ids source target).run.run s = (.ok (), s')) :
    (s.tables.moveStatus ids source target).1 = ids.length := by
  rw [run_updateStatus] at ok
  split_ifs at ok with empty allowed
  · rw [List.isEmpty_iff.mp empty]
    simp [Tables.moveStatus, Tables.updateWhere]
  · exact (checkedWrite_ok _ _ _ _ _ ok).1
  · cases ok

theorem reject_current_of_ok {id source reason : String} {s s' : ApplicationStore}
    (ok : (reject id source reason).run.run s = (.ok (), s')) : (s.tables.reject id source reason).1 = 1 := by
  rw [run_reject] at ok
  split_ifs at ok
  · exact (checkedWrite_ok _ _ _ _ _ ok).1
  · cases ok

theorem saveSecondRound_current_of_ok {a : Application} {s s' : ApplicationStore}
    (ok : (saveSecondRound a).run.run s = (.ok (), s')) : (s.tables.saveSecondRound a).1 = 1 := by
  rw [run_saveSecondRound] at ok
  split_ifs at ok
  · exact (checkedWrite_ok _ _ _ _ _ ok).1
  · cases ok

/-- A transaction whose body cannot go through from the tables it finds fails,
whatever faults wait, and ends with those tables. -/
theorem withTx_fails_of_never_ok {α : Type} {body : StoreRun α} (keeps : Keeps (·.snapshot) body)
    {s : ApplicationStore} (never : ∀ s₀ v s₁, s₀.tables = s.tables → body.run.run s₀ ≠ (.ok v, s₁)) :
    ∃ e s', (withTx body).run.run s = (.error e, s') ∧ s'.tables = s.tables := by
  have atomic := withTx_run body keeps s
  rcases out : (withTx body).run.run s with ⟨e | v, s'⟩ <;> rw [out] at atomic
  · exact ⟨e, s', rfl, atomic⟩
  · obtain ⟨s₀, s₁, start, ran, -⟩ := atomic
    exact absurd ran (never s₀ v s₁ start)

/-- Inside a transaction a write that is not `current` never commits: whatever
faults wait, the transaction fails and ends with the tables it found. -/
def TakenBackUnlessCurrent (w : StoreRun Unit) (s : ApplicationStore) (current : Prop) : Prop :=
  ¬current → ∃ e s', (withTx w).run.run s = (.error e, s') ∧ s'.tables = s.tables

theorem updateStatus_takenBack (ids : List String) (source target : String) (s : ApplicationStore) :
    TakenBackUnlessCurrent (updateStatus ids source target) s
      ((s.tables.moveStatus ids source target).1 = ids.length) :=
  fun stale => withTx_fails_of_never_ok (updateStatus_keeps _ _ _) fun _ _ _ start ran =>
    stale (start ▸ updateStatus_current_of_ok ran)

theorem reject_takenBack (id source reason : String) (s : ApplicationStore) :
    TakenBackUnlessCurrent (reject id source reason) s ((s.tables.reject id source reason).1 = 1) :=
  fun stale => withTx_fails_of_never_ok (reject_keeps_snapshot _ _ _) fun _ _ _ start ran =>
    stale (start ▸ reject_current_of_ok ran)

theorem saveSecondRound_takenBack (a : Application) (s : ApplicationStore) :
    TakenBackUnlessCurrent (saveSecondRound a) s ((s.tables.saveSecondRound a).1 = 1) :=
  fun stale => withTx_fails_of_never_ok (saveSecondRound_keeps _) fun _ _ _ start ran =>
    stale (start ▸ saveSecondRound_current_of_ok ran)

/-- A write in a transaction on `s`: when `current` holds, the transaction commits
the tables `t` the write left; otherwise it fails with STALE_STATUS and `detail`,
and ends with the tables it found. -/
def WritesWhenCurrent (w : StoreRun Unit) (s : ApplicationStore) (current : Prop) [Decidable current]
    (t : Tables) (detail : String) : Prop :=
  ∃ s', (withTx w).run.run s = (if current then .ok () else .error (staleStatus detail), s') ∧
    s'.tables = if current then t else s.tables

section Faultless

variable {s : ApplicationStore} (faultless : s.faults = [])
include faultless

/-- With no fault waiting, a move by ids along an allowed move writes the forms of
those ids still in `source`, and fails with STALE_STATUS unless there are as many of
them as ids. -/
theorem updateStatus_run_of_faultless (ids : List String) (source target : String) (named : ids ≠ [])
    (allowed : Status.canTransition source target = true) :
    (updateStatus ids source target).run.run s =
      (if (s.tables.moveStatus ids source target).1 = ids.length then .ok ()
        else .error (staleStatus (toString (s.tables.moveStatus ids source target).1 ++ " of " ++
          toString ids.length ++ " applications were in " ++ source)),
        { s.note Statement.updateStatus.kind with tables := (s.tables.moveStatus ids source target).2 }) := by
  have some : ¬ids.isEmpty = true := by simpa using named
  rw [run_updateStatus, if_neg some, if_pos allowed, checkedWrite_run_of_faultless faultless]

theorem reject_run_of_faultless (id source reason : String)
    (allowed : Status.canTransition source Status.rejected.code = true) :
    (reject id source reason).run.run s =
      (if (s.tables.reject id source reason).1 = 1 then .ok ()
        else .error (staleStatus ("application " ++ id ++ " is no longer " ++ source)),
        { s.note Statement.reject.kind with tables := (s.tables.reject id source reason).2 }) := by
  rw [run_reject, if_pos allowed, checkedWrite_run_of_faultless faultless]

theorem saveSecondRound_run_of_faultless (a : Application)
    (allowed : a.status = Status.firstPassed.code ∨ Status.canTransition Status.firstPassed.code a.status = true) :
    (saveSecondRound a).run.run s =
      (if (s.tables.saveSecondRound a).1 = 1 then .ok ()
        else .error (staleStatus ("application " ++ a.id ++ " is no longer FIRST_PASSED")),
        { s.note Statement.saveSecondRound.kind with tables := (s.tables.saveSecondRound a).2 }) := by
  rw [run_saveSecondRound, if_pos allowed, checkedWrite_run_of_faultless faultless]

/-- A transaction whose body fails, on a store with no fault waiting, fails with the
body's error and ends with the tables it found. -/
theorem run_withTx_of_faultless_of_error {α : Type} {body : StoreRun α} (keeps : Keeps (·.snapshot) body)
    {e : Fault} {s₁ : ApplicationStore}
    (ran : body.run.run { s.note Statement.begin.kind with snapshot := some s.tables } = (.error e, s₁)) :
    (withTx body).run.run s =
      (.error e, { s₁.note Statement.rollback.kind with tables := s.tables, snapshot := none }) := by
  have kept := keeps { s.note Statement.begin.kind with snapshot := some s.tables }
  rw [ran] at kept
  simp only [ApplicationStore.note_tables] at ran
  simp only [withTx, run_bind, within, run_tryCatch, outside, run_retried_of_faultless faultless,
    run_modify, run_map, ApplicationStore.note_tables, ran, run_pure, rollback, restore, run_throw]
  -- the body kept the snapshot the transaction took, and the rollback restores it
  dsimp only at kept
  rw [ApplicationStore.note_snapshot, kept, Option.getD_some]

theorem writesWhenCurrent_of_run {w : StoreRun Unit} (keeps : Keeps (·.snapshot) w) {current : Prop}
    [Decidable current] {t : Tables} {detail : String} {name : String}
    (ran : w.run.run { s.note Statement.begin.kind with snapshot := some s.tables } =
      (if current then .ok () else .error (staleStatus detail),
        { (s.note Statement.begin.kind).note name with tables := t, snapshot := some s.tables })) :
    WritesWhenCurrent w s current t detail := by
  by_cases holds : current
  · simp only [holds, if_true] at ran ⊢
    exact ⟨_, run_withTx_of_faultless faultless ran faultless, rfl⟩
  · simp only [holds, if_false] at ran ⊢
    exact ⟨_, run_withTx_of_faultless_of_error faultless keeps ran, rfl⟩

theorem updateStatus_writesWhenCurrent (ids : List String) (source target : String)
    (allowed : Status.canTransition source target = true) :
    WritesWhenCurrent (updateStatus ids source target) s
      ((s.tables.moveStatus ids source target).1 = ids.length) (s.tables.moveStatus ids source target).2
      (toString (s.tables.moveStatus ids source target).1 ++ " of " ++ toString ids.length ++
        " applications were in " ++ source) := by
  cases ids with
  | nil =>
    -- no ids, no statement: the transaction commits the tables as it found them
    have current : (s.tables.moveStatus [] source target).1 = ([] : List String).length := by
      simp [Tables.moveStatus, Tables.updateWhere]
    have ran : (updateStatus [] source target).run.run
        { s.note Statement.begin.kind with snapshot := some s.tables } =
        (.ok (), { s.note Statement.begin.kind with snapshot := some s.tables }) := rfl
    unfold WritesWhenCurrent
    rw [if_pos current, if_pos current, Tables.moveStatus_nil]
    exact ⟨_, run_withTx_of_faultless faultless ran faultless, rfl⟩
  | cons id rest =>
    exact writesWhenCurrent_of_run faultless (updateStatus_keeps _ _ _)
      (updateStatus_run_of_faultless (s := { s.note Statement.begin.kind with snapshot := some s.tables })
        faultless (id :: rest) source target (List.cons_ne_nil id rest) allowed)

theorem reject_writesWhenCurrent (id source reason : String)
    (allowed : Status.canTransition source Status.rejected.code = true) :
    WritesWhenCurrent (reject id source reason) s ((s.tables.reject id source reason).1 = 1)
      (s.tables.reject id source reason).2 ("application " ++ id ++ " is no longer " ++ source) :=
  writesWhenCurrent_of_run faultless (reject_keeps_snapshot _ _ _)
    (reject_run_of_faultless (s := { s.note Statement.begin.kind with snapshot := some s.tables })
      faultless id source reason allowed)

theorem saveSecondRound_writesWhenCurrent (a : Application)
    (allowed : a.status = Status.firstPassed.code ∨ Status.canTransition Status.firstPassed.code a.status = true) :
    WritesWhenCurrent (saveSecondRound a) s ((s.tables.saveSecondRound a).1 = 1) (s.tables.saveSecondRound a).2
      ("application " ++ a.id ++ " is no longer FIRST_PASSED") :=
  writesWhenCurrent_of_run faultless (saveSecondRound_keeps _)
    (saveSecondRound_run_of_faultless (s := { s.note Statement.begin.kind with snapshot := some s.tables })
      faultless a allowed)

end Faultless

end StoreRun

end Admissions
