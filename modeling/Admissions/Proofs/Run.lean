import Admissions.Failure

namespace Admissions.Run

variable {σ α β γ : Type}

theorem run_bind (r : ExceptT Fault (StateM σ) α) (f : α → ExceptT Fault (StateM σ) β) (s : σ) :
    (r >>= f).run.run s = match r.run.run s with
      | (.ok a, s') => (f a).run.run s'
      | (.error e, s') => (.error e, s') := by
  simp only [ExceptT.run_bind, StateT.run_bind]
  rcases r.run.run s with ⟨_ | _, s'⟩ <;> rfl

/-- A run of `r >>= f` that succeeds ran `r` to a value first, and `f` of it from there. -/
theorem run_bind_ok {r : ExceptT Fault (StateM σ) α} {f : α → ExceptT Fault (StateM σ) β} {s s' : σ}
    {b : β} (ok : (r >>= f).run.run s = (.ok b, s')) :
    ∃ a s₁, r.run.run s = (.ok a, s₁) ∧ (f a).run.run s₁ = (.ok b, s') := by
  rw [run_bind] at ok
  rcases out : r.run.run s with ⟨e | a, s₁⟩ <;> rw [out] at ok
  · cases ok
  · exact ⟨a, s₁, rfl, ok⟩

theorem run_tryCatch (r : ExceptT Fault (StateM σ) α) (handle : Fault → ExceptT Fault (StateM σ) α)
    (s : σ) :
    (tryCatch r handle).run.run s = match r.run.run s with
      | (.ok a, s') => (.ok a, s')
      | (.error e, s') => (handle e).run.run s' := by
  rw [ExceptT.run_tryCatch, StateT.run_bind]
  rcases r.run.run s with ⟨_ | _, s'⟩ <;> rfl

theorem run_map (f : α → β) (r : ExceptT Fault (StateM σ) α) (s : σ) :
    (r.map f).run.run s = match r.run.run s with
      | (.ok a, s') => (.ok (f a), s')
      | (.error e, s') => (.error e, s') := by
  show (ExceptT.map f r).run.run s = _
  simp only [ExceptT.map, ExceptT.run_mk, StateT.run_bind]
  rw [show StateT.run r s = r.run.run s from rfl]
  rcases r.run.run s with ⟨_ | _, s'⟩ <;> rfl

@[simp] theorem run_pure (a : α) (s : σ) :
    (pure a : ExceptT Fault (StateM σ) α).run.run s = (.ok a, s) := rfl

@[simp] theorem run_throw (e : Fault) (s : σ) :
    (throw e : ExceptT Fault (StateM σ) α).run.run s = (.error e, s) := rfl

@[simp] theorem run_get_bind (f : σ → ExceptT Fault (StateM σ) β) (s : σ) :
    (get >>= f).run.run s = (f s).run.run s := rfl

@[simp] theorem run_set (s' s : σ) :
    (set s' : ExceptT Fault (StateM σ) PUnit).run.run s = (.ok ⟨⟩, s') := rfl

@[simp] theorem run_modify (f : σ → σ) (s : σ) :
    (modify f : ExceptT Fault (StateM σ) PUnit).run.run s = (.ok ⟨⟩, f s) := rfl

/-- Two outcomes of runs are equal when their answers and their states are. -/
@[simp] theorem outcome_eq_iff {x y : Except Fault α} {s s' : σ} :
    @Eq (Id (Except Fault α × σ)) (x, s) (y, s') ↔ x = y ∧ s = s' :=
  Prod.ext_iff

/-- A run leaves a view of the state as it found it, whatever it answers. -/
def Keeps (view : σ → γ) (r : ExceptT Fault (StateM σ) α) : Prop :=
  ∀ s, view (r.run.run s).2 = view s

variable {view : σ → γ}

theorem keeps_pure (a : α) : Keeps view (pure a : ExceptT Fault (StateM σ) α) := fun _ => rfl

theorem keeps_throw (e : Fault) : Keeps view (throw e : ExceptT Fault (StateM σ) α) :=
  fun _ => rfl

theorem Keeps.bind {r : ExceptT Fault (StateM σ) α} {f : α → ExceptT Fault (StateM σ) β}
    (first : Keeps view r) (rest : ∀ a, Keeps view (f a)) : Keeps view (r >>= f) := by
  intro s
  rw [run_bind]
  rcases out : r.run.run s with ⟨_ | a, s'⟩
  · simpa [out] using first s
  · simpa [out, rest a s'] using first s

theorem Keeps.tryCatch {r : ExceptT Fault (StateM σ) α} {handle : Fault → ExceptT Fault (StateM σ) α}
    (first : Keeps view r) (recover : ∀ e, Keeps view (handle e)) :
    Keeps view (tryCatch r handle) := by
  intro s
  rw [run_tryCatch]
  rcases out : r.run.run s with ⟨e | a, s'⟩
  · simpa [out, recover e s'] using first s
  · simpa [out] using first s

theorem Keeps.comp {r : ExceptT Fault (StateM σ) α} {δ : Type} (keeps : Keeps view r)
    (f : γ → δ) : Keeps (f ∘ view) r := fun s => congrArg f (keeps s)

end Admissions.Run
