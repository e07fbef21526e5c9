import Admissions.Proofs.Locks
import Admissions.Proofs.Store.Transaction
import Admissions.Backends

namespace Admissions.Service

open Run

variable {α γ : Type} (b : Backends)

@[simp] theorem run_ofExcept (x : Except Fault α) : (ofExcept x).run.run b = (x, b) := by
  cases x <;> rfl

theorem run_onStore (r : StoreRun α) :
    (onStore r).run.run b = ((r.run.run b.store).1, { b with store := (r.run.run b.store).2 }) := by
  simp only [onStore, run_get_bind]
  rcases r.run.run b.store with ⟨res, s⟩
  simp only [run_bind, run_set, run_ofExcept]

@[simp] theorem run_freshId :
    freshId.run.run b = (.ok b.ids.next.1, { b with ids := b.ids.next.2 }) := rfl

@[simp] theorem run_stamp : stamp.run.run b = (.ok b.now.toUTC.format, b) := rfl

@[simp] theorem run_attempt (r : Service Unit) : (attempt r).run.run b = (.ok (), (r.run.run b).2) := by
  simp only [attempt, run_tryCatch]
  rcases r.run.run b with ⟨_ | _, b'⟩ <;> rfl

@[simp] theorem run_outcome (r : Service α) :
    (outcome r).run.run b = (.ok (r.run.run b).1, (r.run.run b).2) := by
  simp only [outcome, run_tryCatch, run_map]
  rcases r.run.run b with ⟨_ | _, b'⟩ <;> rfl

theorem run_onKeys (context : String) (cmd : KeyStore → Except String (α × KeyStore)) :
    (onKeys context cmd).run.run b = match cmd b.keys with
      | .ok (v, k) => (.ok v, { b with keys := k })
      | .error e => (.error (Fault.plain (context ++ ": " ++ e)), b) := by
  simp only [onKeys, run_get_bind]
  rcases cmd b.keys with e | ⟨v, k⟩ <;> rfl

section Working

variable {b} (working : b.keys.failure = none)
include working

theorem run_readMarker (key : String) : (readMarker key).run.run b = (.ok (b.keys.get? key), b) := by
  simp [readMarker, run_onKeys, KeyStore.read, Except.map, working]

theorem run_setMarker (key value : String) :
    (setMarker key value).run.run b = (.ok (), { b with keys := b.keys.put key value none }) := by
  simp [setMarker, run_onKeys, KeyStore.write, Except.map, working]

theorem run_releaseLease (key token : String) :
    (releaseLease key token).run.run b =
      (.ok (), { b with keys := if b.keys.get? key = some token then b.keys.remove key else b.keys }) := by
  simp [releaseLease, run_onKeys, KeyStore.removeIf, Except.map, working]

theorem run_acquireLease (key : String) (ttl : Int) :
    (acquireLease key ttl).run.run b =
      if (b.keys.get? key).isSome then
        (.error ⟨leaseHeld, .condition leaseHeldCondition⟩, { b with ids := b.ids.next.2 })
      else (.ok b.ids.next.1,
        { b with ids := b.ids.next.2, keys := b.keys.put key b.ids.next.1 (some ttl) }) := by
  by_cases held : (b.keys.get? key).isSome <;>
    simp only [acquireLease, run_bind, run_freshId, run_onKeys, KeyStore.setIfAbsent, working, held,
      if_true, if_false, Bool.false_eq_true] <;> rfl

end Working

section Failing

variable {b} {text : String} (failing : b.keys.failure = some text)
include failing

theorem readMarker_failing (key : String) :
    (readMarker key).run.run b = (.error (Fault.plain ("read marker " ++ key ++ ": " ++ text)), b) := by
  simp [readMarker, run_onKeys, KeyStore.read, Except.map, failing]

theorem acquireLease_failing (key : String) (ttl : Int) :
    (acquireLease key ttl).run.run b =
      (.error (Fault.plain ("acquire lock " ++ key ++ ": " ++ text)), { b with ids := b.ids.next.2 }) := by
  simp only [acquireLease, run_bind, run_freshId, run_onKeys, KeyStore.setIfAbsent, failing]

end Failing

theorem onStore_keeps_keys (r : StoreRun α) : Keeps (·.keys) (onStore r) := by
  intro b
  rw [run_onStore]

/-- A store run that keeps a view of the store keeps it, and the key store, in the
service. -/
theorem onStore_keeps {view : ApplicationStore → γ} {r : StoreRun α} (keeps : Keeps view r) :
    Keeps (fun b => (view b.store, b.keys)) (onStore r) := by
  intro b
  rw [run_onStore]
  exact congrArg (·, b.keys) (keeps b.store)

/-- A transaction run from the service is all or nothing: when it fails the tables
are as it found them; when it succeeds they are as its work left them, run from the
tables it found. -/
theorem onStore_withTx_run (work : StoreRun α) (keeps : Keeps (·.snapshot) work) :
    match (onStore (StoreRun.withTx work)).run.run b with
    | (.error _, b') => b'.store.tables = b.store.tables
    | (.ok v, b') => ∃ s₀ s₁, s₀.tables = b.store.tables ∧
        work.run.run s₀ = (.ok v, s₁) ∧ b'.store.tables = s₁.tables := by
  have atomic := StoreRun.withTx_run work keeps b.store
  rw [run_onStore]
  rcases out : (StoreRun.withTx work).run.run b.store with ⟨e | v, s'⟩ <;> rw [out] at atomic
  · exact atomic
  · exact atomic

theorem stamp_keeps (view : Backends → γ) : Keeps view stamp := fun _ => rfl

theorem freshId_keeps_keys : Keeps (·.keys) freshId := fun _ => rfl

theorem attempt_keeps {view : Backends → γ} {r : Service Unit} (keeps : Keeps view r) :
    Keeps view (attempt r) :=
  keeps.tryCatch fun _ => keeps_pure _

/-- Setting a marker sets it for good exactly while the key store works, and changes
nothing else. -/
theorem setMarker_backends (key value : String) (b : Backends) :
    ((setMarker key value).run.run b).2 =
      { b with keys := if b.keys.failure = none then b.keys.put key value none else b.keys } := by
  cases working : b.keys.failure with
  | some text =>
    simp only [setMarker, run_onKeys, KeyStore.write, Except.map, working, reduceCtorEq, if_false]
  | none => simp [run_setMarker working]

/-- Setting one marker leaves every other key, and whether the store works, as
they were. -/
theorem setMarker_keeps_other {key marker : String} (other : key ≠ marker) (value : String) :
    Keeps (fun b => (b.keys.failure, b.keys.get? key)) (setMarker marker value) := by
  intro b
  cases working : b.keys.failure with
  | none => simp [run_setMarker working, KeyStore.get?_put_of_ne _ _ _ _ _ other, working]
  | some text => simp [setMarker, run_onKeys, KeyStore.write, Except.map, working]

end Admissions.Service
