import Admissions.Proofs.Service
import Admissions.Selection.Batch

namespace Admissions.Batch

open Run Service

variable {α : Type}

theorem checkMarker_run (marker doneCode : String) (b : Backends) :
    if b.keys.failure = none ∧ b.keys.get? marker = none then
      (checkMarker marker doneCode).run.run b = (.ok (), b)
    else ∃ e, (checkMarker marker doneCode).run.run b = (.error e, b) := by
  cases working : b.keys.failure with
  | some text =>
    simp only [reduceCtorEq, false_and, if_false]
    simp only [checkMarker, run_bind, run_outcome, readMarker_failing working, run_throw]
    exact ⟨_, rfl⟩
  | none =>
    cases marked : b.keys.get? marker with
    | some run =>
      simp only [reduceCtorEq, and_false, if_false]
      simp only [checkMarker, run_bind, run_outcome, run_readMarker working, marked, run_throw]
      exact ⟨_, rfl⟩
    | none =>
      simp only [and_self, if_true]
      simp only [checkMarker, run_bind, run_outcome, run_readMarker working, marked, run_pure]

theorem checkMarker_keeps {γ : Type} (view : Backends → γ) (marker doneCode : String) :
    Keeps view (checkMarker marker doneCode) := by
  intro b
  have checked := checkMarker_run marker doneCode b
  split at checked
  · rw [checked]
  · obtain ⟨e, failed⟩ := checked
    rw [failed]

theorem lease_run (key : String) (time : Int) (b : Backends) :
    if b.keys.failure = none ∧ b.keys.get? key = none then
      (lease key time).run.run b = (.ok b.ids.next.1,
        { b with ids := b.ids.next.2, keys := b.keys.put key b.ids.next.1 (some time) })
    else ∃ e, (lease key time).run.run b = (.error e, { b with ids := b.ids.next.2 }) := by
  cases working : b.keys.failure with
  | some text =>
    simp only [reduceCtorEq, false_and, if_false]
    simp only [lease, run_bind, run_outcome, acquireLease_failing working]
    split <;> exact ⟨_, rfl⟩
  | none =>
    cases held : b.keys.get? key with
    | some token =>
      simp only [reduceCtorEq, and_false, if_false]
      simp only [lease, run_bind, run_outcome, run_acquireLease working, held, Option.isSome_some,
        if_true]
      split <;> exact ⟨_, rfl⟩
    | none =>
      simp only [and_self, if_true]
      simp only [lease, run_bind, run_outcome, run_acquireLease working, held, Option.isSome_none,
        Bool.false_eq_true, if_false, run_pure]

/-- While the key store works and the key is free, a body under a lease runs with
the lease taken by a fresh token, and the lease is given back after it, whatever it
answered. -/
theorem underLease_run_of_free (key : String) (time : Int) (body : Service α)
    (keepsLease : Keeps (fun b => (b.keys.failure, b.keys.get? key)) body) {b b₂ : Backends}
    {res : Except Fault α} (working : b.keys.failure = none) (free : b.keys.get? key = none)
    (ran : body.run.run { b with ids := b.ids.next.2, keys := b.keys.put key b.ids.next.1 (some time) } =
      (res, b₂)) :
    (underLease key time body).run.run b = (res, { b₂ with keys := b₂.keys.remove key }) := by
  have taken := lease_run key time b
  rw [if_pos ⟨working, free⟩] at taken
  have kept := keepsLease { b with ids := b.ids.next.2, keys := b.keys.put key b.ids.next.1 (some time) }
  simp only [ran, Prod.mk.injEq, KeyStore.put_failure, KeyStore.get?_put_self] at kept
  simp only [underLease, run_bind, taken, run_outcome, ran, run_attempt,
    run_releaseLease (kept.1.trans working), kept.2, if_true, run_ofExcept]

/-- When the key store fails or the key is held, the body does not run, and only
the token was drawn. -/
theorem underLease_run_of_busy (key : String) (time : Int) (body : Service α) {b : Backends}
    (busy : ¬(b.keys.failure = none ∧ b.keys.get? key = none)) :
    ∃ e, (underLease key time body).run.run b = (.error e, { b with ids := b.ids.next.2 }) := by
  have taken := lease_run key time b
  rw [if_neg busy] at taken
  obtain ⟨e, failed⟩ := taken
  simp only [underLease, run_bind, failed]
  exact ⟨e, rfl⟩

/-- While the marker is unset, the part of a one-shot batch under its lease runs
the body under a fresh run id and, only when the body succeeds, sets the marker to
that id. -/
theorem marked_run (marker doneCode : String) (body : String → Service α)
    (keepsKeys : ∀ runId, Keeps (·.keys) (body runId)) {b b₂ : Backends} {res : Except Fault α}
    (working : b.keys.failure = none) (unmarked : b.keys.get? marker = none)
    (ran : (body b.ids.next.1).run.run { b with ids := b.ids.next.2 } = (res, b₂)) :
    (marked marker doneCode body).run.run b =
      (res, { b₂ with keys := if res.isOk then b.keys.put marker b.ids.next.1 none else b.keys }) := by
  have checked := checkMarker_run marker doneCode b
  rw [if_pos ⟨working, unmarked⟩] at checked
  have kept : b₂.keys = b.keys := by
    simpa [ran] using keepsKeys b.ids.next.1 { b with ids := b.ids.next.2 }
  simp only [marked, run_bind, checked, run_freshId, ran]
  cases res with
  | error e =>
    simp only [Except.isOk, Except.toBool, Bool.false_eq_true, if_false, ← kept]
  | ok v =>
    simp only [run_attempt, run_setMarker (kept ▸ working), kept, run_pure, Except.isOk,
      Except.toBool, if_true]

/-- The part of a one-shot batch under its lease leaves the lease, and whether the
key store works, as it found them. -/
theorem marked_keeps_lease {leaseKey marker : String} (distinct : leaseKey ≠ marker)
    (doneCode : String) (body : String → Service α) (keepsKeys : ∀ runId, Keeps (·.keys) (body runId)) :
    Keeps (fun b => (b.keys.failure, b.keys.get? leaseKey)) (marked marker doneCode body) :=
  let lease (k : KeyStore) := (k.failure, k.get? leaseKey)
  (checkMarker_keeps _ marker doneCode).bind fun _ =>
    (freshId_keeps_keys.comp lease).bind fun runId =>
      ((keepsKeys runId).comp lease).bind fun v =>
        (attempt_keeps (setMarker_keeps_other distinct runId)).bind fun _ => keeps_pure v

/-- A one-shot batch that finds the key store working, its marker unset and its
lease free runs its body once, under the lease and a fresh run id. The lease is
given back after the body; the marker is set to the run id exactly when the body
succeeds. -/
theorem exclusively_run_of_ready (leaseKey marker doneCode : String) (time : Int)
    (body : String → Service α) (distinct : leaseKey ≠ marker)
    (keepsKeys : ∀ runId, Keeps (·.keys) (body runId)) {b b₂ : Backends} {res : Except Fault α}
    (working : b.keys.failure = none) (unmarked : b.keys.get? marker = none)
    (free : b.keys.get? leaseKey = none)
    (ran : (body b.ids.next.2.next.1).run.run
      { b with ids := b.ids.next.2.next.2, keys := b.keys.put leaseKey b.ids.next.1 (some time) } =
        (res, b₂)) :
    (exclusively leaseKey marker doneCode time body).run.run b =
      (res, { b₂ with keys := if res.isOk then b.keys.put marker b.ids.next.2.next.1 none else b.keys }) := by
  have checked := checkMarker_run marker doneCode b
  rw [if_pos ⟨working, unmarked⟩] at checked
  -- under the lease the key store still works and the marker is still unset
  have leased : (b.keys.put leaseKey b.ids.next.1 (some time)).failure = none := by
    rw [KeyStore.put_failure, working]
  have stillUnmarked : (b.keys.put leaseKey b.ids.next.1 (some time)).get? marker = none := by
    rw [KeyStore.get?_put_of_ne _ _ _ _ _ (Ne.symm distinct), unmarked]
  have inner := marked_run
    (b := { b with ids := b.ids.next.2, keys := b.keys.put leaseKey b.ids.next.1 (some time) })
    marker doneCode body keepsKeys leased stillUnmarked ran
  have given : (b.keys.put leaseKey b.ids.next.1 (some time)).remove leaseKey = b.keys :=
    KeyStore.remove_put_of_get?_eq_none _ _ _ _ free
  simp only [exclusively, run_bind, checked]
  rw [underLease_run_of_free leaseKey time _ (marked_keeps_lease distinct doneCode body keepsKeys)
    working free inner]
  by_cases ok : res.isOk
  · simp [ok, KeyStore.remove_put_of_ne _ _ _ _ _ distinct, given]
  · simp [ok, given]

/-- A one-shot batch that finds the key store failing, its marker set or its lease
held stops before its body, having changed neither the store nor the key store. -/
theorem exclusively_run_of_busy (leaseKey marker doneCode : String) (time : Int)
    (body : String → Service α) {b : Backends}
    (busy : ¬(b.keys.failure = none ∧ b.keys.get? marker = none ∧ b.keys.get? leaseKey = none)) :
    ∃ e ids, (exclusively leaseKey marker doneCode time body).run.run b = (.error e, { b with ids }) := by
  have checked := checkMarker_run marker doneCode b
  split at checked
  · rename_i fresh
    have held : ¬(b.keys.failure = none ∧ b.keys.get? leaseKey = none) :=
      fun ⟨working, free⟩ => busy ⟨working, fresh.2, free⟩
    obtain ⟨e, failed⟩ := underLease_run_of_busy leaseKey time (marked marker doneCode body) held
    simp only [exclusively, run_bind, checked, failed]
    exact ⟨e, _, rfl⟩
  · obtain ⟨e, failed⟩ := checked
    simp only [exclusively, run_bind, failed]
    exact ⟨e, b.ids, rfl⟩

end Admissions.Batch
