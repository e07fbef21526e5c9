import Admissions.Proofs.Selection.Calls
import Admissions.Proofs.Selection.Rank

namespace Admissions.Batch

open Run Service

namespace Call

/-- The token of a first pass from taking its lease until it writes its marker. -/
def guard : Call → Option String
  | ⟨.first _, .leased t⟩ => some t
  | ⟨.first _, .armed t _⟩ => some t
  | ⟨.first _, .committed t _ _⟩ => some t
  | _ => none

/-- A first pass past its second marker check, before its transaction. -/
def armed : Call → Bool
  | ⟨.first _, .armed ..⟩ => true
  | _ => false

/-- A first pass whose transaction committed and whose marker is still to be written. -/
def marking : Call → Bool
  | ⟨.first _, .committed ..⟩ => true
  | _ => false

/-- A first pass whose transaction committed. -/
def committed : Call → Bool
  | ⟨.first _, .committed ..⟩ => true
  | ⟨.first _, .releasing _ (.ok _)⟩ => true
  | ⟨.first _, .done (.ok _)⟩ => true
  | _ => false

theorem guard_isSome_of_armed {c : Call} (armed : c.armed) : c.guard.isSome := by
  rcases c with ⟨_ | _ | _, _ | _ | _ | _ | _ | _ | _⟩ <;> simp_all [Call.armed, Call.guard]

theorem guard_isSome_of_marking {c : Call} (marking : c.marking) : c.guard.isSome := by
  rcases c with ⟨_ | _ | _, _ | _ | _ | _ | _ | _ | _⟩ <;> simp_all [Call.marking, Call.guard]

theorem not_armed_of_marking {c : Call} (marking : c.marking) : c.armed = false := by
  rcases c with ⟨_ | _ | _, _ | _ | _ | _ | _ | _ | _⟩ <;> simp_all [Call.marking, Call.armed]

@[simp] theorem start_guard (j : Job) : Call.guard ⟨j, .start⟩ = none := by
  cases j <;> rfl

@[simp] theorem start_armed (j : Job) : Call.armed ⟨j, .start⟩ = false := by
  cases j <;> rfl

@[simp] theorem start_marking (j : Job) : Call.marking ⟨j, .start⟩ = false := by
  cases j <;> rfl

@[simp] theorem start_committed (j : Job) : Call.committed ⟨j, .start⟩ = false := by
  cases j <;> rfl

end Call

/-- The first passes that committed. -/
def System.commits (sys : System) : Nat := sys.calls.countP Call.committed

/-! ### What one step of a first pass does -/

/-- Where one step takes a first pass: past its marker check, to its lease (only while
the key store works and the lease is free, and then the lease holds the token drawn),
past its second check (only while the marker is unset), through its transaction, to its
marker write and to giving its lease back. -/
theorem first_advance_cases (s : SelectionSettings) (st : Stage) (b : Backends) :
    (st = .start ∧ (((Job.first s).advance st b).1 = .checked ∨
        ∃ e, ((Job.first s).advance st b).1 = .done (.error e))) ∨
    (st = .checked ∧ ((b.keys.failure = none ∧ b.keys.get? firstPassLease = none ∧
        ((Job.first s).advance st b).1 = .leased b.ids.next.1 ∧
        ((Job.first s).advance st b).2.keys.get? firstPassLease = some b.ids.next.1) ∨
      ∃ e, ((Job.first s).advance st b).1 = .done (.error e))) ∨
    (∃ t, st = .leased t ∧ ((b.keys.failure = none ∧ b.keys.get? firstPassMarker = none ∧
        ∃ runId, ((Job.first s).advance st b).1 = .armed t runId) ∨
      ∃ e, ((Job.first s).advance st b).1 = .releasing t (.error e))) ∨
    (∃ t runId, st = .armed t runId ∧ ((∃ a, ((Job.first s).advance st b).1 = .committed t runId a) ∨
      ∃ e, ((Job.first s).advance st b).1 = .releasing t (.error e))) ∨
    (∃ t runId a, st = .committed t runId a ∧ ((Job.first s).advance st b).1 = .releasing t (.ok a)) ∨
    (∃ t outcome, st = .releasing t outcome ∧ ((Job.first s).advance st b).1 = .done outcome) ∨
    (∃ outcome, st = .done outcome ∧ ((Job.first s).advance st b).1 = .done outcome) := by
  have marks : (Job.first s).marker? = some (firstPassMarker, "FIRST_PASS_ALREADY_SELECTED") := rfl
  cases st with
  | start =>
    have first := Job.advance_start_of_marker marks b
    refine .inl ⟨rfl, ?_⟩
    split at first
    · exact .inl (by rw [first])
    · obtain ⟨e, stopped⟩ := first
      exact .inr ⟨e, by rw [stopped]⟩
  | checked =>
    have taken := Job.advance_lease (Job.first s) (.inl rfl) b
    refine .inr (.inl ⟨rfl, ?_⟩)
    split at taken
    · rename_i ready
      refine .inl ⟨ready.1, ready.2, by rw [taken], ?_⟩
      rw [taken]
      exact KeyStore.get?_put_self _ _ _ _
    · obtain ⟨e, stopped⟩ := taken
      exact .inr ⟨e, by rw [stopped]⟩
  | leased t =>
    have again := Job.advance_leased_of_marker marks t b
    refine .inr (.inr (.inl ⟨t, rfl, ?_⟩))
    split at again
    · rename_i ready
      exact .inl ⟨ready.1, ready.2, _, by rw [again]⟩
    · obtain ⟨e, stopped⟩ := again
      exact .inr ⟨e, by rw [stopped]⟩
  | armed t runId =>
    refine .inr (.inr (.inr (.inl ⟨t, runId, rfl, ?_⟩)))
    rw [Job.advance_armed]
    rcases ((Job.first s).work runId).run.run b with ⟨e | a, b'⟩
    · exact .inr ⟨e, rfl⟩
    · exact .inl ⟨a, rfl⟩
  | committed t runId a =>
    exact .inr (.inr (.inr (.inr (.inl ⟨t, runId, a, rfl, by
      rw [Job.advance_committed_of_marker marks]⟩))))
  | releasing t outcome =>
    exact .inr (.inr (.inr (.inr (.inr (.inl ⟨t, outcome, rfl, by rw [Job.advance_releasing]⟩)))))
  | done outcome => exact .inr (.inr (.inr (.inr (.inr (.inr ⟨outcome, rfl, rfl⟩)))))

section Working

variable (s : SelectionSettings) {b : Backends} (working : b.keys.failure = none)
include working

theorem first_start_of_unmarked (unmarked : b.keys.get? firstPassMarker = none) :
    (Job.first s).advance .start b = (.checked, b) := by
  have checked := Job.advance_start_of_marker (j := .first s) rfl b
  rwa [if_pos ⟨working, unmarked⟩] at checked

theorem first_checked_of_free (free : b.keys.get? firstPassLease = none) :
    (Job.first s).advance .checked b = (.leased b.ids.next.1,
      { b with ids := b.ids.next.2, keys := b.keys.put firstPassLease b.ids.next.1 (some s.leaseTime) }) := by
  have taken := Job.advance_lease (Job.first s) (.inl rfl) b
  rwa [if_pos ⟨working, free⟩] at taken

theorem first_leased_of_unmarked (unmarked : b.keys.get? firstPassMarker = none) (token : String) :
    (Job.first s).advance (.leased token) b = (.armed token b.ids.next.1, { b with ids := b.ids.next.2 }) := by
  have again := Job.advance_leased_of_marker (j := .first s) rfl token b
  rwa [if_pos ⟨working, unmarked⟩] at again

theorem first_committed_of_working (token runId : String) (answer : Answer) :
    (Job.first s).advance (.committed token runId answer) b =
      (.releasing token (.ok answer), { b with keys := b.keys.put firstPassMarker runId none }) := by
  rw [Job.advance_committed_of_marker (j := .first s) rfl, run_setMarker working]

theorem first_releasing_of_working (token : String) (outcome : Except Fault Answer) :
    (Job.first s).advance (.releasing token outcome) b = (.done outcome,
      { b with keys := if b.keys.get? firstPassLease = some token then b.keys.remove firstPassLease
                       else b.keys }) := by
  rw [Job.advance_releasing, run_releaseLease working]
  rfl

end Working

theorem first_checked_of_held (s : SelectionSettings) {b : Backends}
    (held : b.keys.get? firstPassLease ≠ none) :
    ∃ e, (Job.first s).advance .checked b = (.done (.error e), { b with ids := b.ids.next.2 }) := by
  have taken := Job.advance_lease (Job.first s) (.inl rfl) b
  rwa [if_neg fun ready => held ready.2] at taken

/-- A first pass that finds the key store working, its marker unset and its lease free
takes the lease and arms in three steps. -/
theorem first_alone_arms (s : SelectionSettings) {b : Backends} (working : b.keys.failure = none)
    (unmarked : b.keys.get? firstPassMarker = none) (free : b.keys.get? firstPassLease = none) :
    (Job.first s).alone 3 .start b = (.armed b.ids.next.1 b.ids.next.2.next.1,
      { b with ids := b.ids.next.2.next.2,
               keys := b.keys.put firstPassLease b.ids.next.1 (some s.leaseTime) }) := by
  have stillUnmarked :
      (b.keys.put firstPassLease b.ids.next.1 (some s.leaseTime)).get? firstPassMarker = none := by
    rw [KeyStore.get?_put_of_ne _ _ _ _ _ (by decide)]
    exact unmarked
  rw [Job.alone_succ, first_start_of_unmarked s working unmarked, Job.alone_succ,
    first_checked_of_free s working free, Job.alone_succ,
    first_leased_of_unmarked s (by simp [working]) stillUnmarked]
  rfl

/-- A first pass at its transaction commits on a store with no fault waiting, whenever its
selection goes through and every passer is still received. -/
theorem first_armed_commits (s : SelectionSettings) {b : Backends} (faultless : b.store.faults = [])
    {r : SelectionResult}
    (selected : Selection.firstPass (b.store.tables.inStatuses ["RECEIVED"]) s.quota = .ok r)
    (current : (b.store.tables.moveStatus r.passedIds "RECEIVED" "FIRST_PASSED").1 = r.passedIds.length)
    (token runId : String) :
    ∃ a store, (Job.first s).advance (.armed token runId) b = (.committed token runId a, { b with store }) ∧
      store.faults = [] ∧ store.tables = (b.store.tables.moveStatus r.passedIds "RECEIVED" "FIRST_PASSED").2 := by
  obtain ⟨s', committed, faultless', tables'⟩ :=
    withTx_markFirstRound_of_faultless s.quota faultless selected current
  rw [Job.advance_armed]
  simp only [Job.work, run_bind, run_commitPass_of_committed runId _ _ committed, run_pure]
  exact ⟨_, s', rfl, faultless', tables'⟩

/-- What a step may do to the first pass's exclusion, taking call `q` to `q'` and the
backends from `b` to `b'`: a call starts to guard only by taking a free lease, arms only
past a check that found the marker unset, commits only from armed, and moves on from its
commit. -/
structure GuardMoves (b b' : Backends) (q q' : Call) : Prop where
  guard : ∀ t, q'.guard = some t → q.guard = some t ∨
    (b.keys.get? firstPassLease = none ∧ b'.keys.get? firstPassLease = some t)
  arms : q'.armed → q.armed = false →
    b.keys.get? firstPassMarker = none ∧ q.guard.isSome ∧ q.marking = false
  commits : q'.committed = q.committed ∨ (q.armed ∧ q'.marking)
  leaves : q.marking → q' ≠ q

/-- A step of a call, seen by the call against backends `b₀`: the backends it was
taken on, or a key store that failed the step's command. -/
theorem moves_of_seen (c : Call) {b b₀ b' : Backends}
    (seen : b₀.keys.failure ≠ none ∨ b₀ = b ∧ b' = (c.job.advance c.stage b₀).2) :
    GuardMoves b b' c ⟨c.job, (c.job.advance c.stage b₀).1⟩ := by
  rcases c with ⟨_ | _ | _, st⟩
  case first s =>
    have cases := first_advance_cases s st b₀
    refine ⟨?_, ?_, ?_, ?_⟩
    · intro t guarded
      rcases cases with ⟨rfl, next | ⟨e, next⟩⟩ | ⟨rfl, ⟨working, free, next, holds⟩ | ⟨e, next⟩⟩ |
          ⟨t', rfl, ⟨-, -, runId, next⟩ | ⟨e, next⟩⟩ | ⟨t', runId, rfl, ⟨a, next⟩ | ⟨e, next⟩⟩ |
          ⟨t', runId, a, rfl, next⟩ | ⟨t', o, rfl, next⟩ | ⟨o, rfl, next⟩ <;>
        simp only [next, Call.guard, reduceCtorEq, Option.some.injEq] at guarded ⊢
      · -- the lease was taken, and only on the backends the step ran on
        rcases seen with failing | ⟨rfl, rfl⟩
        · exact absurd working failing
        · exact .inr ⟨free, guarded ▸ holds⟩
      · exact .inl guarded
      · exact .inl guarded
    · intro armed notBefore
      rcases cases with ⟨rfl, next | ⟨e, next⟩⟩ | ⟨rfl, ⟨-, -, next, -⟩ | ⟨e, next⟩⟩ |
          ⟨t', rfl, ⟨working, unmarked, runId, next⟩ | ⟨e, next⟩⟩ |
          ⟨t', runId, rfl, ⟨a, next⟩ | ⟨e, next⟩⟩ |
          ⟨t', runId, a, rfl, next⟩ | ⟨t', o, rfl, next⟩ | ⟨o, rfl, next⟩ <;>
        simp only [next, Call.armed, Bool.false_eq_true] at armed notBefore
      -- it armed past a check that found the marker unset
      rcases seen with failing | ⟨rfl, -⟩
      · exact absurd working failing
      · exact ⟨unmarked, rfl, rfl⟩
    · rcases cases with ⟨rfl, next | ⟨e, next⟩⟩ | ⟨rfl, ⟨-, -, next, -⟩ | ⟨e, next⟩⟩ |
          ⟨t', rfl, ⟨-, -, runId, next⟩ | ⟨e, next⟩⟩ | ⟨t', runId, rfl, ⟨a, next⟩ | ⟨e, next⟩⟩ |
          ⟨t', runId, a, rfl, next⟩ | ⟨t', _ | _, rfl, next⟩ | ⟨_ | _, rfl, next⟩ <;>
        simp [next, Call.committed, Call.armed, Call.marking]
    · intro marking same
      rcases cases with ⟨rfl, -⟩ | ⟨rfl, -⟩ | ⟨t', rfl, -⟩ | ⟨t', runId, rfl, -⟩ |
          ⟨t', runId, a, rfl, next⟩ | ⟨t', o, rfl, -⟩ | ⟨o, rfl, -⟩ <;>
        simp_all [Call.marking]
  all_goals exact ⟨by simp [Call.guard], by simp [Call.armed], by simp [Call.committed],
    by simp [Call.marking]⟩

/-! ### The exclusion invariant -/

/-- An event keeps the first pass's guards: the marker, once set for good, stays set; a
first pass that moves on from its commit leaves the marker set for good; and a first pass
that holds the lease and still needs it after the event still holds it. -/
structure KeepsGuards (sys : System) (e : Event) : Prop where
  marker : sys.backends.keys.lasting firstPassMarker →
    (sys.apply e).backends.keys.lasting firstPassMarker
  written : ∀ (i : Nat) (c : Call), sys.calls[i]? = some c → c.marking → (sys.apply e).calls[i]? ≠ some c →
    (sys.apply e).backends.keys.lasting firstPassMarker
  lease : ∀ (i : Nat) (c c' : Call) (t : String), sys.calls[i]? = some c → c.guard = some t →
    sys.backends.keys.get? firstPassLease = some t → (sys.apply e).calls[i]? = some c' →
    c'.guard = some t → (sys.apply e).backends.keys.get? firstPassLease = some t

/-- Every event of a run keeps the guards, each at the system it comes to. -/
def GuardsKept : System → List Event → Prop
  | _, [] => True
  | sys, e :: events => KeepsGuards sys e ∧ GuardsKept (sys.apply e) events

variable {sys : System} {e : Event}

theorem KeepsGuards.of_keys (same : (sys.apply e).backends.keys = sys.backends.keys)
    (noMarking : ∀ c ∈ sys.calls, c.marking = false) : KeepsGuards sys e where
  marker lasting := same ▸ lasting
  written i c found marking _ := by
    rw [noMarking c (List.mem_of_getElem? found)] at marking
    cases marking
  lease _ _ _ _ _ _ holds _ _ := same ▸ holds

theorem KeepsGuards.of_unguarded (unguarded : ∀ c ∈ sys.calls, c.guard = none)
    (lasting : sys.backends.keys.lasting firstPassMarker = false) : KeepsGuards sys e where
  marker set := by
    rw [lasting] at set
    cases set
  written i c found marking _ := by
    have guarded := Call.guard_isSome_of_marking marking
    rw [unguarded c (List.mem_of_getElem? found)] at guarded
    cases guarded
  lease i c _ t found guarded _ _ _ := by
    rw [unguarded c (List.mem_of_getElem? found)] at guarded
    cases guarded

theorem KeepsGuards.of_marked (lasting : (sys.apply e).backends.keys.lasting firstPassMarker)
    (unguarded : ∀ c ∈ (sys.apply e).calls, c.guard = none) : KeepsGuards sys e where
  marker _ := lasting
  written _ _ _ _ _ := lasting
  lease _ _ c' t _ _ _ found guarded := by
    rw [unguarded c' (List.mem_of_getElem? found)] at guarded
    cases guarded

/-- What keeps first passes apart: a first pass holds the lease from taking it until it
writes its marker, and only one first pass is there at a time; a first pass arms only
while none has committed; and once one has, the marker is set for good or its writer is
still to write it. -/
structure Exclusive (sys : System) : Prop where
  holds : ∀ (i : Nat) (c : Call) (t : String), sys.calls[i]? = some c → c.guard = some t →
    sys.backends.keys.get? firstPassLease = some t
  alone : ∀ (i k : Nat) (c d : Call), sys.calls[i]? = some c → sys.calls[k]? = some d →
    c.guard.isSome →
    d.guard.isSome → i = k
  armedFirst : ∀ c ∈ sys.calls, c.armed → sys.commits = 0
  atMostOne : sys.commits ≤ 1
  marked : sys.commits = 1 → sys.backends.keys.lasting firstPassMarker ∨ ∃ c ∈ sys.calls, c.marking

theorem Exclusive.empty (b : Backends) : Exclusive ⟨b, []⟩ where
  holds := by simp
  alone := by simp
  armedFirst := by simp
  atMostOne := by simp [System.commits]
  marked := by simp [System.commits]

/-- An event that moves no call keeps the exclusion, as long as it keeps the guards. -/
theorem Exclusive.frame (ex : Exclusive sys) (kept : KeepsGuards sys e)
    (same : (sys.apply e).calls = sys.calls) : Exclusive (sys.apply e) := by
  have counted : (sys.apply e).commits = sys.commits := by simp only [System.commits, same]
  refine ⟨?_, ?_, ?_, ?_, ?_⟩
  · intro i c t found guarded
    rw [same] at found
    exact kept.lease i c c t found guarded (ex.holds i c t found guarded) (same ▸ found) guarded
  · rw [same]
    exact ex.alone
  · rw [same, counted]
    exact ex.armedFirst
  · rw [counted]
    exact ex.atMostOne
  · rw [same, counted]
    intro one
    rcases ex.marked one with lasting | marking
    · exact .inl (kept.marker lasting)
    · exact .inr marking

/-- A call coming in starts before its marker check, so it changes nothing. -/
theorem Exclusive.call (ex : Exclusive sys) (j : Job) : Exclusive (sys.apply (.call j)) := by
  have appended : (sys.apply (.call j)).calls = sys.calls ++ [⟨j, .start⟩] := rfl
  have counted : (sys.apply (.call j)).commits = sys.commits := by
    simp [System.commits, appended]
  -- a call found in the longer list is an old one at its old index, or the new one
  have old : ∀ (i : Nat) (c : Call), (sys.apply (.call j)).calls[i]? = some c →
      sys.calls[i]? = some c ∨ c = ⟨j, .start⟩ := by
    intro i c found
    rw [appended, List.getElem?_append] at found
    split at found
    · exact .inl found
    · rw [List.getElem?_singleton] at found
      split at found
      · exact .inr (Option.some.inj found).symm
      · cases found
  refine ⟨?_, ?_, ?_, ?_, ?_⟩
  · intro i c t found guarded
    rcases old i c found with found | rfl
    · exact ex.holds i c t found guarded
    · simp at guarded
  · intro i k c d foundC foundD guardC guardD
    rcases old i c foundC with foundC | rfl
    · rcases old k d foundD with foundD | rfl
      · exact ex.alone i k c d foundC foundD guardC guardD
      · simp at guardD
    · simp at guardC
  · intro c member armed
    rw [appended, List.mem_append, List.mem_singleton] at member
    rcases member with member | rfl
    · rw [counted]
      exact ex.armedFirst c member armed
    · simp at armed
  · rw [counted]
    exact ex.atMostOne
  · rw [counted, appended]
    intro one
    rcases ex.marked one with lasting | ⟨c, member, marking⟩
    · exact .inl lasting
    · exact .inr ⟨c, List.mem_append_left _ member, marking⟩

section Move

/-! A step of call `i` from `q` to `q'`, the backends going to `b'`: each field of the
exclusion after it, from the fields before it and what one step may do (`GuardMoves`). -/

variable {i : Nat} {q q' : Call} {b' : Backends}

theorem System.commits_set (found : sys.calls[i]? = some q) :
    (⟨b', sys.calls.set i q'⟩ : System).commits =
      sys.commits - (if q.committed then 1 else 0) + (if q'.committed then 1 else 0) := by
  obtain ⟨within, atIndex⟩ := List.getElem?_eq_some_iff.mp found
  rw [System.commits, System.commits, List.countP_set within, atIndex]

theorem System.commits_set_of_same (found : sys.calls[i]? = some q) (same : q'.committed = q.committed) :
    (⟨b', sys.calls.set i q'⟩ : System).commits = sys.commits := by
  rw [System.commits_set found, same]
  cases committed : q.committed
  · simp
  · have present : 1 ≤ sys.commits :=
      List.countP_pos_iff.mpr ⟨q, List.mem_of_getElem? found, committed⟩
    simp only [if_true]
    omega

theorem Exclusive.holds_set (ex : Exclusive sys) (kept : KeepsGuards sys e) (found : sys.calls[i]? = some q)
    (moves : GuardMoves sys.backends b' q q') (after : sys.apply e = ⟨b', sys.calls.set i q'⟩) :
    ∀ (k : Nat) (c : Call) (t : String), (sys.calls.set i q')[k]? = some c → c.guard = some t →
      b'.keys.get? firstPassLease = some t := by
  obtain ⟨within, -⟩ := List.getElem?_eq_some_iff.mp found
  have here : (sys.calls.set i q')[i]? = some q' := List.getElem?_set_self within
  have lease := kept.lease
  rw [after] at lease
  intro k c t foundC guarded
  by_cases same : i = k
  · subst same
    rw [here] at foundC
    cases foundC
    rcases moves.guard t guarded with before | ⟨-, now⟩
    · exact lease i q q' t found before (ex.holds i q t found before) here guarded
    · exact now
  · rw [List.getElem?_set_ne same] at foundC
    exact lease k c c t foundC guarded (ex.holds k c t foundC guarded)
      (by rw [List.getElem?_set_ne same]; exact foundC) guarded

theorem Exclusive.alone_set (ex : Exclusive sys) (found : sys.calls[i]? = some q)
    (moves : GuardMoves sys.backends b' q q') :
    ∀ (k l : Nat) (c d : Call), (sys.calls.set i q')[k]? = some c → (sys.calls.set i q')[l]? = some d →
      c.guard.isSome → d.guard.isSome → k = l := by
  obtain ⟨within, -⟩ := List.getElem?_eq_some_iff.mp found
  have here : (sys.calls.set i q')[i]? = some q' := List.getElem?_set_self within
  -- a call guarding elsewhere guarded there before the step, so the lease was not free
  have otherGuard : ∀ (l : Nat) (d : Call), i ≠ l → (sys.calls.set i q')[l]? = some d → d.guard.isSome →
      q'.guard.isSome → i = l := by
    intro l d other foundD guardD guardQ
    rw [List.getElem?_set_ne other] at foundD
    obtain ⟨t, guarded⟩ := Option.isSome_iff_exists.mp guardQ
    rcases moves.guard t guarded with before | ⟨free, -⟩
    · exact ex.alone i l q d found foundD (by simp [before]) guardD
    · obtain ⟨t', guardedD⟩ := Option.isSome_iff_exists.mp guardD
      rw [ex.holds l d t' foundD guardedD] at free
      cases free
  intro k l c d foundC foundD guardC guardD
  by_cases atK : i = k
  · subst atK
    rw [here] at foundC
    cases foundC
    by_cases atL : i = l
    · exact atL
    · exact otherGuard l d atL foundD guardD guardC
  · by_cases atL : i = l
    · subst atL
      rw [here] at foundD
      cases foundD
      exact (otherGuard k c atK foundC guardC guardD).symm
    · rw [List.getElem?_set_ne atK] at foundC
      rw [List.getElem?_set_ne atL] at foundD
      exact ex.alone k l c d foundC foundD guardC guardD

/-- A call that moves to armed does so past a check that found the marker unset, which
no commit allows; one armed before cannot commit while another call is armed. -/
theorem Exclusive.armedFirst_set (ex : Exclusive sys) (found : sys.calls[i]? = some q)
    (moves : GuardMoves sys.backends b' q q') :
    ∀ c ∈ sys.calls.set i q', c.armed → (⟨b', sys.calls.set i q'⟩ : System).commits = 0 := by
  obtain ⟨within, -⟩ := List.getElem?_eq_some_iff.mp found
  have here : (sys.calls.set i q')[i]? = some q' := List.getElem?_set_self within
  intro c member armed
  obtain ⟨k, foundC⟩ := List.mem_iff_getElem?.mp member
  by_cases same : i = k
  · subst same
    rw [here] at foundC
    obtain rfl := Option.some.inj foundC
    -- an armed call is not marking, so it did not commit in this step
    have notMarking : q'.marking = false := by
      cases marking : q'.marking
      · rfl
      · rw [Call.not_armed_of_marking marking] at armed
        cases armed
    have equal : q'.committed = q.committed := by
      rcases moves.commits with equal | ⟨-, marking⟩
      · exact equal
      · rw [notMarking] at marking
        cases marking
    rw [System.commits_set_of_same found equal]
    cases armedBefore : q.armed
    · obtain ⟨unmarked, guardQ, notMarkingQ⟩ := moves.arms armed armedBefore
      rcases Nat.eq_zero_or_pos sys.commits with none | some
      · exact none
      exfalso
      rcases ex.marked (by have := ex.atMostOne; omega) with lasting | ⟨d, memberD, marking⟩
      · exact KeyStore.get?_ne_none_of_lasting lasting unmarked
      · obtain ⟨l, foundD⟩ := List.mem_iff_getElem?.mp memberD
        have atL := ex.alone i l q d found foundD guardQ (Call.guard_isSome_of_marking marking)
        subst atL
        rw [found] at foundD
        obtain rfl := Option.some.inj foundD
        rw [notMarkingQ] at marking
        cases marking
    · exact ex.armedFirst q (List.mem_of_getElem? found) armedBefore
  · rw [List.getElem?_set_ne same] at foundC
    have none := ex.armedFirst c (List.mem_of_getElem? foundC) armed
    rcases moves.commits with equal | ⟨armedQ, -⟩
    · rw [System.commits_set_of_same found equal, none]
    · -- two armed calls would both guard
      exact absurd (ex.alone i k q c found foundC (Call.guard_isSome_of_armed armedQ)
        (Call.guard_isSome_of_armed armed)) same

theorem Exclusive.atMostOne_set (ex : Exclusive sys) (found : sys.calls[i]? = some q)
    (moves : GuardMoves sys.backends b' q q') : (⟨b', sys.calls.set i q'⟩ : System).commits ≤ 1 := by
  rcases moves.commits with equal | ⟨armedQ, -⟩
  · rw [System.commits_set_of_same found equal]
    exact ex.atMostOne
  · have none := ex.armedFirst q (List.mem_of_getElem? found) armedQ
    rw [System.commits_set found, none]
    split <;> split <;> omega

theorem Exclusive.marked_set (ex : Exclusive sys) (kept : KeepsGuards sys e) (found : sys.calls[i]? = some q)
    (moves : GuardMoves sys.backends b' q q') (after : sys.apply e = ⟨b', sys.calls.set i q'⟩) :
    (⟨b', sys.calls.set i q'⟩ : System).commits = 1 →
      b'.keys.lasting firstPassMarker ∨ ∃ c ∈ sys.calls.set i q', c.marking := by
  obtain ⟨within, -⟩ := List.getElem?_eq_some_iff.mp found
  have here : (sys.calls.set i q')[i]? = some q' := List.getElem?_set_self within
  have marker := kept.marker
  have written := kept.written
  rw [after] at marker written
  intro one
  rcases moves.commits with equal | ⟨-, marking⟩
  · rw [System.commits_set_of_same found equal] at one
    rcases ex.marked one with lasting | ⟨d, memberD, marking⟩
    · exact .inl (marker lasting)
    · obtain ⟨l, foundD⟩ := List.mem_iff_getElem?.mp memberD
      by_cases same : i = l
      · -- the writer moved on from its commit, so the marker is set for good
        subst same
        rw [found] at foundD
        obtain rfl := Option.some.inj foundD
        have moved : (sys.calls.set i q')[i]? ≠ some q := by
          rw [here]
          exact fun same => moves.leaves marking (Option.some.inj same)
        exact .inl (written i q found marking moved)
      · exact .inr ⟨d, List.mem_of_getElem? (by rw [List.getElem?_set_ne same]; exact foundD), marking⟩
  · exact .inr ⟨q', List.mem_of_getElem? here, marking⟩

/-- A step of call `i` keeps the exclusion, as long as it keeps the guards. -/
theorem Exclusive.move (ex : Exclusive sys) (kept : KeepsGuards sys e) (found : sys.calls[i]? = some q)
    (moves : GuardMoves sys.backends b' q q') (after : sys.apply e = ⟨b', sys.calls.set i q'⟩) :
    Exclusive (sys.apply e) := by
  rw [after]
  exact ⟨ex.holds_set kept found moves after, ex.alone_set found moves, ex.armedFirst_set found moves,
    ex.atMostOne_set found moves, ex.marked_set kept found moves after⟩

end Move

theorem Exclusive.apply (ex : Exclusive sys) (kept : KeepsGuards sys e) :
    Exclusive (sys.apply e) := by
  cases e with
  | call j => exact ex.call j
  | step i =>
    cases found : sys.calls[i]? with
    | none => exact ex.frame kept (by simp [System.apply, System.moveCall, found])
    | some c => exact ex.move kept found (moves_of_seen c (.inr ⟨rfl, rfl⟩)) (System.apply_step found)
  | stepLost i text =>
    cases found : sys.calls[i]? with
    | none => exact ex.frame kept (by simp [System.apply, System.moveCall, found])
    | some c =>
      -- the call saw its command fail, whatever the key store did with it
      have failing : ({ sys.backends with keys := sys.backends.keys.fail text } : Backends).keys.failure ≠ none := by
        simp [KeyStore.fail]
      exact ex.move kept found (moves_of_seen c (.inl failing)) (System.apply_stepLost found text)
  | dryFirst s => exact ex.frame kept rfl
  | drySecond s => exact ex.frame kept rfl
  | elapse nanos => exact ex.frame kept rfl
  | keysFail text => exact ex.frame kept rfl
  | keysRecover => exact ex.frame kept rfl
  | lose key => exact ex.frame kept rfl
  | dbFault f => exact ex.frame kept rfl

theorem Exclusive.runs {events : List Event} (ex : Exclusive sys) (kept : GuardsKept sys events) :
    Exclusive (sys.runs events) := by
  induction events generalizing sys with
  | nil => exact ex
  | cons e events ih => exact ih (ex.apply kept.1) kept.2

/-- First passes commit at most once. Along any run of first and second passes, score
imports and dry runs, taken step by step in any interleaving with time moving on, the key
store failing, recovering or losing the answers to commands, keys lost and database
faults, at most one first pass commits its selection, as long as the run keeps the first
pass's guards: the marker is not lost once set, the marker write after a commit goes
through, and no first pass loses its lease before it has written the marker. -/
theorem first_pass_commits_at_most_once (b : Backends) (events : List Event)
    (kept : GuardsKept ⟨b, []⟩ events) : (System.runs ⟨b, []⟩ events).commits ≤ 1 :=
  ((Exclusive.empty b).runs kept).atMostOne

/-- Four received regular forms, numbered 1001 to 1004 and best first, on backends whose
key store is empty and works. -/
def fourReceived : Backends :=
  { store := { tables := { forms := [1, 2, 3, 4].map fun n =>
      { form :=
          { id := "form-" ++ toString n
            userId := "user-" ++ toString n
            formType := "REGULAR"
            category := "REGULAR"
            examinationNumber := some (1000 + n : Int)
            status := "RECEIVED"
            score := { firstRound := some (Decimal.ofInt (155 - n : Int)) } } } } } }

/-- One regular seat and none elsewhere, so a first-round target of two. -/
def oneRegularSeat : SelectionSettings :=
  { quota := { QuotaConfig.default with seats := [("REGULAR", 1)] }, leaseTime := 60000000000 }

/-- Two first passes meet: while the first holds the lease the second is refused it, and
the first commits, sets its marker and gives the lease back. -/
theorem contended_first_pass_commits_once :
    GuardsKept ⟨fourReceived, []⟩ [.call (.first oneRegularSeat), .step 0, .step 0, .step 0,
        .call (.first oneRegularSeat), .step 1, .step 1, .step 0, .step 0, .step 0] ∧
      (System.runs ⟨fourReceived, []⟩ [.call (.first oneRegularSeat), .step 0, .step 0, .step 0,
        .call (.first oneRegularSeat), .step 1, .step 1, .step 0, .step 0, .step 0]).commits ≤ 1 := by
  obtain ⟨leasedOn, named⟩ : ∃ b : Backends, b = { fourReceived with
      ids := fourReceived.ids.next.2,
      keys := fourReceived.keys.put firstPassLease fourReceived.ids.next.1
        (some oneRegularSeat.leaseTime) } := ⟨_, rfl⟩
  have working : leasedOn.keys.failure = none := by rw [named]; rfl
  have unmarked : leasedOn.keys.get? firstPassMarker = none := by rw [named]; rfl
  have held : leasedOn.keys.get? firstPassLease ≠ none := by rw [named]; simp
  have leased := first_checked_of_free oneRegularSeat (b := fourReceived) rfl rfl
  rw [← named] at leased
  obtain ⟨refusal, refused⟩ := first_checked_of_held oneRegularSeat
    (b := { leasedOn with ids := leasedOn.ids.next.2 }) held
  obtain ⟨answer, store, committed, -, -⟩ := first_armed_commits oneRegularSeat
    (b := { leasedOn with ids := leasedOn.ids.next.2.next.2 }) (by rw [named]; rfl)
    (by
      rw [named, Tables.inStatuses, List.mergeSort_of_pairwise]
      · exact Selection.firstPass_of_ranked (by decide) (fun c => by cases c <;> decide) _
      · decide)
    (by rw [named]; decide) fourReceived.ids.next.1 leasedOn.ids.next.1
  have kept : GuardsKept ⟨fourReceived, []⟩ [.call (.first oneRegularSeat), .step 0, .step 0,
      .step 0, .call (.first oneRegularSeat), .step 1, .step 1, .step 0, .step 0, .step 0] := by
    -- the first pass comes in, checks its marker, takes the lease and arms
    refine ⟨.of_keys rfl (by simp), ?_⟩
    rw [System.apply_call]
    have checked := first_start_of_unmarked oneRegularSeat (b := fourReceived) rfl rfl
    refine ⟨.of_keys (by rw [System.apply_step_of rfl checked]) (by simp [Call.marking]), ?_⟩
    rw [System.apply_step_of rfl checked]
    refine ⟨.of_unguarded (by simp [Call.guard]) rfl, ?_⟩
    rw [System.apply_step_of rfl leased]
    have armed := first_leased_of_unmarked oneRegularSeat working unmarked fourReceived.ids.next.1
    refine ⟨.of_keys (by rw [System.apply_step_of rfl armed]) (by simp [Call.marking]), ?_⟩
    rw [System.apply_step_of rfl armed]
    -- the second pass comes in, checks its marker and is refused the lease
    refine ⟨.of_keys rfl (by simp [Call.marking]), ?_⟩
    rw [System.apply_call]
    have checkedB := first_start_of_unmarked oneRegularSeat (b := { leasedOn with ids := leasedOn.ids.next.2 })
      working unmarked
    refine ⟨.of_keys (by rw [System.apply_step_of rfl checkedB]) (by simp [Call.marking]), ?_⟩
    rw [System.apply_step_of rfl checkedB]
    refine ⟨.of_keys (by rw [System.apply_step_of rfl refused]) (by simp [Call.marking]), ?_⟩
    rw [System.apply_step_of rfl refused]
    -- the first pass commits, sets its marker and gives the lease back
    refine ⟨.of_keys (by rw [System.apply_step_of rfl committed]) (by simp [Call.marking]), ?_⟩
    rw [System.apply_step_of rfl committed]
    have marking := first_committed_of_working oneRegularSeat
      (b := { leasedOn with ids := leasedOn.ids.next.2.next.2, store }) working
      fourReceived.ids.next.1 leasedOn.ids.next.1 answer
    refine ⟨.of_marked (by rw [System.apply_step_of rfl marking]; exact KeyStore.lasting_put_self _ _ _)
      (by rw [System.apply_step_of rfl marking]; simp [Call.guard]), ?_⟩
    rw [System.apply_step_of rfl marking]
    have released := first_releasing_of_working oneRegularSeat
      (b := { leasedOn with ids := leasedOn.ids.next.2.next.2, store,
                            keys := leasedOn.keys.put firstPassMarker leasedOn.ids.next.1 none })
      (by simp [working]) fourReceived.ids.next.1 (.ok answer)
    refine ⟨.of_marked ?_ (by rw [System.apply_step_of rfl released]; simp [Call.guard]), trivial⟩
    rw [System.apply_step_of rfl released]
    dsimp only
    split
    · rw [KeyStore.lasting_remove_of_ne _ _ _ (by decide)]
      exact KeyStore.lasting_put_self _ _ _
    · exact KeyStore.lasting_put_self _ _ _
  exact ⟨kept, first_pass_commits_at_most_once _ _ kept⟩

/-- With its lease run out while it is armed, a first pass commits beside a second one that
took the lease in the meantime: no marker lost, and the key store works throughout. -/
theorem lease_expiry_commits_twice :
    (System.runs ⟨fourReceived, []⟩
      [.call (.first oneRegularSeat), .step 0, .step 0, .step 0, .elapse oneRegularSeat.leaseTime,
        .call (.first oneRegularSeat), .step 1, .step 1, .step 1, .step 0, .step 1]).commits = 2 := by
  -- the first pass's lease runs out while it is armed
  have expired : (fourReceived.keys.put firstPassLease fourReceived.ids.next.1
      (some oneRegularSeat.leaseTime)).advance oneRegularSeat.leaseTime = {} := by
    simp [KeyStore.put, KeyStore.advance, fourReceived]
  obtain ⟨armed, named⟩ : ∃ b : Backends, b = { fourReceived with
      ids := fourReceived.ids.next.2.next.2.next.2.next.2,
      keys := ({} : KeyStore).put firstPassLease fourReceived.ids.next.2.next.2.next.1
        (some oneRegularSeat.leaseTime),
      now := fourReceived.now.addNanos oneRegularSeat.leaseTime } := ⟨_, rfl⟩
  -- so the second pass takes the lease and arms beside it
  have bothArmed : System.runs ⟨fourReceived, []⟩
      ((.call (.first oneRegularSeat) :: List.replicate 3 (.step 0)) ++
        (.elapse oneRegularSeat.leaseTime :: .call (.first oneRegularSeat) :: List.replicate 3 (.step 1))) =
      ⟨armed, [⟨.first oneRegularSeat, .armed fourReceived.ids.next.1 fourReceived.ids.next.2.next.1⟩,
         ⟨.first oneRegularSeat, .armed fourReceived.ids.next.2.next.2.next.1
            fourReceived.ids.next.2.next.2.next.2.next.1⟩]⟩ := by
    rw [System.runs_append, System.runs_call_alone, first_alone_arms oneRegularSeat rfl rfl rfl,
      System.runs_cons, System.runs_cons]
    simp only [System.apply, System.onBackends, expired]
    rw [System.runs_steps (i := 1) (c := ⟨.first oneRegularSeat, .start⟩) rfl,
      first_alone_arms oneRegularSeat rfl rfl rfl, named]
    rfl
  rw [show [Event.call (.first oneRegularSeat), .step 0, .step 0, .step 0,
      .elapse oneRegularSeat.leaseTime, .call (.first oneRegularSeat), .step 1, .step 1, .step 1,
      .step 0, .step 1] =
      ((.call (.first oneRegularSeat) :: List.replicate 3 (.step 0)) ++
        (.elapse oneRegularSeat.leaseTime :: .call (.first oneRegularSeat) :: List.replicate 3 (.step 1))) ++
        [.step 0, .step 1] from rfl, System.runs_append, bothArmed]
  -- both transactions commit: the first pass's, then the second's over what it left received
  have sameStore : armed.store = fourReceived.store := by rw [named]
  obtain ⟨answer₁, store₁, committed₁, faultless₁, tables₁⟩ := first_armed_commits oneRegularSeat
    (b := armed) (by rw [sameStore]; rfl)
    (by
      rw [sameStore, Tables.inStatuses, List.mergeSort_of_pairwise]
      · exact Selection.firstPass_of_ranked (by decide) (fun c => by cases c <;> decide) _
      · decide)
    (by rw [sameStore]; decide) fourReceived.ids.next.1 fourReceived.ids.next.2.next.1
  obtain ⟨answer₂, store₂, committed₂, -, -⟩ := first_armed_commits oneRegularSeat
    (b := { armed with store := store₁ }) faultless₁
    (by
      rw [tables₁, sameStore, Tables.inStatuses, List.mergeSort_of_pairwise]
      · exact Selection.firstPass_of_ranked (by decide) (fun c => by cases c <;> decide) _
      · decide)
    (by rw [tables₁, sameStore]; decide)
    fourReceived.ids.next.2.next.2.next.1 fourReceived.ids.next.2.next.2.next.2.next.1
  rw [System.runs_cons, System.apply_step rfl, committed₁, System.runs_cons, System.apply_step rfl,
    committed₂]
  rfl

/-- With its marker lost after it finished, a first pass is followed by a second that
commits again. -/
theorem marker_loss_commits_twice :
    (System.runs ⟨fourReceived, []⟩
      (.call (.first oneRegularSeat) :: List.replicate 6 (.step 0) ++
        .lose firstPassMarker :: .call (.first oneRegularSeat) :: List.replicate 6 (.step 1))).commits = 2 := by
  obtain ⟨summary₁, b₁, first, -, marked, faultless, moved⟩ :=
    firstPass_commits oneRegularSeat (b := fourReceived) rfl rfl rfl rfl
      (by
        rw [Tables.inStatuses, List.mergeSort_of_pairwise]
        · exact Selection.firstPass_of_ranked (by decide) (fun c => by cases c <;> decide) _
        · decide)
      (by decide)
  -- losing the marker leaves the key store as empty as it started
  have emptied : b₁.keys.remove firstPassMarker = fourReceived.keys := by
    rw [marked]
    exact KeyStore.remove_put_of_get?_eq_none _ _ _ _ rfl
  obtain ⟨summary₂, b₂, second, -⟩ :=
    firstPass_commits oneRegularSeat (b := { b₁ with keys := b₁.keys.remove firstPassMarker })
      (by rw [emptied]; rfl) (by rw [emptied]; rfl) (by rw [emptied]; rfl) faultless
      (by
        rw [moved, Tables.inStatuses, List.mergeSort_of_pairwise]
        · exact Selection.firstPass_of_ranked (by decide) (fun c => by cases c <;> decide) _
        · decide)
      (by rw [moved]; decide)
  rw [System.runs_append, System.runs_call_alone, Job.alone_first, first, System.runs_cons,
    System.runs_cons]
  simp only [System.apply, System.onBackends]
  rw [System.runs_steps (i := 1) (c := ⟨.first oneRegularSeat, .start⟩) rfl, Job.alone_first, second]
  rfl

/-- First passes commit twice when a guard gives way: when a pass's lease runs out while
it is armed, and when the marker is lost after a pass has finished. -/
theorem first_pass_commits_twice :
    (System.runs ⟨fourReceived, []⟩
      [.call (.first oneRegularSeat), .step 0, .step 0, .step 0, .elapse oneRegularSeat.leaseTime,
        .call (.first oneRegularSeat), .step 1, .step 1, .step 1, .step 0, .step 1]).commits = 2 ∧
    (System.runs ⟨fourReceived, []⟩
      (.call (.first oneRegularSeat) :: List.replicate 6 (.step 0) ++
        .lose firstPassMarker :: .call (.first oneRegularSeat) :: List.replicate 6 (.step 1))).commits = 2 :=
  ⟨lease_expiry_commits_twice, marker_loss_commits_twice⟩

end Admissions.Batch
