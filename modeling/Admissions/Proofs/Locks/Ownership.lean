import Mathlib.Logic.Relation
import Mathlib.Data.List.Nodup
import Admissions.Proofs.Service

namespace Admissions

/-! ### Keys with one entry each -/

namespace KeyStore

def Unique (s : KeyStore) : Prop := (s.entries.map (·.key)).Nodup

theorem mem_of_get? {s : KeyStore} {k v : String} (found : s.get? k = some v) :
    ∃ e ∈ s.entries, e.key = k ∧ e.value = v := by
  obtain ⟨e, first, rfl⟩ := Option.map_eq_some_iff.mp found
  exact ⟨e, List.mem_of_find?_eq_some first, by simpa using List.find?_some first, rfl⟩

/-- In a store whose keys have one entry each, a key reads as the text of its entry. -/
theorem Unique.get?_of_mem {s : KeyStore} (unique : s.Unique) {e : KeyEntry} (member : e ∈ s.entries) :
    s.get? e.key = some e.value := by
  have present : (s.entries.find? (·.key == e.key)).isSome := List.find?_isSome.mpr ⟨e, member, by simp⟩
  obtain ⟨a, first⟩ := Option.isSome_iff_exists.mp present
  -- the entry read is the first of its key, and the key has only `e`
  have sameKey : a.key = e.key := by simpa using List.find?_some first
  have same : a = e := List.inj_on_of_nodup_map unique (List.mem_of_find?_eq_some first) member sameKey
  rw [get?, first, same, Option.map_some]

theorem Unique.put {s : KeyStore} (unique : s.Unique) (k v : String) (ttl : Option Int) :
    (s.put k v ttl).Unique := by
  unfold KeyStore.put
  split
  · -- the key is there: its entry is rewritten in place
    have sameKeys : (s.entries.map fun e => if e.key == k then { e with value := v, ttl } else e).map
        (·.key) = s.entries.map (·.key) := by
      rw [List.map_map]
      exact List.map_congr_left fun e _ => by
        simp only [Function.comp_apply]
        split <;> rfl
    simpa only [Unique, sameKeys] using unique
  · rename_i absent
    have fresh : k ∉ s.entries.map (·.key) := by simpa using absent
    simp only [Unique, List.map_append, List.map_cons, List.map_nil]
    exact List.nodup_append.mpr ⟨unique, List.nodup_singleton k,
      fun a held b added => by
        rw [List.mem_singleton.mp added]
        exact fun same => fresh (same ▸ held)⟩

theorem Unique.remove {s : KeyStore} (unique : s.Unique) (k : String) : (s.remove k).Unique :=
  (List.filter_sublist.map KeyEntry.key).nodup unique

/-- Moving time on keeps every entry it does not drop, with its key and text. -/
theorem mem_advance {s : KeyStore} {nanos : Int} {e' : KeyEntry} (member : e' ∈ (s.advance nanos).entries) :
    ∃ e ∈ s.entries, e.key = e'.key ∧ e.value = e'.value := by
  obtain ⟨e, held, kept⟩ := List.mem_filterMap.mp member
  refine ⟨e, held, ?_⟩
  split at kept
  · cases kept
    exact ⟨rfl, rfl⟩
  · split at kept
    · cases kept
    · cases kept
      exact ⟨rfl, rfl⟩

theorem Unique.advance {s : KeyStore} (unique : s.Unique) (nanos : Int) : (s.advance nanos).Unique := by
  obtain ⟨entries, failure⟩ := s
  simp only [Unique, KeyStore.advance] at unique ⊢
  induction entries with
  | nil => simp
  | cons e rest ih =>
    rw [List.map_cons, List.nodup_cons] at unique
    obtain ⟨fresh, unique⟩ := unique
    rw [List.filterMap_cons]
    -- the first entry is dropped, or kept under its key, which no later entry has
    split
    · exact ih unique
    · rename_i e' kept
      rw [List.map_cons, List.nodup_cons]
      refine ⟨fun later => fresh ?_, ih unique⟩
      obtain ⟨a, laterEntry, keyed⟩ := List.mem_map.mp later
      obtain ⟨b, held, sameKey, -⟩ := @mem_advance ⟨rest, failure⟩ nanos a laterEntry
      have keyOf : e'.key = e.key := by
        split at kept
        · cases kept
          rfl
        · split at kept
          · cases kept
          · cases kept
            rfl
      rw [← keyOf, ← keyed, ← sameKey]
      exact List.mem_map_of_mem held

/-- With one entry a key, moving time on leaves a key with the text it had, or drops it. -/
theorem Unique.get?_advance {s : KeyStore} (unique : s.Unique) (nanos : Int) {k v : String}
    (kept : (s.advance nanos).get? k = some v) : s.get? k = some v := by
  obtain ⟨e', member, rfl, rfl⟩ := mem_of_get? kept
  obtain ⟨e, held, sameKey, sameValue⟩ := mem_advance member
  rw [← sameKey, ← sameValue]
  exact unique.get?_of_mem held

theorem Unique.entries_le_one {s : KeyStore} (unique : s.Unique) (k : String) :
    (s.entries.filter (·.key == k)).length ≤ 1 := by
  have keys : (s.entries.filter (·.key == k)).map (·.key) =
      List.replicate (s.entries.filter (·.key == k)).length k :=
    List.eq_replicate_iff.mpr ⟨List.length_map _, fun x member => by
      obtain ⟨e, kept, rfl⟩ := List.mem_map.mp member
      simpa using (List.mem_filter.mp kept).2⟩
  have sub : (s.entries.filter (·.key == k)).Sublist s.entries := List.filter_sublist
  have distinct := (sub.map KeyEntry.key).nodup unique
  rw [keys, List.nodup_replicate] at distinct
  exact distinct

end KeyStore

/-! ### Taking and giving back a lease -/

namespace Service

/-- Taking a lease draws a token, and sets the key to it exactly while the key store
works and no lease is stored. Otherwise only the token was drawn, and the answer is
the held-lease error, or the key store's failure while it fails. -/
theorem acquireLease_run (key : String) (ttl : Int) (b : Backends) :
    (acquireLease key ttl).run.run b =
      if b.keys.failure = none ∧ b.keys.get? key = none then
        (.ok b.ids.next.1, { b with ids := b.ids.next.2, keys := b.keys.put key b.ids.next.1 (some ttl) })
      else (.error (match b.keys.failure with
          | some text => Fault.plain ("acquire lock " ++ key ++ ": " ++ text)
          | none => ⟨leaseHeld, .condition leaseHeldCondition⟩),
        { b with ids := b.ids.next.2 }) := by
  cases working : b.keys.failure with
  | some text =>
    rw [if_neg (fun ready => nomatch ready.1)]
    exact acquireLease_failing working key ttl
  | none =>
    rw [run_acquireLease working]
    cases held : b.keys.get? key with
    | some token => simp
    | none => simp

/-- Giving a lease back removes the key exactly while the key store works and the key
holds the giver's token, and changes nothing else. -/
theorem releaseLease_backends (key token : String) (b : Backends) :
    ((releaseLease key token).run.run b).2 =
      { b with keys := if b.keys.failure = none ∧ b.keys.get? key = some token then b.keys.remove key
        else b.keys } := by
  cases working : b.keys.failure with
  | some text =>
    simp only [releaseLease, run_onKeys, KeyStore.removeIf, working, reduceCtorEq, false_and, if_false]
    rfl
  | none => simp [run_releaseLease working]

end Service

/-- A lease key and the leases taken on it: the backends, and the token of every lease
taken, oldest first. A client keeps its token after its lease runs out or is given
back. -/
structure Leases where
  backends : Backends
  taken : List String

namespace Leases

def acquire (key : String) (ttl : Int) (l : Leases) : Leases :=
  match (Service.acquireLease key ttl).run.run l.backends with
  | (.ok token, b) => ⟨b, l.taken ++ [token]⟩
  | (.error _, b) => ⟨b, l.taken⟩

def release (key token : String) (l : Leases) : Leases :=
  ⟨((Service.releaseLease key token).run.run l.backends).2, l.taken⟩

/-- One event on a lease key: a client takes the lease with a token drawn fresh, a
client gives back a lease it took, time moves on, or the key store fails or
recovers. -/
inductive Step (key : String) : Leases → Leases → Prop
  | acquire (ttl : Int) (l : Leases) (fresh : l.backends.ids.next.1 ∉ l.taken) :
      Step key l (l.acquire key ttl)
  | release (token : String) (l : Leases) (holder : token ∈ l.taken) : Step key l (l.release key token)
  | elapse (nanos : Int) (l : Leases) :
      Step key l ⟨{ l.backends with keys := l.backends.keys.advance nanos }, l.taken⟩
  | fail (text : String) (l : Leases) :
      Step key l ⟨{ l.backends with keys := l.backends.keys.fail text }, l.taken⟩
  | recover (l : Leases) : Step key l ⟨{ l.backends with keys := l.backends.keys.recover }, l.taken⟩

/-- What holds of a lease key at every moment: no key has two entries, the tokens of
the leases taken are distinct, and a token stored under the key is one of them. -/
structure Sound (key : String) (l : Leases) : Prop where
  unique : l.backends.keys.Unique
  distinct : l.taken.Nodup
  owned : ∀ t, l.backends.keys.get? key = some t → t ∈ l.taken

variable {key : String} {l : Leases}

theorem acquire_of_ready (ttl : Int)
    (ready : l.backends.keys.failure = none ∧ l.backends.keys.get? key = none) :
    l.acquire key ttl =
      ⟨{ l.backends with ids := l.backends.ids.next.2, keys := l.backends.keys.put key l.backends.ids.next.1 (some ttl) },
        l.taken ++ [l.backends.ids.next.1]⟩ := by
  rw [acquire, Service.acquireLease_run, if_pos ready]

theorem acquire_of_busy (ttl : Int)
    (busy : ¬(l.backends.keys.failure = none ∧ l.backends.keys.get? key = none)) :
    l.acquire key ttl = ⟨{ l.backends with ids := l.backends.ids.next.2 }, l.taken⟩ := by
  rw [acquire, Service.acquireLease_run, if_neg busy]

theorem Sound.acquire (sound : l.Sound key) (ttl : Int) (fresh : l.backends.ids.next.1 ∉ l.taken) :
    (l.acquire key ttl).Sound key := by
  by_cases ready : l.backends.keys.failure = none ∧ l.backends.keys.get? key = none
  · -- the key is set to the fresh token, which joins the tokens taken
    rw [acquire_of_ready ttl ready]
    refine ⟨sound.unique.put _ _ _, List.nodup_append.mpr ⟨sound.distinct, List.nodup_singleton _, ?_⟩, ?_⟩
    · intro a held b added
      rw [List.mem_singleton.mp added]
      exact fun same => fresh (same ▸ held)
    · intro t stored
      rw [KeyStore.get?_put_self] at stored
      rw [← Option.some.inj stored]
      exact List.mem_append_right _ (List.mem_singleton_self _)
  · rw [acquire_of_busy ttl ready]
    exact ⟨sound.unique, sound.distinct, sound.owned⟩

theorem Sound.release (sound : l.Sound key) (token : String) : (l.release key token).Sound key := by
  simp only [Leases.release, Service.releaseLease_backends]
  split_ifs
  · refine ⟨sound.unique.remove key, sound.distinct, fun t stored => ?_⟩
    rw [KeyStore.get?_remove_self] at stored
    cases stored
  · exact ⟨sound.unique, sound.distinct, sound.owned⟩

theorem Sound.elapse (sound : l.Sound key) (nanos : Int) :
    Sound key ⟨{ l.backends with keys := l.backends.keys.advance nanos }, l.taken⟩ :=
  ⟨sound.unique.advance nanos, sound.distinct,
    fun t stored => sound.owned t (sound.unique.get?_advance nanos stored)⟩

theorem Sound.fail (sound : l.Sound key) (text : String) :
    Sound key ⟨{ l.backends with keys := l.backends.keys.fail text }, l.taken⟩ :=
  ⟨sound.unique, sound.distinct, sound.owned⟩

theorem Sound.recover (sound : l.Sound key) :
    Sound key ⟨{ l.backends with keys := l.backends.keys.recover }, l.taken⟩ :=
  ⟨sound.unique, sound.distinct, sound.owned⟩

theorem Sound.step {l' : Leases} (sound : l.Sound key) (step : Step key l l') : l'.Sound key := by
  cases step with
  | acquire ttl _ fresh => exact sound.acquire ttl fresh
  | release token _ _ => exact sound.release token
  | elapse nanos => exact sound.elapse nanos
  | fail text => exact sound.fail text
  | recover => exact sound.recover

theorem Sound.run {l' : Leases} (sound : l.Sound key) (run : Relation.ReflTransGen (Step key) l l') :
    l'.Sound key := by
  induction run with
  | refl => exact sound
  | tail _ step ih => exact ih.step step

theorem Sound.tokens_differ (sound : l.Sound key) {i j : Nat} {t t' : String} (other : i ≠ j)
    (first : l.taken[i]? = some t) (second : l.taken[j]? = some t') : t ≠ t' := by
  have bounded (n : Nat) (u : String) (at' : l.taken[n]? = some u) : n < l.taken.length :=
    (List.getElem?_eq_some_iff.mp at').1
  intro same
  rw [same] at first
  have apart := List.nodup_iff_getElem?_ne_getElem?.mp sound.distinct
  rcases Nat.lt_or_gt_of_ne other with before | after
  · exact apart i j before (bounded j t' second) (first.trans second.symm)
  · exact apart j i after (bounded i t' first) (second.trans first.symm)

/-- A token stored under the key is the token of exactly one lease taken. -/
theorem Sound.one_owner (sound : l.Sound key) {t : String} (stored : l.backends.keys.get? key = some t) :
    l.taken.count t = 1 :=
  List.count_eq_one_of_mem sound.distinct (sound.owned t stored)

/-- Giving back a lease whose token is not the one stored leaves the stored lease. -/
theorem release_keeps_other {t t' : String} (stored : l.backends.keys.get? key = some t') (other : t ≠ t') :
    (l.release key t).backends.keys.get? key = some t' := by
  simp only [Leases.release, Service.releaseLease_backends]
  rw [if_neg (fun removed => other (Option.some.inj (removed.2.symm.trans stored)))]
  exact stored

end Leases

/-- The lease of a key has a single owner and is given back only by it. Taking the
lease goes through exactly while the key store works and no lease is stored; with a
lease stored it fails with the held-lease error, having only drawn its token. Giving a
lease back removes the key exactly while the key store works and the key holds the
giver's token. Along any run of takings with fresh tokens, givings back, expiries and
key-store failures from a sound start, the key has at most one entry, a stored token
belongs to exactly one lease taken, and a client giving back its lease never removes
the lease another client holds. -/
theorem lease_single_owner :
    (∀ key ttl (b : Backends), ((Service.acquireLease key ttl).run.run b).1.isOk = true ↔
      b.keys.failure = none ∧ b.keys.get? key = none) ∧
    (∀ key ttl (b : Backends), b.keys.failure = none → b.keys.get? key ≠ none →
      (Service.acquireLease key ttl).run.run b =
        (.error ⟨leaseHeld, .condition Service.leaseHeldCondition⟩, { b with ids := b.ids.next.2 })) ∧
    (∀ key token (b : Backends), ((Service.releaseLease key token).run.run b).2.keys =
      if b.keys.failure = none ∧ b.keys.get? key = some token then b.keys.remove key else b.keys) ∧
    ∀ key (l l' : Leases), l.Sound key → Relation.ReflTransGen (Leases.Step key) l l' →
      (l'.backends.keys.entries.filter (·.key == key)).length ≤ 1 ∧
      (∀ t, l'.backends.keys.get? key = some t → l'.taken.count t = 1) ∧
      ∀ (i j : Nat) (t t' : String), i ≠ j → l'.taken[i]? = some t → l'.taken[j]? = some t' →
        l'.backends.keys.get? key = some t' → (l'.release key t).backends.keys.get? key = some t' := by
  refine ⟨fun key ttl b => ?_, fun key ttl b working held => ?_, fun key token b => ?_,
    fun key l l' start run => ?_⟩
  · rw [Service.acquireLease_run]
    split_ifs with ready
    · exact iff_of_true rfl ready
    · exact iff_of_false (by simp [Except.isOk, Except.toBool]) ready
  · rw [Service.acquireLease_run, if_neg (fun ready => held ready.2), working]
  · rw [Service.releaseLease_backends]
  · have sound := start.run run
    exact ⟨sound.unique.entries_le_one key, fun t stored => sound.one_owner stored,
      fun i j t t' other first second stored =>
        Leases.release_keeps_other stored (sound.tokens_differ other first second)⟩

namespace Leases

/-- Ids drawn from thirty-two bytes left over in the reader, so that the first two
tokens are those bytes' ids. -/
def twoTokens : IdSource := ⟨⟨⟨#[], 0, 0⟩, (List.range 32).map Nat.toUInt8⟩⟩

def unleased : Leases := ⟨{ ids := twoTokens }, []⟩

def expired : Leases :=
  let first := unleased.acquire "lock" 1000000000
  ⟨{ first.backends with keys := first.backends.keys.advance 2000000000 }, first.taken⟩

def retaken : Leases := expired.acquire "lock" 60000000000

/-- The first client, whose lease ran out, gives it back: the second client's lease
stays. -/
theorem stale_release_keeps_new_lease :
    unleased.Sound "lock" ∧ Relation.ReflTransGen (Step "lock") unleased retaken ∧
      retaken.taken[0]? = some twoTokens.next.1 ∧ retaken.taken[1]? = some twoTokens.next.2.next.1 ∧
      retaken.backends.keys.get? "lock" = some twoTokens.next.2.next.1 ∧
      (retaken.release "lock" twoTokens.next.1).backends.keys.get? "lock" = some twoTokens.next.2.next.1 := by
  have start : unleased.Sound "lock" := ⟨List.nodup_nil, List.nodup_nil, fun t stored => nomatch stored⟩
  have fresh : expired.backends.ids.next.1 ∉ expired.taken := by decide
  have run : Relation.ReflTransGen (Step "lock") unleased retaken :=
    .tail (.tail (.single (.acquire 1000000000 unleased List.not_mem_nil)) (.elapse 2000000000 _))
      (.acquire 60000000000 expired fresh)
  have first : retaken.taken[0]? = some twoTokens.next.1 := by decide
  have second : retaken.taken[1]? = some twoTokens.next.2.next.1 := by decide
  have stored : retaken.backends.keys.get? "lock" = some twoTokens.next.2.next.1 := by decide
  exact ⟨start, run, first, second, stored,
    (lease_single_owner.2.2.2 "lock" unleased retaken start run).2.2 0 1 _ _ (by decide) first second stored⟩

end Leases

end Admissions
