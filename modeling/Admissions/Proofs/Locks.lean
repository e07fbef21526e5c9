import Admissions.Locks

namespace Admissions.KeyStore

/-- The entry a key is read from: the first one with that key. -/
def lookup? (s : KeyStore) (k : String) : Option KeyEntry := s.entries.find? (·.key == k)

/-- Whether a key is set and does not expire. -/
def lasting (s : KeyStore) (k : String) : Bool := (s.lookup? k).any (·.ttl.isNone)

variable (s : KeyStore) (k k' v : String) (ttl : Option Int)

theorem get?_eq_lookup? : s.get? k = (s.lookup? k).map (·.value) := rfl

@[simp] theorem lookup?_put_self : (s.put k v ttl).lookup? k = some ⟨k, v, ttl⟩ := by
  unfold put lookup?
  split
  · rename_i present
    simp only [List.find?_map, Function.comp_def, apply_ite]
    obtain ⟨a, found⟩ := Option.isSome_iff_exists.mp
      (List.find?_isSome.mpr (List.any_eq_true.mp present))
    have key := List.find?_some found
    simp only [beq_iff_eq] at key
    simp [found, key]
  · rename_i absent
    have none : s.entries.find? (·.key == k) = none :=
      List.find?_eq_none.mpr (by simpa using absent)
    simp [List.find?_append, none]

theorem lookup?_put_of_ne (other : k' ≠ k) : (s.put k v ttl).lookup? k' = s.lookup? k' := by
  unfold put lookup?
  split
  · simp only [List.find?_map, Function.comp_def, apply_ite, ite_self]
    cases found : s.entries.find? (·.key == k') with
    | none => simp
    | some a =>
      have key := List.find?_some found
      simp only [beq_iff_eq] at key
      have differs : (a.key == k) = false := by simp [key, other]
      simp only [Option.map_some, differs, Bool.false_eq_true, if_false]
  · simp [List.find?_append, other.symm]

@[simp] theorem lookup?_remove_self : (s.remove k).lookup? k = none := by
  simp [remove, lookup?, List.find?_filter]

theorem lookup?_remove_of_ne (other : k' ≠ k) : (s.remove k).lookup? k' = s.lookup? k' := by
  simp only [remove, lookup?, List.find?_filter]
  congr 2
  funext e
  by_cases same : e.key = k' <;> simp [same, other]

@[simp] theorem get?_put_self : (s.put k v ttl).get? k = some v := by
  simp [get?_eq_lookup?]

theorem get?_put_of_ne (other : k' ≠ k) : (s.put k v ttl).get? k' = s.get? k' := by
  rw [get?_eq_lookup?, lookup?_put_of_ne _ _ _ _ _ other, get?_eq_lookup?]

theorem get?_eq_none_iff : s.get? k = none ↔ ∀ e ∈ s.entries, e.key ≠ k := by
  simp [get?, List.find?_eq_none]

@[simp] theorem put_failure : (s.put k v ttl).failure = s.failure := by
  unfold put
  split <;> rfl

@[simp] theorem remove_failure : (s.remove k).failure = s.failure := rfl

@[simp] theorem get?_remove_self : (s.remove k).get? k = none := by
  simp [get?_eq_lookup?]

theorem get?_remove_of_ne (other : k' ≠ k) : (s.remove k).get? k' = s.get? k' := by
  rw [get?_eq_lookup?, lookup?_remove_of_ne _ _ _ other, get?_eq_lookup?]

/-- Setting a key that was not there and removing it again gives the store back. -/
theorem remove_put_of_get?_eq_none (absent : s.get? k = none) : (s.put k v ttl).remove k = s := by
  have others := (get?_eq_none_iff s k).mp absent
  have missing : (s.entries.any fun e => e.key == k) = false := by simpa using others
  have kept : s.entries.filter (fun e => e.key != k) = s.entries :=
    List.filter_eq_self.mpr fun e member => by simpa using others e member
  cases s
  simp only [put, missing, Bool.false_eq_true, if_false, remove, List.filter_append]
  simp_all

/-- Setting one key and removing another can be done in either order. -/
theorem remove_put_of_ne (other : k ≠ k') :
    (s.put k' v ttl).remove k = (s.remove k).put k' v ttl := by
  have sameAny : ((s.remove k).entries.any fun e => e.key == k') =
      (s.entries.any fun e => e.key == k') := by
    simp only [remove, List.any_filter]
    congr 1
    funext e
    by_cases same : e.key = k' <;> simp [same, Ne.symm other]
  unfold put
  rw [sameAny]
  split
  · simp only [remove, List.filter_map, KeyStore.mk.injEq, and_true]
    congr 2
    funext e
    by_cases same : e.key = k' <;> simp [same]
  · simp [remove, List.filter_append, Ne.symm other]

/-! ### Keys set for good -/

theorem get?_ne_none_of_lasting {s : KeyStore} {k : String} (set : s.lasting k) : s.get? k ≠ none := by
  unfold lasting at set
  rw [get?_eq_lookup?]
  cases found : s.lookup? k with
  | none => simp [found] at set
  | some e => simp

@[simp] theorem lasting_put_self : (s.put k v none).lasting k := by
  simp [lasting]

theorem lasting_remove_of_ne (other : k' ≠ k) : (s.remove k).lasting k' = s.lasting k' := by
  rw [lasting, lookup?_remove_of_ne _ _ _ other, lasting]

theorem lasting_put_of_ne (other : k' ≠ k) : (s.put k v ttl).lasting k' = s.lasting k' := by
  rw [lasting, lookup?_put_of_ne _ _ _ _ _ other, lasting]

@[simp] theorem lasting_fail (text : String) : (s.fail text).lasting k = s.lasting k := rfl

@[simp] theorem lasting_recover : s.recover.lasting k = s.lasting k := rfl

/-- Moving time on only shortens leases and drops the entries whose lease ran out,
so an entry without a lease is still the one its key is read from. -/
theorem lasting_advance {s : KeyStore} {k : String} (set : s.lasting k) (nanos : Int) :
    (s.advance nanos).lasting k := by
  obtain ⟨entries, failure⟩ := s
  simp only [lasting, lookup?, advance] at set ⊢
  induction entries with
  | nil => simp at set
  | cons e rest ih =>
    by_cases same : e.key = k
    · have forever : e.ttl = none := by simpa [List.find?_cons, same] using set
      simp [forever, same]
    · have later : (rest.find? (·.key == k)).any (·.ttl.isNone) := by
        simpa [List.find?_cons, same] using set
      have differs : (e.key == k) = false := by simpa using same
      rw [List.filterMap_cons]
      -- the entry before is another key's, kept with a shorter lease or dropped
      cases lease : e.ttl with
      | none => simpa [lease, List.find?_cons, differs] using ih later
      | some t =>
        by_cases expired : t - nanos ≤ 0
        · simpa [lease, expired] using ih later
        · simpa [lease, expired, List.find?_cons, differs] using ih later

end Admissions.KeyStore
