import Mathlib.Data.List.Perm.Subperm
import Admissions.Proofs.Selection.Rank

namespace Admissions.Selection

namespace Tally

/-- The tally after admitting a candidate. -/
def accept (t : Tally) (a : Application) : Tally :=
  { t with
    admitted := t.admitted + 1
    otherRegionAdmitted := t.otherRegionAdmitted + if a.otherRegion then 1 else 0
    passed := t.passed ++ [a.id] }

/-- The tally after deferring a candidate. -/
def defer (t : Tally) (a : Application) : Tally := { t with deferred := t.deferred ++ [a.id] }

end Tally

/-- One step of the walk: stop at the target, defer a candidate from another region
while the cap is full, admit anyone else. -/
theorem walk_cons (target cap : Int) (t : Tally) (a : Application) (rest : List Application) :
    walk target cap t (a :: rest) =
      if (t.admitted : Int) = target then t
      else if a.otherRegion = true ∧ cap ≤ t.otherRegionAdmitted then walk target cap (t.defer a) rest
      else walk target cap (t.accept a) rest := by
  by_cases other : a.otherRegion = true <;> simp [walk, other, Tally.accept, Tally.defer]

/-- How a walk from the tally `t` ended in `t'` over `considered ++ unreached`: the
candidates `admitted` and `deferred` split the considered ones between them, each in
the order met; candidates were left unreached only on meeting the target, and deferred
only from other regions while the cap was full. -/
structure Walked (target cap : Int) (t t' : Tally)
    (considered unreached admitted deferred : List Application) : Prop where
  admitted_sublist : admitted.Sublist considered
  deferred_sublist : deferred.Sublist considered
  partition : (admitted ++ deferred).Perm considered
  passed : t'.passed = t.passed ++ admitted.map (·.id)
  deferredIds : t'.deferred = t.deferred ++ deferred.map (·.id)
  count : t'.admitted = t.admitted + admitted.length
  otherCount : t'.otherRegionAdmitted = t.otherRegionAdmitted + admitted.countP (·.otherRegion)
  deferred_other : ∀ d ∈ deferred, d.otherRegion = true
  stopped : unreached ≠ [] → (t'.admitted : Int) = target
  full : deferred ≠ [] → cap ≤ t'.otherRegionAdmitted

namespace Walked

variable {target cap : Int}

theorem finished (t : Tally) : Walked target cap t t [] [] [] [] where
  admitted_sublist := .slnil
  deferred_sublist := .slnil
  partition := .nil
  passed := by simp
  deferredIds := by simp
  count := rfl
  otherCount := by simp
  deferred_other := by simp
  stopped := by simp
  full := by simp

theorem stop {t : Tally} (reached : (t.admitted : Int) = target) (l : List Application) :
    Walked target cap t t [] l [] [] where
  admitted_sublist := .slnil
  deferred_sublist := .slnil
  partition := .nil
  passed := by simp
  deferredIds := by simp
  count := rfl
  otherCount := by simp
  deferred_other := by simp
  stopped := fun _ => reached
  full := by simp

theorem defer {t t' : Tally} {a : Application} {M U P D : List Application}
    (other : a.otherRegion = true) (isFull : cap ≤ t.otherRegionAdmitted)
    (rest : Walked target cap (t.defer a) t' M U P D) : Walked target cap t t' (a :: M) U P (a :: D) where
  admitted_sublist := rest.admitted_sublist.cons a
  deferred_sublist := rest.deferred_sublist.cons_cons a
  partition := List.perm_middle.trans (rest.partition.cons a)
  passed := rest.passed
  deferredIds := by rw [rest.deferredIds]; simp [Tally.defer]
  count := rest.count
  otherCount := rest.otherCount
  deferred_other := by
    rintro d (_ | ⟨_, later⟩)
    · exact other
    · exact rest.deferred_other d later
  stopped := rest.stopped
  -- the count of other-region admissions never falls, so the cap stays full
  full := fun _ => by
    have grown := rest.otherCount
    simp only [Tally.defer] at grown
    omega

theorem accept {t t' : Tally} {a : Application} {M U P D : List Application}
    (rest : Walked target cap (t.accept a) t' M U P D) : Walked target cap t t' (a :: M) U (a :: P) D where
  admitted_sublist := rest.admitted_sublist.cons_cons a
  deferred_sublist := rest.deferred_sublist.cons a
  partition := rest.partition.cons a
  passed := by rw [rest.passed]; simp [Tally.accept]
  deferredIds := rest.deferredIds
  count := by rw [rest.count]; simp only [Tally.accept, List.length_cons]; omega
  otherCount := by
    rw [rest.otherCount]
    simp only [Tally.accept, List.countP_cons]
    omega
  deferred_other := rest.deferred_other
  stopped := rest.stopped
  full := rest.full

end Walked

/-- Every walk is described by `Walked`: it considers a prefix of its candidates and
splits it into the admitted and the deferred. -/
theorem walk_walked (target cap : Int) (t : Tally) (l : List Application) :
    ∃ M U P D, l = M ++ U ∧ Walked target cap t (walk target cap t l) M U P D := by
  induction l generalizing t with
  | nil => exact ⟨[], [], [], [], rfl, .finished t⟩
  | cons a rest ih =>
    rw [walk_cons]
    split_ifs with reached deferred
    · exact ⟨[], a :: rest, [], [], rfl, .stop reached _⟩
    · obtain ⟨M, U, P, D, split, walked⟩ := ih (t.defer a)
      exact ⟨a :: M, U, P, a :: D, by rw [split, List.cons_append], walked.defer deferred.1 deferred.2⟩
    · obtain ⟨M, U, P, D, split, walked⟩ := ih (t.accept a)
      exact ⟨a :: M, U, a :: P, D, by rw [split, List.cons_append], walked.accept⟩

/-- A walk that starts within the cap stays within it: a candidate from another region is
admitted only while fewer than `cap` are in. -/
theorem walk_otherRegion_le {target cap : Int} {t : Tally}
    (within : (t.otherRegionAdmitted : Int) ≤ max cap 0) (l : List Application) :
    ((walk target cap t l).otherRegionAdmitted : Int) ≤ max cap 0 := by
  induction l generalizing t with
  | nil => exact within
  | cons a rest ih =>
    rw [walk_cons]
    split_ifs with reached deferred
    · exact within
    · exact ih within
    · apply ih
      have room : a.otherRegion = true → (t.otherRegionAdmitted : Int) < cap := fun other =>
        Int.lt_of_not_ge (not_and.mp deferred other)
      simp only [Tally.accept]
      split
      · have below := room ‹_›
        push_cast
        omega
      · simpa using within

/-- How many of `cands` the walk admits when no target stops it: every local candidate,
and from other regions as many as the cap leaves room for. -/
def admissible (cap : Int) (cands : List Application) : Int :=
  cands.countP (!·.otherRegion) + min (cands.countP (·.otherRegion) : Int) (max cap 0)

theorem admissible_nonneg (cap : Int) (cands : List Application) : 0 ≤ admissible cap cands := by
  unfold admissible
  omega

theorem admissible_perm (cap : Int) {l l' : List Application} (perm : l.Perm l') :
    admissible cap l = admissible cap l' := by
  rw [admissible, admissible, perm.countP_eq, perm.countP_eq]

theorem admissible_cons_inRegion (cap : Int) {a : Application} (inRegion : a.otherRegion = false)
    (rest : List Application) : admissible cap (a :: rest) = admissible cap rest + 1 := by
  simp only [admissible, List.countP_cons, inRegion, Bool.not_false, ite_true, Bool.false_eq_true,
    ite_false]
  omega

theorem admissible_cons_other (cap : Int) {a : Application} (other : a.otherRegion = true)
    (rest : List Application) :
    admissible cap (a :: rest) = if cap ≤ 0 then admissible cap rest else admissible (cap - 1) rest + 1 := by
  simp only [admissible, List.countP_cons, other, Bool.not_true, ite_true, Bool.false_eq_true,
    ite_false]
  by_cases nonpos : cap ≤ 0
  · rw [if_pos nonpos]
    omega
  · rw [if_neg nonpos]
    omega

/-- The count law of the walk. From a tally below its target, the walk admits the
candidates it would admit with no target, cut at the target; from one past it, which a
negative target puts the empty tally, nothing stops it. -/
theorem walk_admitted (target cap : Int) (t : Tally) (l : List Application) :
    ((walk target cap t l).admitted : Int) =
      if (t.admitted : Int) ≤ target
      then min target (t.admitted + admissible (cap - t.otherRegionAdmitted) l)
      else t.admitted + admissible (cap - t.otherRegionAdmitted) l := by
  induction l generalizing t with
  | nil => simp only [walk, admissible, List.countP_nil]; split <;> omega
  | cons a rest ih =>
    rw [walk_cons]
    by_cases reached : (t.admitted : Int) = target
    · rw [if_pos reached, if_pos reached.le]
      have := admissible_nonneg (cap - t.otherRegionAdmitted) (a :: rest)
      omega
    rw [if_neg reached]
    by_cases deferred : a.otherRegion = true ∧ cap ≤ t.otherRegionAdmitted
    · -- a deferral leaves the tally's counts, and the cap leaves no room
      have noRoom : cap - (t.otherRegionAdmitted : Int) ≤ 0 := by omega
      rw [if_pos deferred, ih, admissible_cons_other _ deferred.1, if_pos noRoom]
      rfl
    rw [if_neg deferred, ih]
    have room := admissible_nonneg (cap - t.otherRegionAdmitted) rest
    cases other : a.otherRegion with
    | false =>
      simp only [Tally.accept, other, Bool.false_eq_true, ite_false, Nat.add_zero,
        admissible_cons_inRegion _ other]
      split_ifs <;> omega
    | true =>
      have free : ¬cap - (t.otherRegionAdmitted : Int) ≤ 0 := by simp_all
      have shifted : cap - ((t.otherRegionAdmitted + 1 : Nat) : Int) = cap - t.otherRegionAdmitted - 1 := by
        omega
      simp only [Tally.accept, other, ite_true, admissible_cons_other _ other, if_neg free, shifted]
      have room' := admissible_nonneg (cap - t.otherRegionAdmitted - 1) rest
      split_ifs <;> omega

/-- From the empty tally the count law reads off the candidates, in any order: ranking
them first changes nothing. -/
theorem walk_admitted_of_perm (target cap : Int) {ranked cands : List Application}
    (perm : ranked.Perm cands) :
    ((walk target cap {} ranked).admitted : Int) =
      if 0 ≤ target then min target (admissible cap cands) else admissible cap cands := by
  have law := walk_admitted target cap {} ranked
  rw [admissible_perm _ perm] at law
  simpa using law

/-- A first-round selection that goes through has one entry per category, each the walk
over that category's ranked received forms. -/
theorem firstPass_ok {apps : List Application} {q : QuotaConfig} {r : SelectionResult}
    (ok : firstPass apps q = .ok r) : r = ⟨Category.all.map (firstPassIn apps q)⟩ := by
  unfold firstPass at ok
  split at ok
  · cases ok
  · cases ok
    rfl

@[simp] theorem firstPassIn_category (apps : List Application) (q : QuotaConfig) (c : Category) :
    (firstPassIn apps q c).category = c := rfl

/-- The count law of a category's first-round outcome `sel`, with `R` the received forms of
its category. Its target and cap are the policy's; it saw every form of `R` and passed
some of them, each at most once; it admitted every local one and as many from other
regions as the cap allows, cut at the target when the target is not negative; so a
target that is not negative is never exceeded, and is met exactly when enough forms
exist within the cap. -/
structure CountLaw (apps : List Application) (q : QuotaConfig) (sel : CategorySelection) : Prop where
  target : sel.target = q.firstRoundTarget sel.category
  regionalCap : sel.regionalCap = q.regionalCap sel.target
  candidates : sel.candidates = (candidatesOf apps .received sel.category).length
  passed : ∃ S : List Application, S.Subperm (candidatesOf apps .received sel.category) ∧
    sel.passed = S.map (·.id) ∧ sel.admitted = S.length ∧
    sel.otherRegionAdmitted = S.countP (·.otherRegion)
  withinCap : (sel.otherRegionAdmitted : Int) ≤ max sel.regionalCap 0
  admitted : (sel.admitted : Int) =
    if 0 ≤ sel.target
    then min sel.target (admissible sel.regionalCap (candidatesOf apps .received sel.category))
    else admissible sel.regionalCap (candidatesOf apps .received sel.category)
  meetsTarget : 0 ≤ sel.target → (sel.admitted : Int) ≤ sel.target ∧
    ((sel.admitted : Int) = sel.target ↔
      sel.target ≤ admissible sel.regionalCap (candidatesOf apps .received sel.category))

theorem firstPassIn_countLaw (apps : List Application) (q : QuotaConfig) (c : Category) :
    CountLaw apps q (firstPassIn apps q c) := by
  set R := candidatesOf apps .received c
  set T := q.firstRoundTarget c
  set K := q.regionalCap T
  have ranked := rank_perm firstRoundKey R
  obtain ⟨M, U, P, D, split, walked⟩ := walk_walked T K {} (rank firstRoundKey R)
  have closed := walk_admitted_of_perm T K ranked
  have considered : P.Sublist (rank firstRoundKey R) :=
    walked.admitted_sublist.trans (split ▸ List.sublist_append_left M U)
  refine ⟨rfl, rfl, ranked.length_eq, ⟨P, considered.subperm.trans ranked.subperm, ?_, ?_, ?_⟩,
    walk_otherRegion_le (by simp) _, closed, fun nonneg => ?_⟩
  · exact walked.passed.trans (List.nil_append _)
  · exact walked.count.trans (Nat.zero_add _)
  · exact walked.otherCount.trans (Nat.zero_add _)
  · change ((walk T K {} (rank firstRoundKey R)).admitted : Int) ≤ T ∧
      (((walk T K {} (rank firstRoundKey R)).admitted : Int) = T ↔ T ≤ admissible K R)
    rw [closed, if_pos (show 0 ≤ T from nonneg)]
    omega

/-- The count law of first-round selection: a selection that goes through lists every
category once, in category order, and each category's outcome obeys `CountLaw`. -/
theorem first_round_count_law {apps : List Application} {q : QuotaConfig} {r : SelectionResult}
    (ok : firstPass apps q = .ok r) :
    r.categories.map (·.category) = Category.all ∧ ∀ sel ∈ r.categories, CountLaw apps q sel := by
  rw [firstPass_ok ok]
  refine ⟨by simp [Function.comp_def], ?_⟩
  intro sel member
  obtain ⟨c, -, rfl⟩ := List.mem_map.mp member
  exact firstPassIn_countLaw apps q c

theorem first_round_count_law_two_forms :
    ∃ r, firstPass [receivedForm "a" 90 1001, receivedForm "b" 80 1002] .default = .ok r ∧
      r.categories.map (·.category) = Category.all ∧
      ∀ sel ∈ r.categories, CountLaw [receivedForm "a" 90 1001, receivedForm "b" 80 1002] .default sel :=
  ⟨_, rfl, first_round_count_law rfl⟩

/-- A policy the configuration accepts, one regular seat with a multiplier of 2^63, whose
first-round target wraps to the most negative word. -/
def wrappedQuota : QuotaConfig :=
  { QuotaConfig.default with seats := [("REGULAR", 1)], multiplier := ⟨9223372036854775808, 0⟩ }

/-- Under a target that wrapped below zero the walk never meets its target, so the one
received form passes: the category admits more than its target, not none. -/
theorem wrapped_target_admits_past_it :
    (firstPass [receivedForm "a" 150 1001] wrappedQuota).toOption.map
        (fun r => r.categories.map fun sel => (sel.target, sel.admitted)) =
      some [(-9223372036854775808, 1), (0, 0), (0, 0), (0, 0), (0, 0)] := by
  -- one form is ranked as it comes, which leaves the walk to evaluate
  have ranked (c : Category) : (candidatesOf [receivedForm "a" 150 1001] .received c).Pairwise
      fun a b => (!ranksBefore firstRoundKey b a) = true :=
    (List.pairwise_singleton _ _).sublist List.filter_sublist
  rw [firstPass_of_ranked (by decide) ranked]
  decide

/-- The merit order of a category's first-round outcome `sel`. Its received forms, ranked
by score descending (compared exactly), then examination number and id ascending, are
cut into a considered prefix and an unreached rest. The passed and the deferred forms
split the considered ones, each in rank order; every deferred form is from another
region; the unreached rank below all considered ones and are left only once the target
is met; and a form left out while a lower-ranked one passed is from another region, met
when the regional cap was full. -/
def MeritOrder (apps : List Application) (q : QuotaConfig) (sel : CategorySelection) : Prop :=
  ∃ ranked : List Application,
    ranked.Perm (candidatesOf apps .received sel.category) ∧
    ranked.Pairwise (fun a b => rankKey firstRoundKey a ≤ rankKey firstRoundKey b) ∧
    ∃ considered unreached admitted deferred : List Application,
      ranked = considered ++ unreached ∧
      sel.passed = admitted.map (·.id) ∧ sel.deferred = deferred.map (·.id) ∧
      admitted.Sublist considered ∧ deferred.Sublist considered ∧
      (admitted ++ deferred).Perm considered ∧
      (∀ d ∈ deferred, d.otherRegion = true) ∧
      (∀ u ∈ unreached, ∀ m ∈ admitted ++ deferred,
        rankKey firstRoundKey m ≤ rankKey firstRoundKey u) ∧
      (unreached ≠ [] → (sel.admitted : Int) = q.firstRoundTarget sel.category) ∧
      ∀ x ∈ deferred ++ unreached, ∀ p ∈ admitted,
        rankKey firstRoundKey x < rankKey firstRoundKey p →
          x.otherRegion = true ∧
            (sel.otherRegionAdmitted : Int) = max (q.regionalCap (q.firstRoundTarget sel.category)) 0

theorem firstPassIn_meritOrder (apps : List Application) (q : QuotaConfig) (c : Category) :
    MeritOrder apps q (firstPassIn apps q c) := by
  set R := candidatesOf apps .received c
  set T := q.firstRoundTarget c
  set K := q.regionalCap T
  obtain ⟨M, U, P, D, split, walked⟩ := walk_walked T K {} (rank firstRoundKey R)
  have sorted := rank_sorted firstRoundKey R
  -- the ranking is sorted, so what the walk never reached ranks below what it considered
  have below : ∀ u ∈ U, ∀ m ∈ P ++ D, rankKey firstRoundKey m ≤ rankKey firstRoundKey u := by
    intro u unreached m considered
    rw [split, List.pairwise_append] at sorted
    exact sorted.2.2 m (walked.partition.mem_iff.mp considered) u unreached
  have within : ((walk T K {} (rank firstRoundKey R)).otherRegionAdmitted : Int) ≤ max K 0 :=
    walk_otherRegion_le (by simp) _
  refine ⟨rank firstRoundKey R, rank_perm _ _, sorted, M, U, P, D, split,
    walked.passed.trans (List.nil_append _), walked.deferredIds.trans (List.nil_append _),
    walked.admitted_sublist, walked.deferred_sublist,
    walked.partition, walked.deferred_other, below, walked.stopped, ?_⟩
  intro x left p admitted outranks
  rcases List.mem_append.mp left with deferred | unreached
  · -- deferred while the cap was full, and the cap is never passed
    have full := walked.full (List.ne_nil_of_mem deferred)
    refine ⟨walked.deferred_other x deferred, ?_⟩
    change ((walk T K {} (rank firstRoundKey R)).otherRegionAdmitted : Int) = max K 0
    omega
  · exact absurd outranks (not_lt.mpr (below x unreached p (List.mem_append_left D admitted)))

/-- The merit order of first-round selection: in a selection that goes through, every
category's outcome obeys `MeritOrder`. -/
theorem first_round_merit_order {apps : List Application} {q : QuotaConfig} {r : SelectionResult}
    (ok : firstPass apps q = .ok r) : ∀ sel ∈ r.categories, MeritOrder apps q sel := by
  rw [firstPass_ok ok]
  intro sel member
  obtain ⟨c, -, rfl⟩ := List.mem_map.mp member
  exact firstPassIn_meritOrder apps q c

theorem first_round_merit_order_two_forms :
    ∃ r, firstPass [receivedForm "a" 90 1001, receivedForm "b" 80 1002] .default = .ok r ∧
      ∀ sel ∈ r.categories, MeritOrder [receivedForm "a" 90 1001, receivedForm "b" 80 1002] .default sel :=
  ⟨_, rfl, first_round_merit_order rfl⟩

end Admissions.Selection
