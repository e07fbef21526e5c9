import Admissions.Proofs.Selection.Walk
import Admissions.Proofs.Selection.ScoreSheet

namespace Admissions.Selection

/-- The law of a category's final selection `sel`, with `R` the first-round passers of its
category. Its target is the category's seats and its regional cap the policy's for that
target. `R`, ranked by total score descending and then examination number and id
ascending, is split between the passed and the failed, each in rank order, so that the
two are disjoint and together list `R` once. As many are admitted as pass: every local
passer and as many from other regions as the cap allows, cut at the seats when they are
not negative. No form of another status is passed or failed. -/
structure FinalLaw (apps : List Application) (q : QuotaConfig) (sel : CategorySelection) : Prop where
  target : sel.target = q.seatsOf sel.category
  regionalCap : sel.regionalCap = q.regionalCap sel.target
  ranked : ∃ ranked : List Application,
    ranked.Perm (candidatesOf apps .firstPassed sel.category) ∧
    ranked.Pairwise (fun a b => rankKey totalKey a ≤ rankKey totalKey b) ∧
    sel.passed.Sublist (ranked.map (·.id)) ∧ sel.failed.Sublist (ranked.map (·.id))
  partition : (sel.passed ++ sel.failed).Perm ((candidatesOf apps .firstPassed sel.category).map (·.id))
  disjoint : ∀ id ∈ sel.passed, id ∉ sel.failed
  admitted : sel.admitted = sel.passed.length
  count : (sel.admitted : Int) =
    if 0 ≤ sel.target
    then min sel.target (admissible sel.regionalCap (candidatesOf apps .firstPassed sel.category))
    else admissible sel.regionalCap (candidatesOf apps .firstPassed sel.category)
  withinCap : (sel.otherRegionAdmitted : Int) ≤ max sel.regionalCap 0
  others : ∀ a ∈ apps, a.status ≠ Status.firstPassed.code → a.id ∉ sel.passed ∧ a.id ∉ sel.failed

@[simp] theorem secondPassIn_category (apps : List Application) (q : QuotaConfig) (c : Category) :
    (secondPassIn apps q c).category = c := rfl

/-- Over records of distinct ids, a form of another status shares its id with no
first-round passer. -/
theorem id_ne_of_other_status {apps : List Application} (distinct : (apps.map (·.id)).Nodup)
    {a b : Application} (kept : a ∈ apps) (other : a.status ≠ Status.firstPassed.code) {c : Category}
    (candidate : b ∈ candidatesOf apps .firstPassed c) : a.id ≠ b.id := by
  obtain ⟨held, passer, -⟩ := mem_candidatesOf.mp candidate
  intro same
  obtain rfl := List.inj_on_of_nodup_map distinct kept held same
  exact other passer

/-- A candidate is failed when its id is not among the admitted ones. -/
theorem mem_filter_not_contains {ranked : List Application} {ids : List String} {x : Application} :
    (x ∈ ranked.filter fun a => !ids.contains a.id) ↔ x ∈ ranked ∧ x.id ∉ ids := by
  simp

/-- Admitting a sublist of candidates with distinct ids and failing the rest, by id,
splits the candidates: the admitted and the failed together list each candidate once. -/
theorem admitted_append_failed_perm {ranked P : List Application} (distinct : (ranked.map (·.id)).Nodup)
    (considered : P.Sublist ranked) :
    (P ++ ranked.filter fun a => !(P.map (·.id)).contains a.id).Perm ranked := by
  have nodup : ranked.Nodup := distinct.of_map _
  -- a candidate whose id was admitted is the admitted candidate of that id
  have admittedById {x : Application} (member : x ∈ ranked) (named : x.id ∈ P.map (·.id)) : x ∈ P := by
    obtain ⟨p, admitted, same⟩ := List.mem_map.mp named
    obtain rfl := List.inj_on_of_nodup_map distinct (considered.subset admitted) member same
    exact admitted
  apply (List.perm_ext_iff_of_nodup _ nodup).mpr
  · intro x
    rw [List.mem_append, mem_filter_not_contains]
    constructor
    · rintro (admitted | ⟨member, -⟩)
      · exact considered.subset admitted
      · exact member
    · intro member
      by_cases named : x.id ∈ P.map (·.id)
      · exact .inl (admittedById member named)
      · exact .inr ⟨member, named⟩
  · refine List.nodup_append.mpr ⟨nodup.sublist considered, nodup.filter _, ?_⟩
    intro x admitted y failed same
    subst same
    exact (mem_filter_not_contains.mp failed).2 (List.mem_map_of_mem admitted)

theorem secondPassIn_finalLaw {apps : List Application} (distinct : (apps.map (·.id)).Nodup)
    (q : QuotaConfig) (c : Category) : FinalLaw apps q (secondPassIn apps q c) := by
  set R := candidatesOf apps .firstPassed c
  set S := q.seatsOf c
  set K := q.regionalCap S
  have perm := rank_perm totalKey R
  have rankedIds : ((rank totalKey R).map (·.id)).Nodup :=
    (perm.map _).nodup_iff.mpr (candidatesOf_ids_nodup distinct _ c)
  obtain ⟨M, U, P, D, split, walked⟩ := walk_walked S K {} (rank totalKey R)
  have passedIds : (walk S K {} (rank totalKey R)).passed = P.map (·.id) :=
    walked.passed.trans (List.nil_append _)
  have considered : P.Sublist (rank totalKey R) :=
    walked.admitted_sublist.trans (split ▸ List.sublist_append_left M U)
  -- the failed are the ranked passers whose ids the walk did not admit
  have splits := admitted_append_failed_perm rankedIds considered
  have closed := walk_admitted_of_perm S K perm
  have fromRanked {id : String} (listed : id ∈ (secondPassIn apps q c).passed ∨ id ∈ (secondPassIn apps q c).failed) :
      ∃ b ∈ R, b.id = id :=
    (secondPassIn_decides apps q c id).mp listed
  refine ⟨rfl, rfl, ⟨rank totalKey R, perm, rank_sorted totalKey R, ?_, ?_⟩, ?_, ?_, ?_, closed,
    walk_otherRegion_le (by simp) _, ?_⟩
  · change (walk S K {} (rank totalKey R)).passed.Sublist _
    rw [passedIds]
    exact considered.map _
  · exact (List.filter_sublist).map _
  · change ((walk S K {} (rank totalKey R)).passed ++
      ((rank totalKey R).filter fun a => !(walk S K {} (rank totalKey R)).passed.contains a.id).map (·.id)).Perm _
    rw [passedIds, ← List.map_append]
    exact (splits.trans perm).map _
  · intro id passed failed
    obtain ⟨a, kept, rfl⟩ := List.mem_map.mp failed
    exact (mem_filter_not_contains.mp kept).2 passed
  · change (walk S K {} (rank totalKey R)).admitted = (walk S K {} (rank totalKey R)).passed.length
    rw [walked.count, passedIds, List.length_map]
    exact Nat.zero_add _
  · intro a kept other
    constructor
    · intro passed
      obtain ⟨b, candidate, same⟩ := fromRanked (.inl passed)
      exact id_ne_of_other_status distinct kept other candidate same.symm
    · intro failed
      obtain ⟨b, candidate, same⟩ := fromRanked (.inr failed)
      exact id_ne_of_other_status distinct kept other candidate same.symm

/-- What final selection over `apps` under `q` does: it is refused, for missing data,
exactly when a first-round passer has a category that names none or no total; otherwise
it lists every category once, in category order, each under `FinalLaw`. -/
structure SecondPassLaw (apps : List Application) (q : QuotaConfig) : Prop where
  refused : (∃ e, secondPass apps q = .error e) ↔
    ∃ a ∈ apps, a.status = Status.firstPassed.code ∧
      ((Category.ofCode? a.category).isNone ∨ a.score.total.isNone)
  insufficient : ∀ e, secondPass apps q = .error e → e.code = "INSUFFICIENT_DATA"
  selected : ∀ r, secondPass apps q = .ok r →
    r.categories.map (·.category) = Category.all ∧ ∀ sel ∈ r.categories, FinalLaw apps q sel

theorem secondRoundGap_eq_none_iff (apps : List Application) :
    secondRoundGap apps = none ↔ ∀ a ∈ apps, a.status = Status.firstPassed.code →
      (Category.ofCode? a.category).isSome ∧ a.score.total.isSome := by
  rw [secondRoundGap, List.findSome?_eq_none_iff]
  refine forall₂_congr fun a _ => ?_
  by_cases passer : a.status = Status.firstPassed.code
  · cases Category.ofCode? a.category <;> cases a.score.total <;> simp [passer]
  · simp [passer]

/-- Final selection is refused exactly when a first-round passer has a category that names
none or no total. -/
theorem secondPass_error_iff (apps : List Application) (q : QuotaConfig) :
    (∃ e, secondPass apps q = .error e) ↔
      ∃ a ∈ apps, a.status = Status.firstPassed.code ∧
        ((Category.ofCode? a.category).isNone ∨ a.score.total.isNone) := by
  have gaps := secondRoundGap_eq_none_iff apps
  unfold secondPass
  cases gap : secondRoundGap apps with
  | some g =>
    have found : ¬ ∀ a ∈ apps, a.status = Status.firstPassed.code →
        (Category.ofCode? a.category).isSome ∧ a.score.total.isSome := by
      rw [← gaps, gap]
      exact Option.some_ne_none g
    simp only [not_forall] at found
    obtain ⟨a, kept, passer, lacking⟩ := found
    refine ⟨fun _ => ⟨a, kept, passer, ?_⟩, fun _ => ⟨_, rfl⟩⟩
    by_cases known : (Category.ofCode? a.category).isSome
    · exact .inr (by simpa [known] using lacking)
    · exact .inl (by simpa using known)
  | none =>
    have complete := gaps.mp gap
    simp only [reduceCtorEq, exists_false, false_iff, not_exists, not_and]
    intro a kept passer lacking
    obtain ⟨known, totalled⟩ := complete a kept passer
    rcases lacking with unknown | untotalled
    · simp [Option.isNone_iff_eq_none.mp unknown] at known
    · simp [Option.isNone_iff_eq_none.mp untotalled] at totalled

/-- A final selection that goes through has one entry per category, each the walk over
that category's ranked first-round passers. -/
theorem secondPass_ok {apps : List Application} {q : QuotaConfig} {r : SelectionResult}
    (ok : secondPass apps q = .ok r) : r = ⟨Category.all.map (secondPassIn apps q)⟩ := by
  unfold secondPass at ok
  split at ok
  · cases ok
  · exact (Except.ok.inj ok).symm

/-- Final selection partitions the interviewed applicants. Over records of distinct ids and
under any policy, it is refused, always for missing data, exactly when some first-round
passer has a category that names none or no total; otherwise each category, listed once
in category order, passes and fails its first-round passers as `FinalLaw` says. -/
theorem final_selection_partitions {apps : List Application} (distinct : (apps.map (·.id)).Nodup)
    (q : QuotaConfig) : SecondPassLaw apps q where
  refused := secondPass_error_iff apps q
  insufficient _ failed := secondPass_error_code failed
  selected r ok := by
    rw [secondPass_ok ok]
    refine ⟨by simp [Function.comp_def], fun sel member => ?_⟩
    obtain ⟨c, -, rfl⟩ := List.mem_map.mp member
    exact secondPassIn_finalLaw distinct q c

/-- Two first-round passers of the general category with totals, one from another region. -/
def interviewedPassers : List Application :=
  [{ id := "a", category := "REGULAR", status := "FIRST_PASSED", examinationNumber := some 1001,
     score := { total := some 250 } },
   { id := "b", category := "REGULAR", status := "FIRST_PASSED", examinationNumber := some 1002,
     otherRegion := true, score := { total := some 240 } }]

theorem interviewedPassers_partitioned :
    (interviewedPassers.map (·.id)).Nodup ∧ SecondPassLaw interviewedPassers .default :=
  have distinct : (interviewedPassers.map (·.id)).Nodup := by decide
  ⟨distinct, final_selection_partitions distinct .default⟩

/-- A policy that takes one seat away from the general category, which the configuration
loader refuses. -/
def negativeSeatQuota : QuotaConfig :=
  { seats := [("REGULAR", -1)], multiplier := 1, otherRegionRate := ⟨5, -1⟩ }

/-- Under a negative seat count the walk never meets its target, so the one passer is
admitted, where the seats cut at zero would admit nobody. -/
theorem negative_seats_admit_past_target :
    ∃ r, secondPass [interviewedPassers.head!] negativeSeatQuota = .ok r ∧
      ∃ sel ∈ r.categories, sel.category = .regular ∧ sel.admitted = 1 ∧
        min (max (negativeSeatQuota.seatsOf .regular) 0)
          (admissible (negativeSeatQuota.regionalCap (negativeSeatQuota.seatsOf .regular))
            (candidatesOf [interviewedPassers.head!] .firstPassed .regular)) = 0 := by
  -- one passer is ranked as it comes, which leaves the walk to evaluate
  have ranked (c : Category) : rank totalKey (candidatesOf [interviewedPassers.head!] .firstPassed c) =
      candidatesOf [interviewedPassers.head!] .firstPassed c :=
    rank_eq_self ((List.pairwise_singleton _ _).sublist List.filter_sublist)
  refine ⟨_, rfl, secondPassIn [interviewedPassers.head!] negativeSeatQuota .regular,
    List.mem_map_of_mem (by decide), rfl, ?_, by decide⟩
  simp only [secondPassIn, ranked]
  decide

end Admissions.Selection
