import Mathlib.Data.Prod.Lex
import Mathlib.Data.String.Basic
import Mathlib.Data.List.Nodup
import Admissions.Proofs.Decimal
import Admissions.Selection

namespace Admissions.Selection

/-- Where a candidate stands in the ranking: score descending, then examination
number and id ascending, compared in that order. -/
def rankKey (score : Application → Decimal) (a : Application) : ℚᵒᵈ ×ₗ (ℤ ×ₗ String) :=
  toLex (OrderDual.toDual (score a).value, toLex (a.examNo, a.id))

theorem ranksBefore_iff (score : Application → Decimal) (a b : Application) :
    ranksBefore score a b = true ↔ rankKey score a < rankKey score b := by
  rw [ranksBefore, Decimal.cmp_eq_compare_value, rankKey, rankKey, Prod.Lex.toLex_lt_toLex,
    Prod.Lex.toLex_lt_toLex]
  simp only [OrderDual.toDual_lt_toDual, EmbeddingLike.apply_eq_iff_eq]
  rcases lt_trichotomy (score a).value (score b).value with below | same | above
  · simp [compare_lt_iff_lt.mpr below, below.ne, not_lt.mpr below.le]
  · simp only [same, compare_eq_iff_eq.mpr rfl, lt_irrefl, false_or, true_and]
    by_cases numbers : a.examNo = b.examNo <;> simp [numbers]
  · simp [compare_gt_iff_gt.mpr above, above]

/-- The comparator `rank` sorts with, "not ranked after", is the order of the keys. -/
theorem not_ranksBefore_iff (score : Application → Decimal) (a b : Application) :
    (!ranksBefore score b a) = true ↔ rankKey score a ≤ rankKey score b := by
  rw [Bool.not_eq_true', ← Bool.not_eq_true, ranksBefore_iff, not_lt]

theorem rank_sorted (score : Application → Decimal) (apps : List Application) :
    (rank score apps).Pairwise fun a b => rankKey score a ≤ rankKey score b := by
  have trans (a b c : Application) (ab : (!ranksBefore score b a) = true)
      (bc : (!ranksBefore score c b) = true) : (!ranksBefore score c a) = true := by
    rw [not_ranksBefore_iff] at ab bc ⊢
    exact ab.trans bc
  have total (a b : Application) : ((!ranksBefore score b a) || (!ranksBefore score a b)) = true := by
    rcases le_total (rankKey score a) (rankKey score b) with ab | ba
    · simp [(not_ranksBefore_iff score a b).mpr ab]
    · simp [(not_ranksBefore_iff score b a).mpr ba]
  have sorted : (rank score apps).Pairwise fun a b => (!ranksBefore score b a) = true :=
    List.pairwise_mergeSort trans total apps
  exact sorted.imp fun {a b} => (not_ranksBefore_iff score a b).mp

theorem rank_perm (score : Application → Decimal) (apps : List Application) :
    (rank score apps).Perm apps :=
  List.mergeSort_perm _ _

theorem rank_eq_self {score : Application → Decimal} {apps : List Application}
    (ranked : apps.Pairwise fun a b => (!ranksBefore score b a) = true) : rank score apps = apps :=
  List.mergeSort_of_pairwise ranked

theorem id_eq_of_rankKey_eq {score : Application → Decimal} {a b : Application}
    (same : rankKey score a = rankKey score b) : a.id = b.id :=
  congrArg (fun k => (ofLex (ofLex k).2).2) same

/-- With distinct ids no two candidates tie, so the sorted list is determined by
the candidates alone, whatever order they came in. -/
theorem rank_eq_of_perm (score : Application → Decimal) {apps apps' : List Application}
    (perm : apps.Perm apps') (distinct : (apps.map (·.id)).Nodup) :
    rank score apps = rank score apps' := by
  refine List.Perm.eq_of_pairwise ?_ (rank_sorted score apps) (rank_sorted score apps')
    ((rank_perm score apps).trans (perm.trans (rank_perm score apps').symm))
  intro a b inA inB ab ba
  have inApps := (rank_perm score apps).mem_iff.mp inA
  have inApps' := perm.mem_iff.mpr ((rank_perm score apps').mem_iff.mp inB)
  exact List.inj_on_of_nodup_map distinct inApps inApps' (id_eq_of_rankKey_eq (le_antisymm ab ba))

section Permuted

variable {apps apps' : List Application}

theorem candidatesOf_perm (perm : apps.Perm apps') (status : Status) (c : Category) :
    (candidatesOf apps status c).Perm (candidatesOf apps' status c) :=
  perm.filter _

theorem candidatesOf_ids_nodup (distinct : (apps.map (·.id)).Nodup) (status : Status)
    (c : Category) : ((candidatesOf apps status c).map (·.id)).Nodup :=
  distinct.sublist ((List.filter_sublist).map _)

/-- A category's ranked candidates do not depend on the order of the input. -/
theorem rank_candidatesOf_perm (score : Application → Decimal) (perm : apps.Perm apps')
    (distinct : (apps.map (·.id)).Nodup) (status : Status) (c : Category) :
    rank score (candidatesOf apps status c) = rank score (candidatesOf apps' status c) :=
  rank_eq_of_perm score (candidatesOf_perm perm status c) (candidatesOf_ids_nodup distinct status c)

theorem firstPassIn_perm (perm : apps.Perm apps') (distinct : (apps.map (·.id)).Nodup)
    (q : QuotaConfig) (c : Category) : firstPassIn apps q c = firstPassIn apps' q c := by
  rw [firstPassIn, firstPassIn, rank_candidatesOf_perm firstRoundKey perm distinct]

theorem secondPassIn_perm (perm : apps.Perm apps') (distinct : (apps.map (·.id)).Nodup)
    (q : QuotaConfig) (c : Category) : secondPassIn apps q c = secondPassIn apps' q c := by
  rw [secondPassIn, secondPassIn, rank_candidatesOf_perm totalKey perm distinct]

/-- Whether some record lacks what the first round needs is a question about the
set of records; only which one is reported depends on the order. -/
theorem firstRoundGap_eq_none_perm (perm : apps.Perm apps') :
    firstRoundGap apps = none ↔ firstRoundGap apps' = none := by
  simp only [firstRoundGap, List.findSome?_eq_none_iff, perm.mem_iff]

theorem secondRoundGap_eq_none_perm (perm : apps.Perm apps') :
    secondRoundGap apps = none ↔ secondRoundGap apps' = none := by
  simp only [secondRoundGap, List.findSome?_eq_none_iff, perm.mem_iff]

theorem firstPass_toOption_perm (perm : apps.Perm apps') (distinct : (apps.map (·.id)).Nodup)
    (q : QuotaConfig) : (firstPass apps q).toOption = (firstPass apps' q).toOption := by
  have gaps := firstRoundGap_eq_none_perm perm
  unfold firstPass
  cases gap : firstRoundGap apps with
  | some g =>
    cases gap' : firstRoundGap apps' with
    | some g' => rfl
    | none => simp [gap, gap'] at gaps
  | none => rw [gaps.mp gap, funext (firstPassIn_perm perm distinct q)]

/-- First-round selection over records that lack nothing, with each category's
candidates already in rank order, admits every category's candidates as they come. -/
theorem firstPass_of_ranked {apps : List Application} (complete : firstRoundGap apps = none)
    (ranked : ∀ c, (candidatesOf apps .received c).Pairwise fun a b =>
      (!ranksBefore firstRoundKey b a) = true) (q : QuotaConfig) :
    firstPass apps q = .ok ⟨Category.all.map fun c =>
      allocate c (candidatesOf apps .received c) (q.firstRoundTarget c)
        (q.regionalCap (q.firstRoundTarget c))⟩ := by
  have asGiven : firstPassIn apps q = fun c =>
      allocate c (candidatesOf apps .received c) (q.firstRoundTarget c)
        (q.regionalCap (q.firstRoundTarget c)) :=
    funext fun c => by simp only [firstPassIn, rank_eq_self (ranked c)]
  simp only [firstPass, complete, asGiven]

theorem secondPass_toOption_perm (perm : apps.Perm apps') (distinct : (apps.map (·.id)).Nodup)
    (q : QuotaConfig) : (secondPass apps q).toOption = (secondPass apps' q).toOption := by
  have gaps := secondRoundGap_eq_none_perm perm
  unfold secondPass
  cases gap : secondRoundGap apps with
  | some g =>
    cases gap' : secondRoundGap apps' with
    | some g' => rfl
    | none => simp [gap, gap'] at gaps
  | none => rw [gaps.mp gap, funext (secondPassIn_perm perm distinct q)]

end Permuted

/-- The only refusal of the first pass is missing data. -/
theorem firstPass_error_code {apps : List Application} {q : QuotaConfig} {e : AdmissionError}
    (failed : firstPass apps q = .error e) : e.code = "INSUFFICIENT_DATA" := by
  unfold firstPass at failed
  split at failed
  · cases failed
    rfl
  · cases failed

/-- The only refusal of the second pass is missing data. -/
theorem secondPass_error_code {apps : List Application} {q : QuotaConfig} {e : AdmissionError}
    (failed : secondPass apps q = .error e) : e.code = "INSUFFICIENT_DATA" := by
  unfold secondPass at failed
  split at failed
  · cases failed
    rfl
  · cases failed

/-- Both passes select the same candidates, in the same order and with the same
counts, from any reordering of records whose ids are distinct; and one run is
refused, for missing data, exactly when the other is. -/
theorem selection_order_independent {apps apps' : List Application} (perm : apps.Perm apps')
    (distinct : (apps.map (·.id)).Nodup) (q : QuotaConfig) :
    (firstPass apps q).toOption = (firstPass apps' q).toOption ∧
      (secondPass apps q).toOption = (secondPass apps' q).toOption ∧
      ∀ records ∈ [apps, apps'], ∀ e,
        (firstPass records q = .error e ∨ secondPass records q = .error e) →
          e.code = "INSUFFICIENT_DATA" := by
  refine ⟨firstPass_toOption_perm perm distinct q, secondPass_toOption_perm perm distinct q, ?_⟩
  intro records _ e failed
  rcases failed with first | second
  · exact firstPass_error_code first
  · exact secondPass_error_code second

/-- A received form with a first-round score and a number, for the sample below. -/
def receivedForm (id : String) (score : Decimal) (number : Int) : Application :=
  { id, category := "REGULAR", status := "RECEIVED", examinationNumber := some number,
    score := { firstRound := some score } }

theorem selection_order_independent_of_swap :
    [receivedForm "b" 90 1002, receivedForm "a" 90 1001].Perm
        [receivedForm "a" 90 1001, receivedForm "b" 90 1002] ∧
      ([receivedForm "b" 90 1002, receivedForm "a" 90 1001].map (·.id)).Nodup ∧
      (firstPass [receivedForm "b" 90 1002, receivedForm "a" 90 1001] .default).toOption =
        (firstPass [receivedForm "a" 90 1001, receivedForm "b" 90 1002] .default).toOption :=
  have perm := List.Perm.swap (receivedForm "a" 90 1001) (receivedForm "b" 90 1002) []
  have distinct : ([receivedForm "b" 90 1002, receivedForm "a" 90 1001].map (·.id)).Nodup := by
    decide
  ⟨perm, distinct, (selection_order_independent perm distinct .default).1⟩

end Admissions.Selection
