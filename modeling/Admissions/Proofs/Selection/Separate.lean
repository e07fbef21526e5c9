import Admissions.Proofs.Selection.Final
import Admissions.Proofs.Quota

namespace Admissions

/-- What a selection lists for a category: its first entry for it. -/
def SelectionResult.selectionOf (r : SelectionResult) (c : Category) : Option CategorySelection :=
  r.categories.find? fun s => s.category = c

namespace Selection

def recordsOf (apps : List Application) (c : Category) : List Application :=
  apps.filter fun a => a.category = c.code

/-- A selection made category by category lists each category's own outcome. -/
theorem selectionOf_map_all (pick : Category → CategorySelection) (picks : ∀ c, (pick c).category = c)
    (c : Category) : SelectionResult.selectionOf ⟨Category.all.map pick⟩ c = some (pick c) := by
  simp only [SelectionResult.selectionOf, List.find?_map]
  cases c <;> simp [Category.all, picks]

/-! ### One category's records -/

theorem candidatesOf_recordsOf (apps : List Application) (status : Status) (c : Category) :
    candidatesOf (recordsOf apps c) status c = candidatesOf apps status c := by
  simp only [candidatesOf, recordsOf, List.filter_filter]
  congr 1
  funext a
  by_cases own : a.category = c.code <;> simp [own]

theorem firstPassIn_recordsOf (apps : List Application) (q : QuotaConfig) (c : Category) :
    firstPassIn (recordsOf apps c) q c = firstPassIn apps q c := by
  simp only [firstPassIn, candidatesOf_recordsOf]

theorem secondPassIn_recordsOf (apps : List Application) (q : QuotaConfig) (c : Category) :
    secondPassIn (recordsOf apps c) q c = secondPassIn apps q c := by
  simp only [secondPassIn, candidatesOf_recordsOf]

theorem firstRoundGap_recordsOf {apps : List Application} (clean : firstRoundGap apps = none)
    (c : Category) : firstRoundGap (recordsOf apps c) = none := by
  simp only [firstRoundGap, List.findSome?_eq_none_iff] at clean ⊢
  intro a member
  exact clean a (List.mem_filter.mp member).1

theorem secondRoundGap_recordsOf {apps : List Application} (clean : secondRoundGap apps = none)
    (c : Category) : secondRoundGap (recordsOf apps c) = none := by
  simp only [secondRoundGap, List.findSome?_eq_none_iff] at clean ⊢
  intro a member
  exact clean a (List.mem_filter.mp member).1

/-! ### What a category reads of the policy -/

section Policy

variable {q q' : QuotaConfig} {c : Category}

/-- The first round reads of the policy the category's target and cap, and those only
its seat count and the values of the multiplier and the rate. -/
theorem firstPassIn_congr (sameSeats : q.seatsOf c = q'.seatsOf c)
    (sameMultiplier : q.multiplier.value = q'.multiplier.value)
    (sameRate : q.otherRegionRate.value = q'.otherRegionRate.value) (apps : List Application) :
    firstPassIn apps q c = firstPassIn apps q' c := by
  have target : q.firstRoundTarget c = q'.firstRoundTarget c := by
    rw [QuotaConfig.firstRoundTarget_eq, QuotaConfig.firstRoundTarget_eq, sameSeats, sameMultiplier]
  have cap (t : Int) : q.regionalCap t = q'.regionalCap t := by
    rw [QuotaConfig.regionalCap_eq, QuotaConfig.regionalCap_eq, sameRate]
  simp only [firstPassIn, target, cap]

/-- The final round reads of the policy the category's seat count and the rate's value. -/
theorem secondPassIn_congr (sameSeats : q.seatsOf c = q'.seatsOf c)
    (sameRate : q.otherRegionRate.value = q'.otherRegionRate.value) (apps : List Application) :
    secondPassIn apps q c = secondPassIn apps q' c := by
  have cap (t : Int) : q.regionalCap t = q'.regionalCap t := by
    rw [QuotaConfig.regionalCap_eq, QuotaConfig.regionalCap_eq, sameRate]
  simp only [secondPassIn, sameSeats, cap]

end Policy

/-! ### Whole selections -/

section Passes

variable {apps : List Application} {q : QuotaConfig} {r : SelectionResult}

theorem firstRoundGap_of_ok (ok : firstPass apps q = .ok r) : firstRoundGap apps = none := by
  unfold firstPass at ok
  split at ok
  · cases ok
  · assumption

theorem secondRoundGap_of_ok (ok : secondPass apps q = .ok r) : secondRoundGap apps = none := by
  unfold secondPass at ok
  split at ok
  · cases ok
  · assumption

/-- A first-round selection that goes through lists for each category the selection made
from that category's records alone, and the whole selection over those records alone
goes through and lists the same. -/
theorem firstPass_selectionOf (ok : firstPass apps q = .ok r) (c : Category) :
    r.selectionOf c = some (firstPassIn (recordsOf apps c) q c) ∧
      ∃ r₀, firstPass (recordsOf apps c) q = .ok r₀ ∧ r₀.selectionOf c = r.selectionOf c := by
  have listed : r.selectionOf c = some (firstPassIn apps q c) := by
    rw [firstPass_ok ok, selectionOf_map_all _ (firstPassIn_category apps q)]
  have alone : firstPass (recordsOf apps c) q = .ok ⟨Category.all.map (firstPassIn (recordsOf apps c) q)⟩ := by
    rw [firstPass, firstRoundGap_recordsOf (firstRoundGap_of_ok ok)]
  refine ⟨by rw [listed, firstPassIn_recordsOf], _, alone, ?_⟩
  rw [listed, selectionOf_map_all _ (firstPassIn_category _ q), firstPassIn_recordsOf]

theorem secondPass_selectionOf (ok : secondPass apps q = .ok r) (c : Category) :
    r.selectionOf c = some (secondPassIn (recordsOf apps c) q c) ∧
      ∃ r₀, secondPass (recordsOf apps c) q = .ok r₀ ∧ r₀.selectionOf c = r.selectionOf c := by
  have listed : r.selectionOf c = some (secondPassIn apps q c) := by
    rw [secondPass_ok ok, selectionOf_map_all _ (secondPassIn_category apps q)]
  have alone : secondPass (recordsOf apps c) q = .ok ⟨Category.all.map (secondPassIn (recordsOf apps c) q)⟩ := by
    rw [secondPass, secondRoundGap_recordsOf (secondRoundGap_of_ok ok)]
  refine ⟨by rw [listed, secondPassIn_recordsOf], _, alone, ?_⟩
  rw [listed, selectionOf_map_all _ (secondPassIn_category _ q), secondPassIn_recordsOf]

end Passes

/-- Categories never borrow seats. Take two selections whose records agree on a category
`c` and whose policies agree on `c`'s seat count and on the values of the multiplier and
the rate, however they differ in other categories' records and seats. When the first
selection goes through, what it lists for `c` is the selection made from `c`'s records
alone, which the whole selection over those records alone also lists; and when the second
goes through it lists the same for `c`. Both rounds behave so. -/
theorem categories_never_borrow {apps apps' : List Application} {q q' : QuotaConfig} {c : Category}
    (sameRecords : recordsOf apps c = recordsOf apps' c) (sameSeats : q.seatsOf c = q'.seatsOf c)
    (sameMultiplier : q.multiplier.value = q'.multiplier.value)
    (sameRate : q.otherRegionRate.value = q'.otherRegionRate.value) :
    (∀ r, firstPass apps q = .ok r →
      r.selectionOf c = some (firstPassIn (recordsOf apps c) q c) ∧
      (∃ r₀, firstPass (recordsOf apps c) q = .ok r₀ ∧ r₀.selectionOf c = r.selectionOf c) ∧
      ∀ r', firstPass apps' q' = .ok r' → r'.selectionOf c = r.selectionOf c) ∧
    (∀ r, secondPass apps q = .ok r →
      r.selectionOf c = some (secondPassIn (recordsOf apps c) q c) ∧
      (∃ r₀, secondPass (recordsOf apps c) q = .ok r₀ ∧ r₀.selectionOf c = r.selectionOf c) ∧
      ∀ r', secondPass apps' q' = .ok r' → r'.selectionOf c = r.selectionOf c) := by
  constructor
  · intro r ok
    obtain ⟨listed, alone⟩ := firstPass_selectionOf ok c
    refine ⟨listed, alone, fun r' ok' => ?_⟩
    rw [(firstPass_selectionOf ok' c).1, listed, sameRecords, firstPassIn_congr sameSeats sameMultiplier sameRate]
  · intro r ok
    obtain ⟨listed, alone⟩ := secondPass_selectionOf ok c
    refine ⟨listed, alone, fun r' ok' => ?_⟩
    rw [(secondPass_selectionOf ok' c).1, listed, sameRecords, secondPassIn_congr sameSeats sameRate]

def regularForm : Application :=
  { id := "a", category := "REGULAR", status := Status.received.code, examinationNumber := some 1001,
    score := { firstRound := some 150 } }

/-- A meister-talent applicant whose form was received and scored higher. -/
def meisterForm : Application :=
  { id := "b", category := "MEISTER_TALENT", status := Status.received.code,
    examinationNumber := some 2001, score := { firstRound := some 200 } }

def moreMeisterSeats : QuotaConfig :=
  { QuotaConfig.default with seats := setKey QuotaConfig.default.seats "MEISTER_TALENT" 10 }

theorem meister_form_leaves_regular_selection :
    ∃ r r', firstPass [regularForm] QuotaConfig.default = .ok r ∧
      firstPass [regularForm, meisterForm] moreMeisterSeats = .ok r' ∧
      r'.selectionOf .regular = r.selectionOf .regular := by
  have borrow := (@categories_never_borrow [regularForm] [regularForm, meisterForm]
    QuotaConfig.default moreMeisterSeats .regular
    (by simp [recordsOf, regularForm, meisterForm, Category.code]) (by decide +kernel) rfl rfl).1
  have clean : firstRoundGap [regularForm] = none := rfl
  have clean' : firstRoundGap [regularForm, meisterForm] = none := rfl
  have ok : firstPass [regularForm] QuotaConfig.default =
      .ok ⟨Category.all.map (firstPassIn [regularForm] QuotaConfig.default)⟩ := by
    rw [firstPass, clean]
  have ok' : firstPass [regularForm, meisterForm] moreMeisterSeats =
      .ok ⟨Category.all.map (firstPassIn [regularForm, meisterForm] moreMeisterSeats)⟩ := by
    rw [firstPass, clean']
  exact ⟨_, _, ok, ok', (borrow _ ok).2.2 _ ok'⟩

end Selection

end Admissions
