import Admissions.Proofs.Selection.Rank
import Admissions.Proofs.Roster.Numbering

namespace Admissions

theorem Category.mem_all (c : Category) : c ∈ Category.all := by
  cases c <;> decide

theorem Status.noShow_ne_firstPassed : Status.noShow.code ≠ Status.firstPassed.code := by
  decide

theorem Category.usesCodingTest_iff (c : Category) : c.usesCodingTest = true ↔ c = .meisterTalent := by
  cases c <;> decide

/-- A text names a category with a coding test exactly when it is the meister-talent
code. -/
theorem Category.usesCodingTestOf_iff (s : String) :
    Category.usesCodingTestOf s = true ↔ s = Category.meisterTalent.code := by
  constructor
  · intro uses
    cases found : Category.ofCode? s with
    | none => simp [Category.usesCodingTestOf, found] at uses
    | some c =>
      simp only [Category.usesCodingTestOf, found, Option.any_some] at uses
      rw [(Category.usesCodingTest_iff c).mp uses] at found
      exact (Category.code_of_ofCode? found).symm
  · rintro rfl
    decide

namespace SecondRound

/-- Records the pairing accepts are first-round passers. -/
theorem recordFault_go_passers {seen : List Int} {records : List Application}
    (clean : recordFault.go seen records = none) : ∀ a ∈ records, a.status = Status.firstPassed.code := by
  induction records generalizing seen with
  | nil => simp
  | cons a rest ih =>
    simp only [recordFault.go] at clean
    split at clean
    · cases clean
    · rename_i passed
      split at clean
      · cases clean
      · split at clean
        · cases clean
        · intro b member
          rcases List.mem_cons.mp member with rfl | later
          · exact not_not.mp passed
          · exact ih clean b later

/-- Rows the pairing accepts carry distinct numbers none of which was seen before, and
each names the number of a passer of its category. -/
theorem rowFault_go_clean {records : List Application} {seen : List Int} {rows : List ScoreSheetRow}
    (clean : rowFault.go records seen rows = none) :
    (rows.map (·.examinationNumber)).Nodup ∧ (∀ r ∈ rows, r.examinationNumber ∉ seen) ∧
      ∀ r ∈ rows, ∃ h ∈ records, holder? records r.examinationNumber = some h ∧ r.category = h.category := by
  induction rows generalizing seen with
  | nil => simp
  | cons row rest ih =>
    simp only [rowFault.go] at clean
    split at clean
    · cases clean
    · rename_i fresh
      split at clean
      · cases clean
      · rename_i h held
        split at clean
        · cases clean
        · rename_i sameCategory
          obtain ⟨distinct, unseen, paired⟩ := ih clean
          refine ⟨List.nodup_cons.mpr ⟨fun listed => ?_, distinct⟩, ?_, ?_⟩
          · obtain ⟨r, later, same⟩ := List.mem_map.mp listed
            exact unseen r later (same ▸ List.mem_cons_self)
          · intro r member
            rcases List.mem_cons.mp member with rfl | later
            · simpa using fresh
            · exact fun seenBefore => unseen r later (List.mem_cons_of_mem _ seenBefore)
          · intro r member
            rcases List.mem_cons.mp member with rfl | later
            · exact ⟨h, List.mem_of_find?_eq_some held, held, not_not.mp sameCategory⟩
            · exact paired r later

theorem holder?_examNo {records : List Application} {n : Int} {h : Application}
    (held : holder? records n = some h) : h.examNo = n := by
  simpa using List.find?_some held

/-- A pairing that goes through was given first-round passers and rows of distinct
numbers, and answers for each of its forms a passer updated by the row naming the
passer's number and category. -/
theorem apply_mem {records updated : List Application} {rows : List ScoreSheetRow}
    (ok : apply records rows = .ok updated) :
    (∀ a ∈ records, a.status = Status.firstPassed.code) ∧ (rows.map (·.examinationNumber)).Nodup ∧
      ∀ u ∈ updated, ∃ r ∈ rows, ∃ h ∈ records, h.examNo = r.examinationNumber ∧
        r.category = h.category ∧ u = update h r := by
  unfold apply at ok
  split at ok
  · cases ok
  · rename_i recordsClean
    split at ok
    · cases ok
    · rename_i rowsClean
      obtain ⟨distinct, -, paired⟩ := rowFault_go_clean rowsClean
      dsimp only at ok
      split at ok
      · cases ok
      · cases ok
        refine ⟨recordFault_go_passers recordsClean, distinct, ?_⟩
        intro u member
        rw [List.mem_mergeSort, List.mem_filterMap] at member
        obtain ⟨r, listed, found⟩ := member
        obtain ⟨h, held, rfl⟩ := Option.map_eq_some_iff.mp found
        obtain ⟨h', _, held', sameCategory⟩ := paired r listed
        rw [held] at held'
        cases held'
        exact ⟨r, listed, h, List.mem_of_find?_eq_some held, holder?_examNo held, sameCategory, rfl⟩

@[simp] theorem update_id (a : Application) (r : ScoreSheetRow) : (update a r).id = a.id := by
  unfold update
  split <;> rfl

@[simp] theorem update_category (a : Application) (r : ScoreSheetRow) :
    (update a r).category = a.category := by
  unfold update
  split <;> rfl

theorem update_of_absent (a : Application) {r : ScoreSheetRow} (absent : r.present = false) :
    (update a r).status = Status.noShow.code ∧ (update a r).score = a.score := by
  simp [update, absent, Application.copy]

theorem update_of_present (a : Application) {r : ScoreSheetRow} (present : r.present = true) :
    (update a r).status = a.status ∧ (update a r).score = Score.secondRound a r.input := by
  simp [update, present, Application.copy, Score.secondRound]

end SecondRound

namespace Selection

/-- The walk admits only the candidates it is given. -/
theorem walk_passed_mem {target cap : Int} {t : Tally} {l : List Application} {id : String}
    (member : id ∈ (walk target cap t l).passed) : id ∈ t.passed ∨ ∃ a ∈ l, a.id = id := by
  induction l generalizing t with
  | nil => exact .inl member
  | cons a rest ih =>
    -- an admission adds `a` itself; a deferral or the end of the walk adds nobody
    have admitted (t' : Tally) (grown : t'.passed = t.passed ++ [a.id])
        (later : id ∈ (walk target cap t' rest).passed) : id ∈ t.passed ∨ ∃ b ∈ a :: rest, b.id = id := by
      rcases ih later with old | ⟨b, kept, named⟩
      · rw [grown, List.mem_append, List.mem_singleton] at old
        rcases old with old | new
        · exact .inl old
        · exact .inr ⟨a, List.mem_cons_self, new.symm⟩
      · exact .inr ⟨b, List.mem_cons_of_mem a kept, named⟩
    simp only [walk] at member
    split at member
    · exact .inl member
    · split at member
      · split at member
        · rcases ih member with old | ⟨b, kept, named⟩
          · exact .inl old
          · exact .inr ⟨b, List.mem_cons_of_mem a kept, named⟩
        · exact admitted _ rfl member
      · exact admitted _ rfl member

theorem mem_candidatesOf {apps : List Application} {status : Status} {c : Category} {a : Application} :
    a ∈ candidatesOf apps status c ↔ a ∈ apps ∧ a.status = status.code ∧ a.category = c.code := by
  simp [candidatesOf]

/-- The final selection in a category decides each of its first-round passers,
passing or failing it, and nobody else. -/
theorem secondPassIn_decides (apps : List Application) (q : QuotaConfig) (c : Category) (id : String) :
    (id ∈ (secondPassIn apps q c).passed ∨ id ∈ (secondPassIn apps q c).failed) ↔
      ∃ a ∈ candidatesOf apps .firstPassed c, a.id = id := by
  have ranked (a : Application) :
      a ∈ rank totalKey (candidatesOf apps .firstPassed c) ↔ a ∈ candidatesOf apps .firstPassed c :=
    (rank_perm totalKey _).mem_iff
  simp only [secondPassIn, allocate]
  constructor
  · rintro (passed | failed)
    · rcases walk_passed_mem passed with none | ⟨a, member, named⟩
      · simp at none
      · exact ⟨a, (ranked a).mp member, named⟩
    · obtain ⟨a, kept, named⟩ := List.mem_map.mp failed
      exact ⟨a, (ranked a).mp (List.mem_filter.mp kept).1, named⟩
  · rintro ⟨a, member, rfl⟩
    by_cases passed : (walk (q.seatsOf c) (q.regionalCap (q.seatsOf c)) {}
        (rank totalKey (candidatesOf apps .firstPassed c))).passed.contains a.id
    · exact .inl (List.contains_iff_mem.mp passed)
    · refine .inr (List.mem_map.mpr ⟨a, List.mem_filter.mpr ⟨(ranked a).mpr member, ?_⟩, rfl⟩)
      simpa using passed

/-- When no first-round passer lacks a category or a total, the final selection goes
through for any policy and decides exactly the first-round passers of a category. -/
theorem secondPass_decides {apps : List Application} (complete : secondRoundGap apps = none)
    (q : QuotaConfig) :
    ∃ r, secondPass apps q = .ok r ∧ ∀ id, (id ∈ r.passedIds ∨ id ∈ r.failedIds) ↔
      ∃ a ∈ apps, a.status = Status.firstPassed.code ∧ (∃ c : Category, a.category = c.code) ∧ a.id = id := by
  refine ⟨⟨Category.all.map (secondPassIn apps q)⟩, by simp [secondPass, complete], fun id => ?_⟩
  simp only [SelectionResult.passedIds, SelectionResult.failedIds, List.mem_flatMap, List.mem_map]
  constructor
  · rintro (⟨_, ⟨c, -, rfl⟩, member⟩ | ⟨_, ⟨c, -, rfl⟩, member⟩)
    · obtain ⟨a, candidate, named⟩ := (secondPassIn_decides apps q c id).mp (.inl member)
      obtain ⟨kept, passer, coded⟩ := mem_candidatesOf.mp candidate
      exact ⟨a, kept, passer, ⟨c, coded⟩, named⟩
    · obtain ⟨a, candidate, named⟩ := (secondPassIn_decides apps q c id).mp (.inr member)
      obtain ⟨kept, passer, coded⟩ := mem_candidatesOf.mp candidate
      exact ⟨a, kept, passer, ⟨c, coded⟩, named⟩
  · rintro ⟨a, kept, passer, ⟨c, coded⟩, named⟩
    rcases (secondPassIn_decides apps q c id).mpr ⟨a, mem_candidatesOf.mpr ⟨kept, passer, coded⟩, named⟩
      with passed | failed
    · exact .inl ⟨_, ⟨c, Category.mem_all c, rfl⟩, passed⟩
    · exact .inr ⟨_, ⟨c, Category.mem_all c, rfl⟩, failed⟩

end Selection

namespace Sheet

/-- A row whose cells all have their kinds and whose category cell names a category
knows that category. -/
theorem typeFaults_category {g : Grid} {r : Nat} (clean : (typeFaults g r).1 = []) :
    ∃ c, (typeFaults g r).2 = some c := by
  unfold typeFaults at clean ⊢
  cases cell : g.cell r categoryColumn with
  | text label =>
    cases parsed : Category.parse (Text.trimSpace label) with
    | ok c => simp [parsed]
    | error e => simp [cell, parsed] at clean
  | _ => simp [cell, expectKind, Cell.kind] at clean

/-- A row read without faults is of the category its cell names, and records a
coding-test score exactly when the applicant was present, sits the test and the
policy bounds it. -/
theorem parseRow_ok {g : Grid} {q : QuotaConfig} {i : Nat} {row : ScoreSheetRow}
    (ok : parseRow g q i = .ok row) :
    ∃ c : Category, row.category = c.code ∧
      (row.codingTest.isSome = true ↔
        row.present = true ∧ c.usesCodingTest = true ∧ (q.rangesFor c).codingTest.isSome = true) := by
  unfold parseRow at ok
  rcases faults : typeFaults g i with ⟨found, category⟩
  rw [faults] at ok
  dsimp only at ok
  split at ok
  · cases ok
  · rename_i clean
    obtain ⟨c, named⟩ := typeFaults_category (g := g) (r := i) (by rw [faults]; simpa using clean)
    rw [faults] at named
    cases named
    simp only [Option.map_some, Option.getD_some] at ok
    refine ⟨c, ?_⟩
    split at ok
    · rename_i absent
      cases ok
      simp only [Bool.not_eq_true'] at absent
      simp [absent]
    · rename_i present
      simp only [Bool.not_eq_true', Bool.not_eq_false] at present
      -- the coding-test score is kept only under a bound, for a category that sits it
      split at ok
      · rename_i bound bounded
        split at ok
        · rename_i sits
          split at ok
          · cases ok
            simp [present, sits, bounded]
          · cases ok
        · rename_i skips
          split at ok
          · cases ok
            simp [skips]
          · cases ok
      · rename_i unbounded
        split at ok
        · cases ok
          simp [unbounded]
        · cases ok

theorem readRows_mem {g : Grid} {q : QuotaConfig} {row : ScoreSheetRow}
    (member : row ∈ (readRows g q).1) : ∃ i, parseRow g q i = .ok row := by
  unfold readRows at member
  -- the fold gathers only what some row of the grid was read as
  refine List.foldlRecOn
    (motive := fun (acc : List ScoreSheetRow × List CellError) => ∀ x ∈ acc.1, ∃ i, parseRow g q i = .ok x)
    _ _ (by simp) ?_ row member
  rintro ⟨rows, faults⟩ held i -
  dsimp only
  split
  · exact held
  · split
    · rename_i x parsed
      intro y member
      rcases List.mem_append.mp member with old | new
      · exact held y old
      · exact ⟨i, (List.mem_singleton.mp new) ▸ parsed⟩
    · exact held

/-- Every row of a sheet that is read names a category the service knows, and records
a coding-test score exactly when the applicant was present, sits the test and the
policy bounds it. -/
theorem parse_rows {g : Grid} {n : Int} {q : QuotaConfig} {rows : List ScoreSheetRow}
    (ok : parse g n q = .ok rows) :
    ∀ r ∈ rows, ∃ c : Category, r.category = c.code ∧
      (r.codingTest.isSome = true ↔
        r.present = true ∧ c.usesCodingTest = true ∧ (q.rangesFor c).codingTest.isSome = true) := by
  unfold parse at ok
  dsimp only at ok
  split at ok
  · cases ok
  · split at ok
    · cases ok
    · cases ok
      intro r member
      obtain ⟨i, parsed⟩ := readRows_mem (List.mem_mergeSort.mp member)
      exact parseRow_ok parsed

/-- A sheet whose only data row is read without faults holds that one row. -/
theorem parse_of_single_row {g : Grid} {q : QuotaConfig} {row : ScoreSheetRow}
    (read : readRows g q = ([row], [])) : parse g 1 q = .ok [row] := by
  simp [parse, read]

end Sheet

namespace SecondRound

/-- One numbered first-round passer and one row naming its number and category pair
up into the passer updated by the row. -/
theorem apply_single {a : Application} {r : ScoreSheetRow} (passer : a.status = Status.firstPassed.code)
    (numbered : a.examinationNumber = some r.examinationNumber) (sameCategory : r.category = a.category) :
    apply [a] [r] = .ok [update a r] := by
  simp [apply, recordFault, recordFault.go, rowFault, rowFault.go, missingNumbers, holder?,
    Application.examNo, passer, numbered, sameCategory]

/-- What the score sheet made of the first-round passer `a` as the record `u`: absent,
a no-show keeping the scores it had; present, still a first-round passer of a category
the service knows, whose first-round score is the sum of its four parts and whose
total adds its interview, NCS and recorded coding-test scores to that sum. A
coding-test score is recorded exactly for a meister-talent applicant whose category the
policy bounds that test for. -/
def Outcome (q : QuotaConfig) (a u : Application) : Prop :=
  u.id = a.id ∧ u.category = a.category ∧
    ((u.status = Status.noShow.code ∧ u.score = a.score) ∨
      (u.status = Status.firstPassed.code ∧ ∃ c : Category, u.category = c.code ∧
        ∃ di ncs, u.score.firstRound = some (Score.ScoreBreakdown.firstRoundOf a.score) ∧
          u.score.depthInterview = some di ∧ u.score.ncs = some ncs ∧
          u.score.total = some (match u.score.codingTest with
            | some t => Score.ScoreBreakdown.firstRoundOf a.score + di + ncs + t
            | none => Score.ScoreBreakdown.firstRoundOf a.score + di + ncs) ∧
          (u.score.codingTest.isSome = true ↔
            c = .meisterTalent ∧ (q.rangesFor c).codingTest.isSome = true)))

/-- A present row turns its passer into a first-round passer scored as `Outcome` says. -/
theorem outcome_of_present (q : QuotaConfig) {h : Application} {r : ScoreSheetRow} {c : Category}
    (passer : h.status = Status.firstPassed.code) (coded : r.category = c.code)
    (sameCategory : r.category = h.category)
    (recorded : r.codingTest.isSome = true ↔
      r.present = true ∧ c.usesCodingTest = true ∧ (q.rangesFor c).codingTest.isSome = true)
    (present : r.present = true) : Outcome q h (update h r) := by
  obtain ⟨kept, scored⟩ := update_of_present h present
  have known : Category.ofCode? h.category = some c := by
    rw [← sameCategory, coded, Category.ofCode?_code]
  refine ⟨update_id h r, update_category h r, .inr ⟨kept.trans passer, c, ?_, r.input.depthInterview,
    r.input.ncs, ?_⟩⟩
  · rw [update_category, ← sameCategory, coded]
  · rw [scored]
    simp only [Score.secondRound, known]
    -- `simp only` may already have closed the total, which is the sum as written
    refine ⟨trivial, trivial, trivial, by trivial, ?_⟩
    rw [← Category.usesCodingTest_iff]
    cases sits : c.usesCodingTest <;> cases coding : r.input.codingTest <;>
      simp_all [ScoreSheetRow.input]

theorem outcome_of_absent (q : QuotaConfig) (h : Application) {r : ScoreSheetRow}
    (absent : r.present = false) : Outcome q h (update h r) :=
  let ⟨shown, kept⟩ := update_of_absent h absent
  ⟨update_id h r, update_category h r, .inl ⟨shown, kept⟩⟩

/-- A first-round passer the sheet left so still has a category and a total. -/
theorem Outcome.ready {q : QuotaConfig} {a u : Application} (outcome : Outcome q a u)
    (passer : u.status = Status.firstPassed.code) :
    (∃ c : Category, u.category = c.code) ∧ u.score.total.isSome = true := by
  obtain ⟨-, -, ⟨shown, -⟩ | ⟨-, c, coded, _, _, -, -, -, totalled, -⟩⟩ := outcome
  · exact absurd (shown.symm.trans passer) Status.noShow_ne_firstPassed
  · exact ⟨⟨c, coded⟩, by rw [totalled]; rfl⟩

/-- Every record the sheet and the pairing produce is what `Outcome` says of the
passer it came from. -/
theorem apply_outcome {g : Grid} {n : Int} {q : QuotaConfig} {records updated : List Application}
    {rows : List ScoreSheetRow} (parsed : Sheet.parse g n q = .ok rows)
    (ok : apply records rows = .ok updated) : ∀ u ∈ updated, ∃ a ∈ records, Outcome q a u := by
  obtain ⟨passers, -, paired⟩ := apply_mem ok
  intro u member
  obtain ⟨r, listed, h, held, -, sameCategory, rfl⟩ := paired u member
  obtain ⟨c, coded, recorded⟩ := Sheet.parse_rows parsed r listed
  refine ⟨h, held, ?_⟩
  cases present : r.present with
  | false => exact outcome_of_absent q h present
  | true => exact outcome_of_present q (passers h held) coded sameCategory recorded present

/-- Over passers of distinct ids, the pairing answers at most one record per id. -/
theorem apply_eq_of_id {records updated : List Application} {rows : List ScoreSheetRow}
    (distinct : (records.map (·.id)).Nodup) (ok : apply records rows = .ok updated)
    {u v : Application} (hu : u ∈ updated) (hv : v ∈ updated) (same : u.id = v.id) : u = v := by
  obtain ⟨-, distinctRows, paired⟩ := apply_mem ok
  obtain ⟨r, listed, h, held, numbered, -, rfl⟩ := paired u hu
  obtain ⟨r', listed', h', held', numbered', -, rfl⟩ := paired v hv
  simp only [update_id] at same
  -- the passers share an id, so they are one passer, and its number names one row
  obtain rfl := List.inj_on_of_nodup_map distinct held held' same
  obtain rfl := List.inj_on_of_nodup_map distinctRows listed listed' (numbered.symm.trans numbered')
  rfl

end SecondRound

namespace Selection

theorem secondRoundGap_eq_none {apps : List Application}
    (ready : ∀ a ∈ apps, a.status = Status.firstPassed.code →
      (∃ c : Category, a.category = c.code) ∧ a.score.total.isSome = true) :
    secondRoundGap apps = none := by
  rw [secondRoundGap, List.findSome?_eq_none_iff]
  intro a member
  by_cases passer : a.status = Status.firstPassed.code
  · obtain ⟨⟨c, coded⟩, totalled⟩ := ready a member passer
    simp [passer, coded, Category.ofCode?_code, Option.isSome_iff_ne_none.mp totalled]
  · simp [passer]

end Selection

/-- From a score sheet to the final selection. When a sheet is read against distinct
first-round passers and paired with them, every updated record is what `Outcome`
says: an absent passer a no-show keeping its scores, a present one a first-round
passer whose total adds the interview, NCS and recorded coding-test scores to its
first-round sum, the coding-test score recorded exactly for a meister-talent applicant
whose category the sheet's policy bounds that test for. The final selection over the
updated records then goes through under any policy, deciding exactly the present
applicants and no no-show. -/
theorem scores_feed_final_selection {g : Grid} {q : QuotaConfig} {records updated : List Application}
    {rows : List ScoreSheetRow} (distinct : (records.map (·.id)).Nodup)
    (parsed : Sheet.parse g records.length q = .ok rows)
    (paired : SecondRound.apply records rows = .ok updated) (q' : QuotaConfig) :
    (∀ u ∈ updated, ∃ a ∈ records, SecondRound.Outcome q a u) ∧
      ∃ r, Selection.secondPass updated q' = .ok r ∧
        (∀ id, (id ∈ r.passedIds ∨ id ∈ r.failedIds) ↔
          ∃ u ∈ updated, u.status = Status.firstPassed.code ∧ u.id = id) ∧
        ∀ u ∈ updated, u.status = Status.noShow.code → u.id ∉ r.passedIds ∧ u.id ∉ r.failedIds := by
  have outcomes := SecondRound.apply_outcome parsed paired
  have ready (u : Application) (member : u ∈ updated) (passer : u.status = Status.firstPassed.code) :=
    let ⟨_, _, outcome⟩ := outcomes u member
    outcome.ready passer
  obtain ⟨r, selected, decided⟩ :=
    Selection.secondPass_decides (Selection.secondRoundGap_eq_none ready) q'
  -- every passer left on the sheet has a category, so the selection decides it
  have decidedPassers (id : String) : (id ∈ r.passedIds ∨ id ∈ r.failedIds) ↔
      ∃ u ∈ updated, u.status = Status.firstPassed.code ∧ u.id = id := by
    rw [decided id]
    constructor
    · rintro ⟨u, member, passer, -, named⟩
      exact ⟨u, member, passer, named⟩
    · rintro ⟨u, member, passer, named⟩
      exact ⟨u, member, passer, (ready u member passer).1, named⟩
  refine ⟨outcomes, r, selected, decidedPassers, fun u member shown => ?_⟩
  -- a decided id belongs to a passer, which over distinct ids is `u` itself
  have undecided : ¬ (u.id ∈ r.passedIds ∨ u.id ∈ r.failedIds) := by
    rw [decidedPassers]
    rintro ⟨v, listed, passer, named⟩
    obtain rfl := SecondRound.apply_eq_of_id distinct paired listed member named
    exact Status.noShow_ne_firstPassed (shown.symm.trans passer)
  exact not_or.mp undecided

/-- A sheet on which the one regular passer, number 1001, was present is read, paired
and passed on to a final selection that decides that passer. -/
theorem present_regular_passer_decided :
    ([({ id := "a", category := "REGULAR", status := "FIRST_PASSED",
         examinationNumber := some 1001 } : Application)].map (·.id)).Nodup ∧
      Sheet.parse [[], [.number ⟨1001, 0⟩, .text "n", .text "REGULAR", .number ⟨90, 0⟩,
          .number ⟨30, 0⟩, .blank, .boolean true]] 1 QuotaConfig.default =
        .ok [{ sheetRow := 1, examinationNumber := 1001, name := "n", category := "REGULAR",
               present := true, depthInterview := some ⟨90, 0⟩, ncs := some ⟨30, 0⟩ }] ∧
      SecondRound.apply [{ id := "a", category := "REGULAR", status := "FIRST_PASSED",
                           examinationNumber := some 1001 }]
          [{ sheetRow := 1, examinationNumber := 1001, name := "n", category := "REGULAR",
             present := true, depthInterview := some ⟨90, 0⟩, ncs := some ⟨30, 0⟩ }] =
        .ok [SecondRound.update { id := "a", category := "REGULAR", status := "FIRST_PASSED",
                                  examinationNumber := some 1001 }
              { sheetRow := 1, examinationNumber := 1001, name := "n", category := "REGULAR",
                present := true, depthInterview := some ⟨90, 0⟩, ncs := some ⟨30, 0⟩ }] ∧
      ∃ r, Selection.secondPass
          [SecondRound.update { id := "a", category := "REGULAR", status := "FIRST_PASSED",
                                examinationNumber := some 1001 }
            { sheetRow := 1, examinationNumber := 1001, name := "n", category := "REGULAR",
              present := true, depthInterview := some ⟨90, 0⟩, ncs := some ⟨30, 0⟩ }]
          QuotaConfig.default = .ok r ∧ ("a" ∈ r.passedIds ∨ "a" ∈ r.failedIds) := by
  refine ⟨?distinct, ?parsed, ?paired, ?decided⟩
  case decided =>
    obtain ⟨-, r, selected, decided, -⟩ :=
      scores_feed_final_selection ?distinct ?parsed ?paired QuotaConfig.default
    exact ⟨r, selected, (decided "a").mpr ⟨_, List.mem_singleton_self _, rfl, rfl⟩⟩
  case distinct => exact List.nodup_singleton _
  case parsed => exact Sheet.parse_of_single_row rfl
  case paired => exact SecondRound.apply_single rfl rfl rfl

/-- Two departures from a total that is unset for a no-show and always counts a
meister-talent coding-test score: a passer that already had a total keeps it when
the sheet marks it absent, and under a policy that bounds no coding test the coding
score a present meister-talent applicant got on the sheet is dropped from the total. -/
theorem sheet_total_kept_or_coding_dropped :
    (SecondRound.update { id := "a", category := "REGULAR", status := "FIRST_PASSED",
                          examinationNumber := some 1001, score := { total := some ⟨320, 0⟩ } }
        { sheetRow := 1, examinationNumber := 1001, name := "n", category := "REGULAR",
          present := false }).status = Status.noShow.code ∧
      (SecondRound.update { id := "a", category := "REGULAR", status := "FIRST_PASSED",
                            examinationNumber := some 1001, score := { total := some ⟨320, 0⟩ } }
          { sheetRow := 1, examinationNumber := 1001, name := "n", category := "REGULAR",
            present := false }).score.total = some ⟨320, 0⟩ ∧
      Sheet.parse [[], [.number ⟨2001, 0⟩, .text "m", .text "MEISTER_TALENT", .number ⟨100, 0⟩,
          .number ⟨30, 0⟩, .number ⟨50, 0⟩, .boolean true]] 1 {} =
        .ok [{ sheetRow := 1, examinationNumber := 2001, name := "m", category := "MEISTER_TALENT",
               present := true, depthInterview := some ⟨100, 0⟩, ncs := some ⟨30, 0⟩ }] ∧
      (SecondRound.update { id := "m", category := "MEISTER_TALENT", status := "FIRST_PASSED",
                            examinationNumber := some 2001,
                            score := { subjectGrade := ⟨100, 0⟩, attendance := ⟨18, 0⟩,
                                       volunteer := ⟨18, 0⟩ } }
          { sheetRow := 1, examinationNumber := 2001, name := "m", category := "MEISTER_TALENT",
            present := true, depthInterview := some ⟨100, 0⟩, ncs := some ⟨30, 0⟩ }).score.total =
        some ⟨266, 0⟩ :=
  ⟨rfl, rfl, Sheet.parse_of_single_row rfl, rfl⟩

end Admissions
