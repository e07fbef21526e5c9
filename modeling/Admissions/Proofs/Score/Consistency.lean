import Admissions.Proofs.Selection.ScoreSheet

namespace Admissions

/-- A total: a first-round score plus the interview and NCS scores, and plus the
coding-test score when one was recorded. -/
def ScoreBreakdown.totalOf (first interview ncs : Decimal) : Option Decimal → Decimal
  | some coding => first + interview + ncs + coding
  | none => first + interview + ncs

/-- The scores of a form of a category agree with their parts. -/
structure ScoreBreakdown.Agrees (s : ScoreBreakdown) (category : String) : Prop where
  firstRound : s.firstRound = some (s.subjectGrade + s.attendance + s.volunteer + s.bonus)
  total : ∀ t, s.total = some t → ∃ first interview ncs, s.firstRound = some first ∧
    s.depthInterview = some interview ∧ s.ncs = some ncs ∧
    t = ScoreBreakdown.totalOf first interview ncs s.codingTest
  coding : s.codingTest.isSome → category = Category.meisterTalent.code

namespace Score

/-- Scoring the first round carries the second-round scores and the total over. -/
theorem firstRound_carries (a : Application) :
    (firstRound a).depthInterview = a.score.depthInterview ∧ (firstRound a).ncs = a.score.ncs ∧
      (firstRound a).codingTest = a.score.codingTest ∧ (firstRound a).total = a.score.total :=
  ⟨rfl, rfl, rfl, rfl⟩

/-- A form with neither a total nor a coding-test score is scored for the first round
into scores that agree. -/
theorem firstRound_agrees {a : Application} (untotalled : a.score.total = none)
    (uncoded : a.score.codingTest = none) : (firstRound a).Agrees a.category where
  firstRound := rfl
  total t totalled := by
    rw [(firstRound_carries a).2.2.2, untotalled] at totalled
    cases totalled
  coding coded := by
    rw [(firstRound_carries a).2.2.1, uncoded] at coded
    cases coded

theorem secondRound_coding {a : Application} {input : SecondRoundInput}
    (coded : (secondRound a input).codingTest.isSome) : a.category = Category.meisterTalent.code := by
  simp only [secondRound] at coded
  -- a coding-test score is kept only in a category the service knows and that sits the test
  split at coded
  · rename_i c t known _
    split at coded
    · rename_i sits
      rw [← Category.code_of_ofCode? known, (Category.usesCodingTest_iff c).mp sits]
    · cases coded
  · cases coded

theorem secondRound_total (a : Application) (input : SecondRoundInput) :
    (secondRound a input).total = some (ScoreBreakdown.totalOf (ScoreBreakdown.firstRoundOf a.score)
      input.depthInterview input.ncs (secondRound a input).codingTest) := by
  simp only [secondRound]
  split
  next _ _ coded => rw [coded]; rfl
  next _ uncoded => rw [uncoded]; rfl

/-- Scoring the second round gives scores that agree, whatever the form carried. -/
theorem secondRound_agrees (a : Application) (input : SecondRoundInput) :
    (secondRound a input).Agrees a.category where
  firstRound := rfl
  total t totalled := by
    refine ⟨_, _, _, rfl, rfl, rfl, ?_⟩
    rw [secondRound_total] at totalled
    exact (Option.some.inj totalled).symm
  coding := secondRound_coding

end Score

namespace SecondRound

theorem update_agrees {a : Application} (r : ScoreSheetRow) (agrees : a.score.Agrees a.category) :
    (update a r).score.Agrees (update a r).category := by
  rw [update_category]
  cases present : r.present with
  | false =>
    rw [(update_of_absent a present).2]
    exact agrees
  | true =>
    rw [(update_of_present a present).2]
    exact Score.secondRound_agrees a r.input

/-- A score sheet applied to forms whose scores agree gives forms whose scores agree. -/
theorem apply_agrees {records updated : List Application} {rows : List ScoreSheetRow}
    (agree : ∀ a ∈ records, a.score.Agrees a.category) (ok : apply records rows = .ok updated) :
    ∀ u ∈ updated, u.score.Agrees u.category := by
  intro u member
  obtain ⟨-, -, paired⟩ := apply_mem ok
  obtain ⟨r, -, h, held, -, -, rfl⟩ := paired u member
  exact update_agrees r (agree h held)

end SecondRound

namespace Roster

/-- Every form of the roster has scores that agree with their parts. -/
def ScoresAgree (r : Roster) : Prop := ∀ a ∈ r.rows, a.score.Agrees a.category

theorem scoresAgree_empty : ScoresAgree {} := fun _ member => absurd member List.not_mem_nil

/-- Changing forms by a change that keeps their scores and categories keeps them
agreeing. -/
theorem ScoresAgree.map {r : Roster} (agree : r.ScoresAgree) {f : Application → Application}
    (keeps : ∀ a, (f a).score = a.score ∧ (f a).category = a.category) : ScoresAgree ⟨r.rows.map f⟩ := by
  intro b member
  obtain ⟨a, held, rfl⟩ := List.mem_map.mp member
  rw [(keeps a).1, (keeps a).2]
  exact agree a held

theorem ScoresAgree.mark {r : Roster} (agree : r.ScoresAgree) (ids : List String) (s : Status) :
    (r.mark ids s).ScoresAgree :=
  agree.map fun a => by
    split <;> exact ⟨rfl, rfl⟩

theorem ScoresAgree.transition {r r' : Roster} {id target : String} (agree : r.ScoresAgree)
    (moved : r.transition id target = .ok r') : r'.ScoresAgree := by
  unfold Roster.transition at moved
  split at moved
  · cases moved
  · split at moved
    · cases moved
      exact agree.map fun b => by
        split <;> exact ⟨rfl, rfl⟩
    · cases moved

/-- Putting forms whose scores agree in the places of the forms with their ids keeps
the roster's scores agreeing. -/
theorem ScoresAgree.replace {r : Roster} (agree : r.ScoresAgree) {updated : List Application}
    (fresh : ∀ u ∈ updated, u.score.Agrees u.category) : (r.replace updated).ScoresAgree := by
  intro b member
  obtain ⟨a, held, rfl⟩ := List.mem_map.mp member
  cases found : updated.find? (·.id == a.id) with
  | none => exact agree a held
  | some u => exact fresh u (List.mem_of_find?_eq_some found)

theorem ScoresAgree.importSheet {r r' : Roster} {q : QuotaConfig} {g : Grid} {t : SheetTally}
    (agree : r.ScoresAgree) (imported : r.importSheet q g = .ok (t, r')) : r'.ScoresAgree := by
  unfold Roster.importSheet at imported
  dsimp only at imported
  split at imported
  · cases imported
  · split at imported
    · cases imported
    · rename_i updated applied
      cases imported
      exact agree.replace
        (SecondRound.apply_agrees (fun a passer => agree a (List.mem_of_mem_filter passer)) applied)

theorem submit_accepts {r r' : Roster} {homeRegion : String} {bases : List (String × Int)}
    {s : Submission} {a : Application} (ok : r.submit homeRegion bases s = .ok (a, r')) :
    r'.rows = r.rows ++ [a] ∧ a.score = (complete homeRegion s).score ∧
      a.category = (complete homeRegion s).category := by
  unfold submit at ok
  split at ok
  · cases ok
  · dsimp only at ok
    split at ok
    · cases ok
    · cases ok
      exact ⟨rfl, rfl, rfl⟩

theorem ScoresAgree.submit {r r' : Roster} {homeRegion : String} {bases : List (String × Int)}
    {s : Submission} {a : Application} (agree : r.ScoresAgree) (ok : r.submit homeRegion bases s = .ok (a, r')) :
    r'.ScoresAgree := by
  obtain ⟨appended, scored, categorized⟩ := submit_accepts ok
  intro b member
  rw [appended, List.mem_append, List.mem_singleton] at member
  rcases member with old | rfl
  · exact agree b old
  · -- the completed form is scored for the first round from no scores at all
    rw [scored, categorized]
    exact Score.firstRound_agrees rfl rfl

theorem ScoresAgree.step {rules : SeasonRules} {r r' : Roster} {st : RosterStep} {o : RosterOutcome}
    (agree : r.ScoresAgree) (ran : Roster.step rules r st = .ok (o, r')) : r'.ScoresAgree := by
  cases st with
  | submit s =>
    obtain ⟨⟨a, r₁⟩, submitted, answered⟩ := Except.map_eq_ok ran
    cases answered
    exact agree.submit submitted
  | transition id target =>
    obtain ⟨r₁, moved, answered⟩ := Except.map_eq_ok ran
    cases answered
    exact agree.transition moved
  | firstPass =>
    obtain ⟨⟨res, r₁⟩, selected, answered⟩ := Except.map_eq_ok ran
    cases answered
    unfold firstPass at selected
    split at selected
    · cases selected
    · cases selected
      exact agree.mark _ _
  | importSheet g =>
    obtain ⟨⟨t, r₁⟩, imported, answered⟩ := Except.map_eq_ok ran
    cases answered
    exact agree.importSheet imported
  | secondPass =>
    obtain ⟨⟨res, r₁⟩, selected, answered⟩ := Except.map_eq_ok ran
    cases answered
    unfold secondPass at selected
    split at selected
    · cases selected
    · cases selected
      exact (agree.mark _ _).mark _ _
  | unknown name => cases ran

theorem season_scoresAgree (rules : SeasonRules) (steps : List RosterStep) :
    ∀ p ∈ season rules steps, p.2.ScoresAgree :=
  season_invariant rules _ scoresAgree_empty (fun _ _ _ _ agree ran => agree.step ran) steps

end Roster

/-- Derived scores stay consistent with their parts. Scoring the first round carries
the second-round scores and the total over and, for a form without scores, gives
scores that agree; a score sheet applied to forms whose scores agree gives forms whose
scores agree; and so every form of every roster a season passes through, handed in
and then updated by any number of score sheets, has a first-round score that is the
sum of its four parts, a total, when it has one, made of its first-round, interview,
NCS and recorded coding-test scores, and a coding-test score only in the
meister-talent category. -/
theorem derived_scores_agree :
    (∀ a : Application, (Score.firstRound a).depthInterview = a.score.depthInterview ∧
      (Score.firstRound a).ncs = a.score.ncs ∧ (Score.firstRound a).codingTest = a.score.codingTest ∧
      (Score.firstRound a).total = a.score.total) ∧
    (∀ a : Application, a.score = {} → (Score.firstRound a).Agrees a.category) ∧
    (∀ (records updated : List Application) (rows : List ScoreSheetRow),
      (∀ a ∈ records, a.score.Agrees a.category) → SecondRound.apply records rows = .ok updated →
        ∀ u ∈ updated, u.score.Agrees u.category) ∧
    ∀ (rules : SeasonRules) (steps : List RosterStep), ∀ p ∈ Roster.season rules steps,
      ∀ a ∈ p.2.rows, a.score.Agrees a.category :=
  ⟨Score.firstRound_carries,
    fun a blank => Score.firstRound_agrees (by rw [blank]) (by rw [blank]),
    fun _ _ _ agree ok => SecondRound.apply_agrees agree ok,
    Roster.season_scoresAgree⟩

/-- A meister-talent form scored from no scores and passed to the second round with
number 2001. -/
def meisterPasser : Application :=
  { category := "MEISTER_TALENT", status := "FIRST_PASSED", examinationNumber := some 2001,
    score := Score.firstRound { category := "MEISTER_TALENT" } }

/-- Its row on the sheet: present, with interview, NCS and coding-test scores. -/
def meisterRow : ScoreSheetRow :=
  { sheetRow := 1, examinationNumber := 2001, name := "m", category := "MEISTER_TALENT",
    present := true, depthInterview := some ⟨100, 0⟩, ncs := some ⟨30, 0⟩, codingTest := some ⟨50, 0⟩ }

/-- That form's scores agree, and the sheet turns it into a form whose scores agree. -/
theorem present_meister_passer_agrees :
    ({ category := "MEISTER_TALENT" } : Application).score = {} ∧
      (∀ a ∈ [meisterPasser], a.score.Agrees a.category) ∧
      SecondRound.apply [meisterPasser] [meisterRow] = .ok [SecondRound.update meisterPasser meisterRow] ∧
      (SecondRound.update meisterPasser meisterRow).score.Agrees "MEISTER_TALENT" := by
  have blank : ({ category := "MEISTER_TALENT" } : Application).score = {} := rfl
  have agree : ∀ a ∈ [meisterPasser], a.score.Agrees a.category := by
    intro a member
    rw [List.mem_singleton.mp member]
    exact derived_scores_agree.2.1 _ blank
  have paired : SecondRound.apply [meisterPasser] [meisterRow] =
      .ok [SecondRound.update meisterPasser meisterRow] :=
    SecondRound.apply_single rfl rfl rfl
  exact ⟨blank, agree, paired, derived_scores_agree.2.2.1 _ _ _ agree paired _ (List.mem_singleton_self _)⟩

end Admissions
