import Admissions.Score.FirstRound

namespace Admissions

/-- The second-round scores of one applicant. -/
structure SecondRoundInput where
  depthInterview : Decimal := Decimal.zero
  ncs : Decimal := Decimal.zero
  codingTest : Option Decimal := none
  deriving Repr, Inhabited

namespace Score

def secondRound (a : Application) (input : SecondRoundInput) : ScoreBreakdown :=
  let first := ScoreBreakdown.firstRoundOf a.score
  let base := first + input.depthInterview + input.ncs
  let coding :=
    match Category.ofCode? a.category, input.codingTest with
    | some c, some t => if c.usesCodingTest then some t else none
    | _, _ => none
  { a.score with
    firstRound := some first
    depthInterview := some input.depthInterview
    ncs := some input.ncs
    codingTest := coding
    total := some (match coding with
      | some t => base + t
      | none => base) }

end Score

end Admissions
