import Admissions.Application
import Admissions.Quota
import Admissions.AdmissionError

namespace Admissions

/-- The outcome of selection in one category. -/
structure CategorySelection where
  category : Category
  candidates : Nat := 0
  target : Int := 0
  regionalCap : Int := 0
  admitted : Nat := 0
  otherRegionAdmitted : Nat := 0
  passed : List String := []
  deferred : List String := []
  failed : List String := []
  deriving Repr, Inhabited

/-- The outcome of a selection: one entry per category, in category order. -/
structure SelectionResult where
  categories : List CategorySelection
  deriving Repr, Inhabited

namespace SelectionResult

def passedIds (r : SelectionResult) : List String := r.categories.flatMap (·.passed)

def failedIds (r : SelectionResult) : List String := r.categories.flatMap (·.failed)

def contains (r : SelectionResult) (id : String) : Bool := r.passedIds.contains id

def totalPassed (r : SelectionResult) : Nat := (r.categories.map (·.admitted)).foldr (· + ·) 0

end SelectionResult

namespace Selection

/-- Whether `a` ranks strictly before `b` under a score. -/
def ranksBefore (score : Application → Decimal) (a b : Application) : Bool :=
  match (score a).cmp (score b) with
  | .gt => true
  | .lt => false
  | .eq =>
    if a.examNo ≠ b.examNo then a.examNo < b.examNo
    else a.id < b.id

/-- Candidates in rank order; equal keys keep their input order. -/
def rank (score : Application → Decimal) (apps : List Application) : List Application :=
  apps.mergeSort fun a b => !ranksBefore score b a

/-- The admissions made so far in a category. -/
structure Tally where
  admitted : Nat := 0
  otherRegionAdmitted : Nat := 0
  passed : List String := []
  deferred : List String := []
  deriving Repr, Inhabited

def walk (target cap : Int) : Tally → List Application → Tally
  | t, [] => t
  | t, a :: rest =>
    if (t.admitted : Int) = target then t
    else if a.otherRegion then
      if cap ≤ (t.otherRegionAdmitted : Int) then
        walk target cap { t with deferred := t.deferred ++ [a.id] } rest
      else
        walk target cap { t with
          admitted := t.admitted + 1
          otherRegionAdmitted := t.otherRegionAdmitted + 1
          passed := t.passed ++ [a.id] } rest
    else
      walk target cap { t with admitted := t.admitted + 1, passed := t.passed ++ [a.id] } rest

def allocate (c : Category) (ranked : List Application) (target cap : Int) : CategorySelection :=
  let t := walk target cap {} ranked
  { category := c, candidates := ranked.length, target := target, regionalCap := cap,
    admitted := t.admitted, otherRegionAdmitted := t.otherRegionAdmitted,
    passed := t.passed, deferred := t.deferred }

/-- The first record, in input order, that lacks what the first round needs. -/
def firstRoundGap (apps : List Application) : Option MissingData :=
  apps.findSome? fun a =>
    if a.status ≠ Status.received.code then none
    else if (Category.ofCode? a.category).isNone then some (.unknownCategory a.id a.category)
    else if a.score.firstRound.isNone then some (.noFirstRoundScore a.id)
    else if a.examinationNumber.isNone then some (.noExaminationNumber a.id)
    else none

/-- The first record, in input order, that lacks what the second round needs. -/
def secondRoundGap (apps : List Application) : Option MissingData :=
  apps.findSome? fun a =>
    if a.status ≠ Status.firstPassed.code then none
    else if (Category.ofCode? a.category).isNone then some (.unknownCategory a.id a.category)
    else if a.score.total.isNone then some (.noSecondRoundScore a.id)
    else none

def candidatesOf (apps : List Application) (status : Status) (c : Category) : List Application :=
  apps.filter fun a => a.status = status.code ∧ a.category = c.code

/-- First-round score of a record; zero when unset. -/
def firstRoundKey (a : Application) : Decimal := a.score.firstRound.getD Decimal.zero

/-- Total score of a record; zero when unset. -/
def totalKey (a : Application) : Decimal := a.score.total.getD Decimal.zero

def firstPassIn (apps : List Application) (q : QuotaConfig) (c : Category) : CategorySelection :=
  let target := q.firstRoundTarget c
  allocate c (rank firstRoundKey (candidatesOf apps .received c)) target (q.regionalCap target)

/-- Second-round selection in one category: every ranked candidate not admitted fails. -/
def secondPassIn (apps : List Application) (q : QuotaConfig) (c : Category) : CategorySelection :=
  let target := q.seatsOf c
  let ranked := rank totalKey (candidatesOf apps .firstPassed c)
  let sel := allocate c ranked target (q.regionalCap target)
  { sel with failed := (ranked.filter fun a => !sel.passed.contains a.id).map (·.id) }

/-- Selects first-round passers among received forms. -/
def firstPass (apps : List Application) (q : QuotaConfig) : Except AdmissionError SelectionResult :=
  match firstRoundGap apps with
  | some gap => .error (.missingData gap)
  | none => .ok ⟨Category.all.map (firstPassIn apps q)⟩

/-- Selects final passers among first-round passers. -/
def secondPass (apps : List Application) (q : QuotaConfig) : Except AdmissionError SelectionResult :=
  match secondRoundGap apps with
  | some gap => .error (.missingData gap)
  | none => .ok ⟨Category.all.map (secondPassIn apps q)⟩

end Selection

end Admissions
