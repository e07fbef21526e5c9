import Admissions.Selection
import Admissions.SecondRound
import Admissions.ExamNumber
import Admissions.Score.FirstRound
import Admissions.Settings.Admission

namespace Admissions

/-- A form as it is handed in, before the desk completes it. -/
structure Submission where
  id : String := ""
  formType : String := ""
  applicant : Applicant := {}
  education : Education := {}
  grade : Grade := {}
  /-- A number the form already carries; the desk refuses such a form. -/
  preassigned : Option Int := none
  deriving Inhabited

/-- Why a step on the roster was refused. -/
inductive RosterError
  | alreadySubmitted (id : String)
  | notFound (id : String)
  | badTransition (id source target : String)
  | engine (e : AdmissionError)
  | unknownStep (name : String)

namespace RosterError

def code : RosterError → String
  | .alreadySubmitted _ => "FORM_ALREADY_SUBMITTED"
  | .notFound _ => "APPLICATION_NOT_FOUND"
  | .badTransition .. => "INVALID_STATUS_TRANSITION"
  | .engine e => e.code
  | .unknownStep _ => "UNKNOWN_OP"

def message : RosterError → String
  | .alreadySubmitted id => "id " ++ id ++ " already submitted"
  | .notFound id => "application " ++ id ++ " not found"
  | .badTransition id source target =>
    "application " ++ id ++ ": " ++ source ++ " -> " ++ target
  | .engine e => e.message
  | .unknownStep name => "unknown op " ++ name

end RosterError

/-- The forms of a season in the order they were handed in. -/
structure Roster where
  rows : List Application := []
  deriving Inhabited

/-- How many rows of the sheet there were, and how many of them sat the round. -/
structure SheetTally where
  rows : Nat
  present : Nat
  noShow : Nat

/-- The rules a season runs by: the home region, the bases of the examination
numbers and the seat quota. -/
structure SeasonRules where
  homeRegion : String := ""
  bases : List (String × Int) := []
  quota : QuotaConfig := {}

/-- One step of a season. -/
inductive RosterStep
  | submit (s : Submission)
  | transition (id target : String)
  | firstPass
  | importSheet (g : Grid)
  | secondPass
  /-- A step of a kind the roster does not know. -/
  | unknown (name : String)

/-- What a step that went through answers. -/
inductive RosterOutcome
  | accepted (a : Application)
  | moved (status : String)
  /-- A selection, with the number of forms it chose among. -/
  | selected (r : SelectionResult) (candidates : Nat)
  | imported (t : SheetTally)

namespace Roster

def find? (r : Roster) (id : String) : Option Application := r.rows.find? (·.id == id)

/-- The highest examination number issued in a category, 0 when none is. -/
def highestNumber (r : Roster) (category : String) : Int :=
  (r.rows.filter (·.category == category)).foldl (fun m a => max m a.examNo) 0

def withStatus (r : Roster) (s : Status) : List Application :=
  r.rows.filter (·.status == s.code)

/-- Puts each updated form in the place of the form with its id. -/
def replace (r : Roster) (updated : List Application) : Roster :=
  ⟨r.rows.map fun a => (updated.find? (·.id == a.id)).getD a⟩

def mark (r : Roster) (ids : List String) (s : Status) : Roster :=
  ⟨r.rows.map fun a => if ids.contains a.id then { a with status := s.code } else a⟩

/-- The form a submission becomes: its category from its form type, its region
from the school's location, scored for the first round. -/
def complete (homeRegion : String) (s : Submission) : Application :=
  let a : Application := {
    id := s.id, formType := s.formType,
    category := ((FormType.ofCode? s.formType).map (·.category.code)).getD "",
    applicant := s.applicant, education := s.education, grade := s.grade,
    otherRegion := AdmissionSettings.isOtherRegion homeRegion s.education.schoolLocation,
    status := Status.submitted.code, examinationNumber := s.preassigned }
  { a with score := Score.firstRound a }

/-- Accepts a form: it is completed, numbered after the highest number of its
category, and added at the end. -/
def submit (r : Roster) (homeRegion : String) (bases : List (String × Int)) (s : Submission) :
    Except RosterError (Application × Roster) :=
  if (r.find? s.id).isSome then .error (.alreadySubmitted s.id)
  else
    let a := complete homeRegion s
    match ExamNumber.assign bases a (r.highestNumber a.category) with
    | .error e => .error (.engine e)
    | .ok n =>
      let a := { a with examinationNumber := some n }
      .ok (a, ⟨r.rows ++ [a]⟩)

/-- Moves a form to another status, if that move is allowed. -/
def transition (r : Roster) (id target : String) : Except RosterError Roster :=
  match r.find? id with
  | none => .error (.notFound id)
  | some a =>
    if Status.canTransition a.status target then
      .ok ⟨r.rows.map fun b => if b.id == id then { b with status := target } else b⟩
    else .error (.badTransition id a.status target)

/-- The first-round selection over the received forms; the passers move on and
the rest stay received. -/
def firstPass (r : Roster) (q : QuotaConfig) : Except RosterError (SelectionResult × Roster) :=
  match Selection.firstPass (r.withStatus .received) q with
  | .error e => .error (.engine e)
  | .ok res => .ok (res, r.mark res.passedIds .firstPassed)

/-- Reads a score sheet against the first-round passers and records their
second-round scores, or their absence. -/
def importSheet (r : Roster) (q : QuotaConfig) (g : Grid) : Except RosterError (SheetTally × Roster) :=
  let passers := r.withStatus .firstPassed
  match Sheet.parse g passers.length q with
  | .error e => .error (.engine e)
  | .ok rows =>
    match SecondRound.apply passers rows with
    | .error e => .error (.engine e)
    | .ok updated =>
      let present := (rows.filter (·.present)).length
      .ok (⟨rows.length, present, rows.length - present⟩, r.replace updated)

/-- The final selection over the first-round passers: each is marked passed or
failed. -/
def secondPass (r : Roster) (q : QuotaConfig) : Except RosterError (SelectionResult × Roster) :=
  match Selection.secondPass (r.withStatus .firstPassed) q with
  | .error e => .error (.engine e)
  | .ok res => .ok (res, (r.mark res.passedIds .secondPassed).mark res.failedIds .secondFailed)

def step (rules : SeasonRules) (r : Roster) : RosterStep → Except RosterError (RosterOutcome × Roster)
  | .submit s => (r.submit rules.homeRegion rules.bases s).map fun (a, r) => (.accepted a, r)
  | .transition id target => (r.transition id target).map fun r => (.moved target, r)
  | .firstPass =>
    (r.firstPass rules.quota).map fun (res, r') => (.selected res (r.withStatus .received).length, r')
  | .importSheet g => (r.importSheet rules.quota g).map fun (t, r) => (.imported t, r)
  | .secondPass =>
    (r.secondPass rules.quota).map fun (res, r') => (.selected res (r.withStatus .firstPassed).length, r')
  | .unknown name => .error (.unknownStep name)

/-- Runs the steps in order from an empty roster. Each step answers its outcome or
refusal together with the roster after it. -/
def season (rules : SeasonRules) (steps : List RosterStep) :
    List (Except RosterError RosterOutcome × Roster) :=
  (steps.foldl (fun (acc : List (Except RosterError RosterOutcome × Roster) × Roster) s =>
      match step rules acc.2 s with
      | .ok (o, r) => ((.ok o, r) :: acc.1, r)
      | .error e => ((.error e, acc.2) :: acc.1, acc.2))
    ([], {})).1.reverse

end Roster

end Admissions
