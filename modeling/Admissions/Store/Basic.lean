import Admissions.Application
import Admissions.Decimal.Text
import Admissions.Store.Statement
import Admissions.Text.Quote

namespace Admissions

def Decimal.stored (d : Decimal) : Decimal :=
  match Decimal.ofString d.toString with
  | .ok e => e
  | .error _ => d

def ScoreBreakdown.stored (s : ScoreBreakdown) : ScoreBreakdown :=
  { subjectGrade := s.subjectGrade.stored, attendance := s.attendance.stored,
    volunteer := s.volunteer.stored, bonus := s.bonus.stored,
    depthInterview := s.depthInterview.map Decimal.stored, ncs := s.ncs.map Decimal.stored,
    codingTest := s.codingTest.map Decimal.stored, firstRound := s.firstRound.map Decimal.stored,
    total := s.total.map Decimal.stored }

/-- A form as the store keeps it. -/
structure StoredForm where
  form : Application
  /-- The reason given when the form was sent back; `none` until then. -/
  rejectionReason : Option String := none
  deriving Inhabited

/-- The outcome of one result message. -/
structure NotificationRow where
  id : String
  applicationId : String
  status : String
  channel : String
  result : String
  sentAt : String
  deriving Inhabited

/-- What a statement hit by an injected fault answers. -/
inductive InjectedError where
  /-- The driver lost its connection; such a statement outside a transaction is
  tried again. -/
  | badConnection
  /-- The deadline passed. -/
  | deadline
  /-- The connection was already closed. -/
  | connectionClosed
  /-- Any other error, with its text. -/
  | message (text : String)
  deriving Inhabited

/-- An injected fault: it hits statements whose text contains `pattern`, as long
as `remaining` is not zero; a negative `remaining` never runs out. -/
structure InjectedFault where
  pattern : String
  error : InjectedError
  remaining : Int := 1
  deriving Inhabited

/-- The tables a transaction can take back. -/
structure Tables where
  forms : List StoredForm := []
  notifications : List NotificationRow := []
  deriving Inhabited

/-- The application store: its tables, the faults waiting in it, the names of
the statements run, and the tables as a running transaction found them. -/
structure ApplicationStore where
  tables : Tables := {}
  faults : List InjectedFault := []
  /-- Statement names, latest first. -/
  log : List String := []
  snapshot : Option Tables := none
  deriving Inhabited

/-- The unique keys of the forms table. -/
inductive FormKey where
  | id
  | user
  | categoryNumber
  deriving BEq, Repr, Inhabited

namespace FormKey

def constraint : FormKey → String
  | .id => "applications_pkey"
  | .user => "applications_user_id_key"
  | .categoryNumber => "applications_category_examination_number_key"

def clashes (a b : Application) : FormKey → Bool
  | .id => a.id == b.id
  | .user => a.userId == b.userId
  | .categoryNumber =>
    a.category == b.category && match a.examinationNumber, b.examinationNumber with
      | some x, some y => x == y
      | _, _ => false

end FormKey

/-- Whether one form comes before another in a listing: by category, then by
examination number with unnumbered forms last. Sorting with it is stable, so
forms that tie stay in insertion order. -/
def Application.listsBefore (a b : Application) : Bool :=
  if a.category = b.category then
    match a.examinationNumber, b.examinationNumber with
    | some x, some y => x ≤ y
    | some _, none => true
    | none, some _ => false
    | none, none => true
  else a.category < b.category

namespace Tables

def hasForm (t : Tables) (userId : String) : Bool := t.forms.any (·.form.userId == userId)

def inStatuses (t : Tables) (statuses : List String) : List Application :=
  ((t.forms.map (·.form)).filter (fun a => statuses.contains a.status)).mergeSort
    Application.listsBefore

/-- Pairs of form id and channel that a status's message went out on. -/
def sentPairs (t : Tables) (status : String) : List (String × String) :=
  (t.notifications.filter fun n => n.status == status && n.result == "sent").map
    fun n => (n.applicationId, n.channel)

/-- The highest examination number of a category, 0 when there is none. -/
def maxNumber (t : Tables) (category : String) : Int :=
  t.forms.foldl (fun m s =>
    if s.form.category == category then
      match s.form.examinationNumber with
      | some n => max m n
      | none => m
    else m) 0

def find? (t : Tables) (id : String) : Option Application :=
  (t.forms.find? (·.form.id == id)).map (·.form)

/-- The first unique key a new form would break. -/
def clash? (t : Tables) (a : Application) : Option FormKey :=
  [FormKey.id, .user, .categoryNumber].find? fun k => t.forms.any fun s => k.clashes a s.form

/-- Adds a form as the store keeps it, or names the key it breaks. -/
def insert (t : Tables) (a : Application) : Except FormKey Tables :=
  match t.clash? a with
  | some k => .error k
  | none => .ok { t with forms := t.forms ++ [{ form := { a with score := a.score.stored } }] }

/-- Changes the forms of the given ids that are in status `from`; the number
changed and the tables after. -/
def updateWhere (t : Tables) (hit : Application → Bool) (change : StoredForm → StoredForm) :
    Nat × Tables :=
  let n := (t.forms.filter fun s => hit s.form).length
  (n, { t with forms := t.forms.map fun s => if hit s.form then change s else s })

def moveStatus (t : Tables) (ids : List String) (source target : String) : Nat × Tables :=
  t.updateWhere (fun a => ids.contains a.id && a.status == source)
    fun s => { s with form := { s.form with status := target } }

def reject (t : Tables) (id source reason : String) : Nat × Tables :=
  t.updateWhere (fun a => a.id == id && a.status == source)
    fun s => { form := { s.form with status := "REJECTED" }, rejectionReason := some reason }

/-- Writes a form's second-round scores, total and status over a form that is
still a first-round passer. -/
def saveSecondRound (t : Tables) (a : Application) : Nat × Tables :=
  let sc := a.score.stored
  let change (old : ScoreBreakdown) : ScoreBreakdown :=
    { old with depthInterview := sc.depthInterview, ncs := sc.ncs, codingTest := sc.codingTest,
               total := sc.total }
  t.updateWhere (fun b => b.id == a.id && b.status == "FIRST_PASSED")
    fun s => { s with form := { s.form with status := a.status, score := change s.form.score } }

/-- Stores the outcome of a message to an existing form; `none` when the form is
unknown. -/
def recordNotification (t : Tables) (n : NotificationRow) : Option Tables :=
  if t.forms.any (·.form.id == n.applicationId) then
    some { t with notifications := t.notifications ++ [n] }
  else none

end Tables

namespace ApplicationStore

/-- The first live fault whose pattern the text contains, with the store after
the fault is used once. -/
def fire (s : ApplicationStore) (text : String) : Option InjectedError × ApplicationStore :=
  match s.faults.findIdx? (fun f => f.remaining ≠ 0 && Text.contains text f.pattern) with
  | none => (none, s)
  | some i =>
    match s.faults[i]? with
    | none => (none, s)
    | some f =>
      let used := if f.remaining > 0 then { f with remaining := f.remaining - 1 } else f
      (some f.error, { s with faults := s.faults.set i used })

def note (s : ApplicationStore) (name : String) : ApplicationStore := { s with log := name :: s.log }

def statements (s : ApplicationStore) : List String := s.log.reverse

end ApplicationStore

end Admissions
