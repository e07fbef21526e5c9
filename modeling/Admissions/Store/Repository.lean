import Admissions.Store.Basic
import Admissions.Failure
import Admissions.Status

namespace Admissions

abbrev StoreRun := ExceptT Fault (StateM ApplicationStore)

def InjectedError.fault : InjectedError → Fault
  | .badConnection => Fault.badConnection
  | .deadline => Fault.deadline
  | .connectionClosed => Fault.connectionClosed
  | .message text => Fault.plain text

namespace StoreRun

def within {α : Type} (context : String) (r : StoreRun α) : StoreRun α :=
  tryCatch r fun e => throw (e.wrap context)

def tables : StoreRun Tables := do return (← get).tables

def setTables (t : Tables) : StoreRun Unit := modify fun s => { s with tables := t }

/-- Sends a text once: a fault answers it, or it is logged under a name. -/
def send (text name : String) : StoreRun Unit := do
  let (hit, s) := (← get).fire text
  match hit with
  | some e => set (s.note "fault"); throw e.fault
  | none => set (s.note name)

def attempt (st : Statement) : StoreRun Unit := send st.sql st.kind

/-- Runs a statement, trying again while the connection is lost, at most `tries`
more times. -/
def retried : Nat → Statement → StoreRun Unit
  | 0, st => attempt st
  | n + 1, st => tryCatch (attempt st) fun e =>
    match e.cause with
    | .badConnection => retried n st
    | _ => throw e

/-- Runs a statement outside a transaction: three tries in all. -/
def outside (st : Statement) : StoreRun Unit := retried 2 st

def condition {α : Type} (name detail : String) : StoreRun α :=
  throw ⟨name ++ ": " ++ detail, .condition name⟩

/-- Creates the tables; they are there already, so only a fault shows. -/
def migrate : StoreRun Unit := within "migrate" (outside .createTables)

def hasForm (userId : String) : StoreRun Bool :=
  within "form existence check" do
    outside .formExists
    return (← tables).hasForm userId

def listingContext (statuses : List String) : String :=
  "list applications by status " ++ ",".intercalate statuses

/-- The forms in some statuses, read without locks. -/
def listByStatus (statuses : List String) : StoreRun (List Application) :=
  within (listingContext statuses) do
    outside .listByStatus
    return (← tables).inStatuses statuses

def lockByStatus (statuses : List String) : StoreRun (List Application) :=
  within (listingContext statuses) do
    attempt .lockByStatus
    return (← tables).inStatuses statuses

def recordNotification (n : NotificationRow) : StoreRun Unit :=
  within "insert notification" do
    outside .recordNotification
    match (← tables).recordNotification n with
    | some t => setTables t
    | none => throw (Fault.plain ("pq: insert or update on table \"notifications\" violates " ++
        "foreign key constraint \"notifications_application_id_fkey\""))

/-- Pairs of form id and channel that a status's message already went out on. -/
def sentNotifications (status : String) : StoreRun (List (String × String)) :=
  within "list sent notifications" do
    outside .sentNotifications
    return (← tables).sentPairs status

def lockCategory (category : String) : StoreRun Unit :=
  within ("advisory lock " ++ category) (attempt .lockCategory)

/-- The highest examination number of a category, 0 when none was issued. -/
def maxExaminationNumber (category : String) : StoreRun Int :=
  within "max examination number" do
    attempt .maxExaminationNumber
    return (← tables).maxNumber category

def duplicate (k : FormKey) : Fault :=
  ⟨"insert application: DUPLICATE_APPLICATION on " ++ k.constraint ++
    ": pq: duplicate key value violates unique constraint \"" ++ k.constraint ++ "\"",
    .condition "DUPLICATE_APPLICATION"⟩

def insert (a : Application) : StoreRun Unit := do
  within "insert application" (attempt .insertForm)
  match (← tables).insert a with
  | .ok t => setTables t
  | .error k => throw (duplicate k)

def find (id : String) : StoreRun Application := do
  within "scan application" (attempt .getForm)
  match (← tables).find? id with
  | some a => return a
  | none => condition "APPLICATION_NOT_FOUND" id

/-- The refusal of a move the statuses do not allow. -/
def badTransition {α : Type} (source target : String) : StoreRun α :=
  condition "INVALID_STATUS_TRANSITION" (source ++ " -> " ++ target)

/-- Moves the forms of some ids from one status to another; every one of them
must still be in the first. No ids, no statement. -/
def updateStatus (ids : List String) (source target : String) : StoreRun Unit := do
  if ids.isEmpty then return
  if !Status.canTransition source target then badTransition source target
  within "update status" (attempt .updateStatus)
  let (n, t) := (← tables).moveStatus ids source target
  setTables t
  if n ≠ ids.length then
    condition "STALE_STATUS" (toString n ++ " of " ++ toString ids.length ++
      " applications were in " ++ source)

/-- Sends a form back with a reason; it must still be in `source`. -/
def reject (id source reason : String) : StoreRun Unit := do
  if !Status.canTransition source "REJECTED" then badTransition source "REJECTED"
  within "reject application" (attempt .reject)
  let (n, t) := (← tables).reject id source reason
  setTables t
  if n ≠ 1 then condition "STALE_STATUS" ("application " ++ id ++ " is no longer " ++ source)

/-- Writes the second-round scores, total and status of a first-round passer. -/
def saveSecondRound (a : Application) : StoreRun Unit := do
  if a.status != "FIRST_PASSED" && !Status.canTransition "FIRST_PASSED" a.status then
    badTransition "FIRST_PASSED" a.status
  within "save second round" (attempt .saveSecondRound)
  let (n, t) := (← tables).saveSecondRound a
  setTables t
  if n ≠ 1 then condition "STALE_STATUS" ("application " ++ a.id ++ " is no longer FIRST_PASSED")

def restore : StoreRun Unit :=
  modify fun s => { s with tables := s.snapshot.getD s.tables, snapshot := none }

/-- Ends a transaction without its changes. -/
def rollback : StoreRun Unit := do
  modify fun s => s.note Statement.rollback.kind
  restore

/-- Ends a transaction keeping its changes; a commit that fails takes them back. -/
def commit : StoreRun Unit :=
  within "commit transaction" do
    tryCatch (attempt .commit) fun e => do restore; throw e
    modify fun s => { s with snapshot := none }

/-- Runs a body in one transaction: its changes stay only when it succeeds and
the commit goes through. -/
def withTx {α : Type} (body : StoreRun α) : StoreRun α := do
  within "begin transaction" (outside .begin)
  modify fun s => { s with snapshot := some s.tables }
  let r ← tryCatch (body.map Except.ok) fun e => pure (Except.error e)
  match r with
  | .error e => rollback; throw e
  | .ok v => commit; return v

end StoreRun

end Admissions
