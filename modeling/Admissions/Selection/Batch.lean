import Admissions.Backends
import Admissions.Selection
import Admissions.SecondRound
import Admissions.Sheet.Parse

namespace Admissions

/-- What the selection batches work with: the quota and how long a lease lasts. -/
structure SelectionSettings where
  quota : QuotaConfig
  /-- Lease time in nanoseconds. -/
  leaseTime : Int
  deriving Inhabited

namespace SelectionSettings

/-- The lease time of a configured number of milliseconds: five minutes when it
is not positive. -/
def leaseTimeOf (millis : Int) : Int :=
  if millis ≤ 0 then 5 * 60 * 1000000000 else millis * 1000000

end SelectionSettings

/-- What a pass did. -/
structure PassSummary where
  /-- The run id; empty for a dry run. -/
  runId : String
  dryRun : Bool
  candidates : Nat
  result : SelectionResult
  /-- The number of candidates failed outright (second pass only). -/
  failed : Nat
  completedAt : String
  deriving Inhabited

namespace PassSummary

def passed (s : PassSummary) : Nat := s.result.totalPassed

def unselected (s : PassSummary) : Int := (s.candidates : Int) - s.passed - s.failed

end PassSummary

/-- What a score import did. -/
structure ImportSummary where
  rows : Nat
  present : Nat
  noShow : Nat
  completedAt : String
  deriving Inhabited

namespace Batch

/-- The lease and marker of the first pass. -/
def firstPassLease : String := "admission:lock:first-pass"
def firstPassMarker : String := "admission:done:first-pass"

def secondPassLease : String := "admission:lock:second-pass"
def secondPassMarker : String := "admission:done:second-pass"

/-- The lease of the score import, which has no marker. -/
def scoreImportLease : String := "admission:lock:second-round-score"

def step {α : Type} (operation : String) (r : StoreRun α) : StoreRun α :=
  tryCatch r fun e => throw (Fault.ofFailure (e.ofQuery operation))

def ruling {α : Type} : Except AdmissionError α → StoreRun α
  | .ok v => pure v
  | .error e => throw (Fault.ofAdmission e)

/-- Stops when the marker says the batch finished. -/
def checkMarker (marker doneCode : String) : Service Unit := do
  match ← Service.outcome (Service.readMarker marker) with
  | .error e => throw (Fault.ofFailure (Failure.lockFailed e.text))
  | .ok (some run) =>
    throw (Fault.ofFailure (Failure.selectionAlreadyDone doneCode ("completed by run " ++ run)))
  | .ok none => pure ()

/-- Takes a lease: its token. -/
def lease (key : String) (time : Int) : Service String := do
  match ← Service.outcome (Service.acquireLease key time) with
  | .ok token => pure token
  | .error e =>
    if e.isCondition Service.leaseHeldCondition then throw (Fault.ofFailure (Failure.selectionLocked key))
    else throw (Fault.ofFailure (Failure.lockFailed e.text))

/-- Runs a body under a lease, giving the lease back afterwards whatever happened. -/
def underLease {α : Type} (key : String) (time : Int) (body : Service α) : Service α := do
  let token ← lease key time
  let r ← Service.outcome body
  Service.attempt (Service.releaseLease key token)
  Service.ofExcept r

/-- The part of a one-shot batch that runs under its lease: the marker again, a
run id, the body, and the marker set to the run id. -/
def marked {α : Type} (marker doneCode : String) (body : String → Service α) : Service α := do
  checkMarker marker doneCode
  let runId ← Service.freshId
  let v ← body runId
  Service.attempt (Service.setMarker marker runId)
  return v

/-- Runs a one-shot batch: marker, lease, marker again, a run id, the body, and
the marker set to the run id. -/
def exclusively {α : Type} (leaseKey marker doneCode : String) (time : Int)
    (body : String → Service α) : Service α := do
  checkMarker marker doneCode
  underLease leaseKey time (marked marker doneCode body)

def summarize (runId : String) (dryRun : Bool) (candidates : Nat) (result : SelectionResult)
    (failed : Nat) : Service PassSummary := do
  return { runId, dryRun, candidates, result, failed, completedAt := ← Service.stamp }

/-- A real pass under its run id: its work in one transaction, then the summary,
with the number failed outright read off the result. -/
def commitPass (runId : String) (failed : SelectionResult → Nat)
    (work : StoreRun (Nat × SelectionResult)) : Service PassSummary := do
  let (n, result) ← Service.onStore (StoreRun.withTx work)
  summarize runId false n result (failed result)

/-- The work of a real first pass inside its transaction: the received forms are
locked, selected, and the passers moved to FIRST_PASSED. -/
def markFirstRound (q : QuotaConfig) : StoreRun (Nat × SelectionResult) := do
  let records ← step "lock received applications" (StoreRun.lockByStatus ["RECEIVED"])
  let result ← ruling (Selection.firstPass records q)
  step "mark first round passers" (StoreRun.updateStatus result.passedIds "RECEIVED" "FIRST_PASSED")
  return (records.length, result)

/-- The first pass: received forms are selected against the first-round targets,
and the passers move to FIRST_PASSED. -/
def firstPass (s : SelectionSettings) (dryRun : Bool) : Service PassSummary := do
  if dryRun then
    let records ← Service.onStore (step "list received applications" (StoreRun.listByStatus ["RECEIVED"]))
    let result ← Service.onStore (ruling (Selection.firstPass records s.quota))
    summarize "" true records.length result 0
  else
    exclusively firstPassLease firstPassMarker "FIRST_PASS_ALREADY_SELECTED" s.leaseTime fun runId =>
      commitPass runId (fun _ => 0) (markFirstRound s.quota)

/-- The work of a real second pass inside its transaction: the first-round
passers are locked and selected, the passers moved to SECOND_PASSED and the
others to SECOND_FAILED. -/
def markSecondRound (q : QuotaConfig) : StoreRun (Nat × SelectionResult) := do
  let records ← step "lock first round passers" (StoreRun.lockByStatus ["FIRST_PASSED"])
  let result ← ruling (Selection.secondPass records q)
  step "mark second round passers"
    (StoreRun.updateStatus result.passedIds "FIRST_PASSED" "SECOND_PASSED")
  step "mark second round failures"
    (StoreRun.updateStatus result.failedIds "FIRST_PASSED" "SECOND_FAILED")
  return (records.length, result)

/-- The second pass: first-round passers are selected against the seats; the
passers move to SECOND_PASSED and the others to SECOND_FAILED. -/
def secondPass (s : SelectionSettings) (dryRun : Bool) : Service PassSummary := do
  if dryRun then
    let records ← Service.onStore (step "list first round passers" (StoreRun.listByStatus ["FIRST_PASSED"]))
    let result ← Service.onStore (ruling (Selection.secondPass records s.quota))
    summarize "" true records.length result result.failedIds.length
  else
    exclusively secondPassLease secondPassMarker "SECOND_PASS_ALREADY_SELECTED" s.leaseTime fun runId =>
      commitPass runId (·.failedIds.length) (markSecondRound s.quota)

/-- Saves the updated forms in turn: how many were present and how many did not come. -/
def saveAll : List Application → StoreRun (Nat × Nat)
  | [] => pure (0, 0)
  | a :: rest => do
    step "save second round score" (StoreRun.saveSecondRound a)
    let (present, noShow) ← saveAll rest
    return if a.status == "NO_SHOW" then (present, noShow + 1) else (present + 1, noShow)

/-- The work of a score import inside its transaction: the first-round passers
are locked, the sheet read against them, and every updated form saved. -/
def recordScores (q : QuotaConfig) (g : Grid) : StoreRun (Nat × Nat × Nat) := do
  let records ← step "lock first round passers" (StoreRun.lockByStatus ["FIRST_PASSED"])
  let sheetRows ← ruling (Sheet.parse g records.length q)
  let updated ← ruling (SecondRound.apply records sheetRows)
  let (present, noShow) ← saveAll updated
  return (updated.length, present, noShow)

/-- Imports a second-round score sheet over the first-round passers, under its lease. -/
def importScores (s : SelectionSettings) (g : Grid) : Service ImportSummary := do
  let (rows, present, noShow) ← underLease scoreImportLease s.leaseTime do
    Service.onStore (StoreRun.withTx (recordScores s.quota g))
  return { rows, present, noShow, completedAt := ← Service.stamp }

end Batch

end Admissions
