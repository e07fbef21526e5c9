import Admissions.Selection.Batch

namespace Admissions.Batch

/-- A real batch call: a first or second pass, or a score import. -/
inductive Job where
  | first (s : SelectionSettings)
  | second (s : SelectionSettings)
  | scores (s : SelectionSettings) (g : Grid)
  deriving Inhabited

/-- What a call's transaction answers: a pass's summary, or an import's counts of rows,
of applicants present and of applicants who did not come. -/
inductive Answer where
  | pass (summary : PassSummary)
  | counts (rows present noShow : Nat)
  deriving Inhabited

/-- How far a call has got. A one-shot pass checks its marker, takes its lease, checks
the marker again and draws a run id, runs its transaction, sets its marker and gives the
lease back; a score import takes its lease, runs its transaction and gives the lease
back. A call that stops keeps its error to the end, and gives back a lease it took. -/
inductive Stage where
  | start
  | checked
  | leased (token : String)
  | armed (token runId : String)
  | committed (token runId : String) (answer : Answer)
  | releasing (token : String) (outcome : Except Fault Answer)
  | done (outcome : Except Fault Answer)
  deriving Inhabited

namespace Job

def settings : Job → SelectionSettings
  | .first s | .second s | .scores s _ => s

def leaseKey : Job → String
  | .first _ => firstPassLease
  | .second _ => secondPassLease
  | .scores .. => scoreImportLease

/-- The marker of a one-shot pass and the code it refuses with once the marker is set;
a score import has none. -/
def marker? : Job → Option (String × String)
  | .first _ => some (firstPassMarker, "FIRST_PASS_ALREADY_SELECTED")
  | .second _ => some (secondPassMarker, "SECOND_PASS_ALREADY_SELECTED")
  | .scores .. => none

def work : Job → String → Service Answer
  | .first s, runId => do
    let summary ← commitPass runId (fun _ => 0) (markFirstRound s.quota)
    return .pass summary
  | .second s, runId => do
    let summary ← commitPass runId (·.failedIds.length) (markSecondRound s.quota)
    return .pass summary
  | .scores s g, _ => do
    let (rows, present, noShow) ← Service.onStore (StoreRun.withTx (recordScores s.quota g))
    return .counts rows present noShow

end Job

def settle {α : Type} (r : Service α) (next : α → Stage) (stop : Fault → Stage) : Service Stage := do
  match ← Service.outcome r with
  | .ok v => return next v
  | .error e => return stop e

namespace Job

/-- One step of a call: the command or transaction its stage has come to. -/
def step (j : Job) : Stage → Service Stage
  | .start =>
    match j.marker? with
    | some (marker, code) =>
      settle (checkMarker marker code) (fun _ => .checked) fun e => .done (.error e)
    | none => settle (lease j.leaseKey j.settings.leaseTime) .leased fun e => .done (.error e)
  | .checked => settle (lease j.leaseKey j.settings.leaseTime) .leased fun e => .done (.error e)
  | .leased token =>
    match j.marker? with
    | some (marker, code) =>
      settle (do checkMarker marker code; Service.freshId) (.armed token)
        fun e => .releasing token (.error e)
    | none =>
      settle (j.work "") (fun a => .releasing token (.ok a)) fun e => .releasing token (.error e)
  | .armed token runId =>
    settle (j.work runId) (.committed token runId) fun e => .releasing token (.error e)
  | .committed token runId answer => do
    if let some (marker, _) := j.marker? then
      Service.attempt (Service.setMarker marker runId)
    return .releasing token (.ok answer)
  | .releasing token outcome => do
    Service.attempt (Service.releaseLease j.leaseKey token)
    return .done outcome
  | .done outcome => return .done outcome

/-- A call's step on the backends: the stage it reaches and the backends after it. -/
def advance (j : Job) (st : Stage) (b : Backends) : Stage × Backends :=
  match (j.step st).run.run b with
  | (.ok next, b') => (next, b')
  | (.error e, b') => (.done (.error e), b')

/-- A call's step whose key command the key store carries out while its answer is lost
with a text: the key store ends as the command left it, and the call goes on as after a
command that failed with that text. -/
def advanceLost (j : Job) (st : Stage) (text : String) (b : Backends) : Stage × Backends :=
  let seen := j.advance st { b with keys := b.keys.fail text }
  (seen.1, { seen.2 with keys := (j.advance st b).2.keys })

end Job

/-- A call under way. -/
structure Call where
  job : Job
  stage : Stage
  deriving Inhabited

/-- The batch calls under way over the backends, in the order they came in. -/
structure System where
  backends : Backends
  calls : List Call := []
  deriving Inhabited

/-- What may happen next: a call comes in; a call takes its next step, or takes it while
the key store's answer to its command is lost; a dry run; time moves on, running leases
out; the key store fails or recovers; a key is lost from the key store; or a fault is
injected into the database. -/
inductive Event where
  | call (job : Job)
  | step (i : Nat)
  | stepLost (i : Nat) (text : String)
  | dryFirst (s : SelectionSettings)
  | drySecond (s : SelectionSettings)
  | elapse (nanos : Int)
  | keysFail (text : String)
  | keysRecover
  | lose (key : String)
  | dbFault (f : InjectedFault)

namespace System

/-- Moves call `i` on as `move` says, on the backends; no call, no change. -/
def moveCall (sys : System) (i : Nat) (move : Job → Stage → Backends → Stage × Backends) : System :=
  match sys.calls[i]? with
  | some c =>
    let (stage, backends) := move c.job c.stage sys.backends
    { backends, calls := sys.calls.set i { c with stage } }
  | none => sys

/-- Changes the backends only. -/
def onBackends (sys : System) (f : Backends → Backends) : System :=
  { sys with backends := f sys.backends }

def apply (sys : System) : Event → System
  | .call job => { sys with calls := sys.calls ++ [⟨job, .start⟩] }
  | .step i => sys.moveCall i Job.advance
  | .stepLost i text => sys.moveCall i fun j st b => j.advanceLost st text b
  | .dryFirst s => sys.onBackends fun b => ((firstPass s true).run.run b).2
  | .drySecond s => sys.onBackends fun b => ((secondPass s true).run.run b).2
  | .elapse nanos => sys.onBackends fun b =>
    { b with keys := b.keys.advance nanos, now := b.now.addNanos nanos }
  | .keysFail text => sys.onBackends fun b => { b with keys := b.keys.fail text }
  | .keysRecover => sys.onBackends fun b => { b with keys := b.keys.recover }
  | .lose key => sys.onBackends fun b => { b with keys := b.keys.remove key }
  | .dbFault f => sys.onBackends fun b =>
    { b with store := { b.store with faults := b.store.faults ++ [f] } }

/-- The system after a run of events, in order. -/
def runs (sys : System) (events : List Event) : System := events.foldl apply sys

end System

end Admissions.Batch
