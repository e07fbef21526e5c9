import Admissions.Worker.Handle

namespace Admissions

/-- A job as the worker receives it. -/
structure Job where
  key : Nat
  taskType : String
  /-- Tries left. -/
  retries : Int
  /-- The variables as JSON text. -/
  vars : String
  deriving Inhabited

/-- A command about a job sent to the process engine. -/
inductive JobCommand where
  /-- The job is done, with its output. -/
  | complete (jobKey : Nat) (vars : Json)
  /-- The job failed and is tried again, this many times at most. -/
  | fail (jobKey : Nat) (retries : Nat) (errorMessage : String) (vars : Json)
  /-- The job's failure is raised in the process. -/
  | raise (jobKey : Nat) (errorCode errorMessage : String) (vars : Json)
  deriving Inhabited

namespace JobCommand

def ofFailure (job : Job) (f : Failure) : JobCommand :=
  let vars := Json.obj f.jobVariables
  match JobVerdict.of f job.retries with
  | .retry n => .fail job.key n f.message vars
  | .raise => .raise job.key f.code f.message vars

def ofOutcome (job : Job) : Except Fault Json → JobCommand
  | .ok output => .complete job.key output
  | .error e => ofFailure job e.normalize

end JobCommand

namespace ReadyWorker

/-- Works a job: the command that ends it. -/
def work (rw : ReadyWorker) (job : Job) : Service JobCommand := do
  return JobCommand.ofOutcome job (← Service.outcome (rw.handle job.vars))

end ReadyWorker

end Admissions
