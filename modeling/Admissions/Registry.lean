import Admissions.Time.Duration
import Admissions.Json.Decode

namespace Admissions

/-- One service task of the registry. -/
structure Activity where
  id : String := ""
  displayName : String := ""
  description : String := ""
  taskType : String := ""
  inputs : List String := []
  outputs : List String := []
  errorCodes : List String := []
  timeout : String := ""
  retries : Int := 0
  deriving Repr, Inhabited

/-- The activity registry. -/
structure ActivityRegistry where
  version : String := ""
  lastUpdated : String := ""
  activities : List Activity := []
  deriving Repr, Inhabited

namespace ActivityRegistry

def find? (r : ActivityRegistry) (taskType : String) : Option Activity :=
  r.activities.find? (·.taskType == taskType)

/-- The problems of the entry at position `i`, given the task types of the entries
before it. An entry without a task type is checked for nothing more. -/
def entryLines (i : Nat) (seen : List String) (a : Activity) : List String :=
  let ref := if a.id.isEmpty then "activities[" ++ toString i ++ "]" else a.id
  let idProblem := if a.id.isEmpty then [ref ++ ": id is required"] else []
  if a.taskType.isEmpty then idProblem ++ [ref ++ ": taskType is required"]
  else
    let dup := if seen.contains a.taskType then [ref ++ ": duplicate taskType " ++ a.taskType] else []
    let timeout :=
      if a.timeout.isEmpty then []
      else match Duration.parse a.timeout with
        | .ok _ => []
        | .error _ => [ref ++ ": invalid timeout " ++ Text.quote a.timeout]
    let retries := if a.retries < 0 then [ref ++ ": retries must not be negative"] else []
    idProblem ++ dup ++ timeout ++ retries

/-- The task types seen once an entry is checked: its own is added, if it has one not
seen before. -/
def noteTaskType (seen : List String) (a : Activity) : List String :=
  if a.taskType.isEmpty || seen.contains a.taskType then seen else seen ++ [a.taskType]

/-- The problems of each entry, given the task types of the entries before it. -/
def entryProblems : Nat → List String → List Activity → List String × List String
  | _, seen, [] => ([], seen)
  | i, seen, a :: rest =>
    let (more, seen') := entryProblems (i + 1) (noteTaskType seen a) rest
    (entryLines i seen a ++ more, seen')

/-- Every problem of a registry against the task types of the workers, sorted. -/
def problems (r : ActivityRegistry) (known : List String) : List String :=
  let (entries, seen) := entryProblems 0 [] r.activities
  let unregistered := (known.filter fun t => !seen.contains t).map
    fun t => "worker " ++ t ++ " has no registry entry"
  let unworked := (seen.filter fun t => !known.contains t).map
    fun t => "taskType " ++ t ++ " has no worker"
  (entries ++ unregistered ++ unworked).mergeSort fun a b => decide (a ≤ b)

/-- The check's report, if there is any problem. -/
def validate (r : ActivityRegistry) (known : List String) : Option String :=
  match r.problems known with
  | [] => none
  | ps => some ("activity registry has " ++ toString ps.length ++ " problem(s):\n- " ++
      Text.join "\n- " ps)

open Decoder in
def activityDecoder : Decoder Activity :=
  record "Activity" "registry.Activity" [
    .of "id" (·.id) (fun s v => { s with id := v }) (string),
    .of "displayName" (·.displayName) (fun s v => { s with displayName := v }) (string),
    .of "description" (·.description) (fun s v => { s with description := v }) (string),
    .of "taskType" (·.taskType) (fun s v => { s with taskType := v }) (string),
    .of "inputs" (·.inputs) (fun s v => { s with inputs := v }) (list (string) "" "[]string"),
    .of "outputs" (·.outputs) (fun s v => { s with outputs := v }) (list (string) "" "[]string"),
    .of "errorCodes" (·.errorCodes) (fun s v => { s with errorCodes := v }) (list (string) "" "[]string"),
    .of "timeout" (·.timeout) (fun s v => { s with timeout := v }) (string),
    .of "retries" (·.retries) (fun s v => { s with retries := v }) (int 64 "int")]

open Decoder in
def decoder : Decoder ActivityRegistry :=
  record "ActivityRegistry" "registry.ActivityRegistry" [
    .of "version" (·.version) (fun s v => { s with version := v }) (string),
    .of "lastUpdated" (·.lastUpdated) (fun s v => { s with lastUpdated := v }) (string),
    .of "activities" (·.activities) (fun s v => { s with activities := v })
      (list activityDecoder {} "[]registry.Activity")]

end ActivityRegistry

end Admissions
