import Admissions.Json.Decode
import Admissions.Search.Document

namespace Admissions

/-- A command on the application store. -/
inductive StoreCommand where
  | dump
  | notifications
  /-- Inserts a form written as JSON; `none` when no form was given. -/
  | insert (form : Option Json)
  | migrate
  /-- Injects a fault: the pattern, the kind of error, its text and how many
  statements it hits. -/
  | inject (pattern kind message : String) (times : Int)
  | clearFaults
  deriving Inhabited

/-- A command on the key store. -/
inductive KeyCommand where
  | put (key value : String)
  | remove (key : String)
  | get (key : String)
  | list
  | fail (message : String)
  | recover
  | acquire (key : String)
  | marker (key : String)
  deriving Inhabited

/-- A command on the results index. -/
inductive IndexCommand where
  | dump
  | down
  | up
  | breakBulk
  | mendBulk
  | breakSearch
  | mendSearch
  deriving Inhabited

/-- One step of a scenario. -/
inductive ScenarioStep where
  /-- A job of a task type with its variables (`none` when not given) and tries left. -/
  | job (taskType : String) (vars : Option Json) (retries : Int)
  | store (c : StoreCommand)
  | keys (c : KeyCommand)
  | index (c : IndexCommand)
  | search (index : String) (q : ResultsQuery)
  | outbox
  /-- Makes the gateway fail or work again; the process engine still records
  every command. -/
  | gateway
  /-- Moves the clock by a duration written as text. -/
  | advance (duration : String)
  /-- A step of no kind this runner knows. -/
  | unknown
  deriving Inhabited

/-- A search as written in a step. -/
structure SearchFields where
  index : String := ""
  category : String := ""
  status : String := ""
  name : String := ""
  fromIndex : Int := 0
  size : Int := 0
  deriving Inhabited

/-- The members of a step as written. -/
structure StepMembers where
  job : String := ""
  vars : Option Json := none
  retries : Option Int := none
  db : String := ""
  application : Option Json := none
  pattern : String := ""
  error : String := ""
  message : String := ""
  times : Option Int := none
  redis : String := ""
  key : String := ""
  value : String := ""
  es : String := ""
  search : Option SearchFields := none
  outbox : Bool := false
  gateway : String := ""
  advance : String := ""
  deriving Inhabited

namespace StepMembers

open Decoder

def searchDecoder : Decoder SearchFields :=
  record "searchStep" "main.searchStep" [
    .of "index" (·.index) (fun s v => { s with index := v }) (string),
    .of "category" (·.category) (fun s v => { s with category := v }) (string),
    .of "status" (·.status) (fun s v => { s with status := v }) (string),
    .of "name" (·.name) (fun s v => { s with name := v }) (string),
    .of "from" (·.fromIndex) (fun s v => { s with fromIndex := v }) (int 64 "int"),
    .of "size" (·.size) (fun s v => { s with size := v }) (int 64 "int")]

/-- A member kept as it was written; `null` is kept too. -/
def raw : Decoder (Option Json) := fun _ j _ => pure (some j)

def decoder : Decoder StepMembers :=
  record "systemStep" "main.systemStep" [
    .of "job" (·.job) (fun s v => { s with job := v }) (string),
    .of "variables" (·.vars) (fun s v => { s with vars := v }) raw,
    .of "retries" (·.retries) (fun s v => { s with retries := v }) (option (int 64 "int") 0),
    .of "db" (·.db) (fun s v => { s with db := v }) (string),
    .of "application" (·.application) (fun s v => { s with application := v }) raw,
    .of "match" (·.pattern) (fun s v => { s with pattern := v }) (string),
    .of "error" (·.error) (fun s v => { s with error := v }) (string),
    .of "message" (·.message) (fun s v => { s with message := v }) (string),
    .of "times" (·.times) (fun s v => { s with times := v }) (option (int 64 "int") 0),
    .of "redis" (·.redis) (fun s v => { s with redis := v }) (string),
    .of "key" (·.key) (fun s v => { s with key := v }) (string),
    .of "value" (·.value) (fun s v => { s with value := v }) (string),
    .of "es" (·.es) (fun s v => { s with es := v }) (string),
    .of "search" (·.search) (fun s v => { s with search := v }) (option searchDecoder {}),
    .of "outbox" (·.outbox) (fun s v => { s with outbox := v }) bool,
    .of "gateway" (·.gateway) (fun s v => { s with gateway := v }) (string),
    .of "advance" (·.advance) (fun s v => { s with advance := v }) (string)]

def storeCommand (f : StepMembers) : Option StoreCommand :=
  match f.db with
  | "dump" => some .dump
  | "notifications" => some .notifications
  | "insert" => some (.insert f.application)
  | "migrate" => some .migrate
  | "fail" => some (.inject f.pattern f.error f.message (f.times.getD 1))
  | "clear_faults" => some .clearFaults
  | _ => none

def keyCommand (f : StepMembers) : Option KeyCommand :=
  match f.redis with
  | "set" => some (.put f.key f.value)
  | "del" => some (.remove f.key)
  | "get" => some (.get f.key)
  | "keys" => some .list
  | "fail" => some (.fail f.message)
  | "recover" => some .recover
  | "acquire" => some (.acquire f.key)
  | "marker" => some (.marker f.key)
  | _ => none

def indexCommand (f : StepMembers) : Option IndexCommand :=
  match f.es with
  | "dump" => some .dump
  | "down" => some .down
  | "up" => some .up
  | "bulk_error" => some .breakBulk
  | "bulk_ok" => some .mendBulk
  | "search_error" => some .breakSearch
  | "search_ok" => some .mendSearch
  | _ => none

def step (f : StepMembers) : ScenarioStep :=
  if !f.job.isEmpty then .job f.job f.vars (f.retries.getD 3)
  else if !f.db.isEmpty then ((storeCommand f).map .store).getD .unknown
  else if !f.redis.isEmpty then ((keyCommand f).map .keys).getD .unknown
  else if !f.es.isEmpty then ((indexCommand f).map .index).getD .unknown
  else match f.search with
    | some s =>
      .search s.index
        { category := s.category, status := s.status, name := s.name, fromIndex := s.fromIndex,
          size := s.size }
    | none =>
      if f.outbox then .outbox
      else if f.gateway == "fail" || f.gateway == "ok" then .gateway
      else if !f.gateway.isEmpty then .unknown
      else if !f.advance.isEmpty then .advance f.advance
      else .unknown

end StepMembers

end Admissions
