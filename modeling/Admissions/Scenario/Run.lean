import Admissions.Scenario.Step
import Admissions.Scenario.Names
import Admissions.Worker.Job
import Admissions.Application.Codec
import Admissions.Time.Duration

namespace Admissions

/-- What a scenario starts from. -/
structure ScenarioSetup where
  settings : ServiceSettings
  now : Instant
  /-- Whether the results index exists at the start. -/
  indexExists : Bool := false
  /-- Examination numbers whose documents the index refuses. -/
  refusedNumbers : List Int := []
  /-- Recipients whose messages are refused. -/
  refusedRecipients : List String := []
  deriving Inhabited

/-- A scenario under way. -/
structure Scenario where
  settings : ServiceSettings
  backends : Backends
  nextKey : Nat := 101
  names : IdNames := {}
  deriving Inhabited

namespace Scenario

/-- The scenario before its first step. -/
def start (s : ScenarioSetup) : Scenario where
  settings := s.settings
  backends := {
    index := { created := s.indexExists, refused := s.refusedNumbers },
    outbox := { refused := s.refusedRecipients },
    now := s.now }

def refusal (kind message : String) : Json := .obj [("error", .str kind), ("message", .str message)]

/-- The error variables as reported: schema problems are listed in sorted order,
since they come in no fixed order. -/
def tidyVariables (v : Json) : Json :=
  match v with
  | .obj fields _ =>
    let code := fields.find? (·.1 == "errorCode")
    let sorts := match code with
      | some (_, .str c) => c == "APPLICATION_VALIDATION_FAILED" || c == "INVALID_JOB_VARIABLES"
      | _ => false
    .obj ((fields.filter (·.1 != "timestamp")).map fun (k, x) =>
      match k, x with
      | "errorDetails", .str d =>
        if sorts then
          (k, .str ("; ".intercalate ((d.splitOn "; ").mergeSort fun a b => decide (a ≤ b))))
        else (k, x)
      | _, _ => (k, x))
  | other => other

def commandJson : JobCommand → Json
  | .complete key v => .obj [("command", .str "complete"), ("jobKey", .ofNat key), ("variables", v)]
  | .fail key n message v =>
    .obj [("command", .str "fail"), ("jobKey", .ofNat key), ("retries", .ofNat n),
      ("errorMessage", .str message), ("variables", tidyVariables v)]
  | .raise key code message v =>
    .obj [("command", .str "throw"), ("jobKey", .ofNat key), ("errorCode", .str code),
      ("errorMessage", .str message), ("variables", tidyVariables v)]

/-- The text of a job's variables: a JSON text as it is, other JSON written out,
nothing when none were given. -/
def variablesText : Option Json → String
  | none => ""
  | some (.str s) => s
  | some j => j.render

def serve {α : Type} (sc : Scenario) (r : Service α) : Except Fault α × Scenario :=
  let (res, b) := r.run.run sc.backends
  (res, { sc with backends := b })

def runJob (sc : Scenario) (taskType : String) (vars : Option Json) (retries : Int) :
    Json × Scenario :=
  match Worker.ofTaskType? taskType with
  | none => (.obj [("error", .str "UNKNOWN_WORKER")], sc)
  | some w =>
    match ReadyWorker.prepare sc.settings w with
    | .error e => (.obj [("configError", .str e)], sc)
    | .ok rw =>
      let job : Job :=
        { key := sc.nextKey, taskType, retries,
          vars := sc.names.restore (variablesText vars) }
      let b := sc.backends
      let sc :=
        { sc with backends := { b with store := { b.store with log := [] } },
                  nextKey := sc.nextKey + 1 }
      let (res, sc) := sc.serve (rw.work job)
      let command := match res with
        | .ok c => c
        | .error e => JobCommand.ofFailure job e.normalize
      (.obj [("commands", .arr [commandJson command]),
        ("db", Json.ofStrings sc.backends.store.statements)], sc)

def rowJson (s : StoredForm) : Json :=
  let a := s.form
  let sc := a.score
  .obj [("id", .str a.id), ("user_id", .str a.userId), ("form_type", .str a.formType),
    ("category", .str a.category), ("applicant_name", .str a.applicant.name),
    ("phone_number", .str a.applicant.phoneNumber), ("email", .str a.applicant.email),
    ("graduation_type", .str a.education.graduationType),
    ("school_name", .str a.education.schoolName),
    ("school_location", .str a.education.schoolLocation), ("other_region", .bool a.otherRegion),
    ("examination_number", Json.ofOption Json.ofInt a.examinationNumber),
    ("status", .str a.status), ("grade", Application.Grade.toJson a.grade),
    ("subject_grade_score", Application.decimalJson sc.subjectGrade),
    ("attendance_score", Application.decimalJson sc.attendance),
    ("volunteer_score", Application.decimalJson sc.volunteer),
    ("bonus_score", Application.decimalJson sc.bonus),
    ("depth_interview_score", Application.scoreJson sc.depthInterview),
    ("ncs_score", Application.scoreJson sc.ncs),
    ("coding_test_score", Application.scoreJson sc.codingTest),
    ("first_round_score", Application.scoreJson sc.firstRound),
    ("total_score", Application.scoreJson sc.total),
    ("submitted_at", .str a.submittedAt.toUTC.formatNano),
    ("rejection_reason", Json.ofOption Json.str s.rejectionReason)]

def noticeJson (n : NotificationRow) : Json :=
  .obj [("id", .str n.id), ("applicationId", .str n.applicationId), ("status", .str n.status),
    ("channel", .str n.channel), ("result", .str n.result), ("sentAt", .str n.sentAt)]

def injectedError (kind message : String) : InjectedError :=
  match kind with
  | "bad_conn" => .badConnection
  | "deadline" => .deadline
  | "conn_done" => .connectionClosed
  | _ => .message message

def insertForm (sc : Scenario) (form : Option Json) : Json × Scenario :=
  let text := match form with
    | some j => sc.names.restore j.render
    | none => ""
  match Decoder.runText Application.decoder {} text with
  | .error e => (refusal "DECODE_ERROR" e.message, sc)
  | .ok a =>
    let a := if a.submittedAt.isZero then { a with submittedAt := sc.backends.now } else a
    match sc.serve (Service.onStore (StoreRun.withTx (StoreRun.insert a))) with
    | (.ok (), sc) => (.str "ok", sc)
    | (.error e, sc) =>
      (.obj [("error", .str "INSERT_FAILED"), ("message", .str e.text),
        ("duplicate", .bool (e.isCondition "DUPLICATE_APPLICATION"))], sc)

def runStore (sc : Scenario) : StoreCommand → Json × Scenario
  | .dump => (.arr (sc.backends.store.tables.forms.map rowJson), sc)
  | .notifications => (.arr (sc.backends.store.tables.notifications.map noticeJson), sc)
  | .insert form => insertForm sc form
  | .migrate =>
    match sc.serve (Service.onStore StoreRun.migrate) with
    | (.ok (), sc) => (.str "ok", sc)
    | (.error e, sc) => (refusal "MIGRATE_FAILED" e.text, sc)
  | .inject pattern kind message times =>
    let b := sc.backends
    let f : InjectedFault := { pattern, error := injectedError kind message, remaining := times }
    (.str "ok", { sc with backends := { b with store := { b.store with faults := b.store.faults ++ [f] } } })
  | .clearFaults =>
    let b := sc.backends
    (.str "ok", { sc with backends := { b with store := { b.store with faults := [] } } })

def withKeys (sc : Scenario) (k : KeyStore) : Scenario :=
  { sc with backends := { sc.backends with keys := k } }

def runKeys (sc : Scenario) : KeyCommand → Json × Scenario
  | .put key value => (.str "ok", sc.withKeys (sc.backends.keys.put key value none))
  | .remove key => (.str "ok", sc.withKeys (sc.backends.keys.remove key))
  | .get key => (Json.ofOption Json.str (sc.backends.keys.get? key), sc)
  | .list => (Json.ofStrings sc.backends.keys.keys, sc)
  | .fail message => (.str "ok", sc.withKeys (sc.backends.keys.fail message))
  | .recover => (.str "ok", sc.withKeys sc.backends.keys.recover)
  | .acquire key =>
    match sc.serve (Service.acquireLease key 60000000000) with
    | (.ok _, sc) => (.obj [("key", .str key)], sc)
    | (.error e, sc) => (.obj [("error", .str e.text)], sc)
  | .marker key =>
    match sc.serve (Service.readMarker key) with
    | (.ok v, sc) => (.obj [("value", .str (v.getD "")), ("set", .bool v.isSome)], sc)
    | (.error e, sc) => (.obj [("error", .str e.text)], sc)

def withIndex (sc : Scenario) (ix : SearchIndex) : Scenario :=
  { sc with backends := { sc.backends with index := ix } }

def runIndex (sc : Scenario) : IndexCommand → Json × Scenario
  | .dump =>
    let ix := sc.backends.index
    (.obj [("exists", .bool ix.created),
      ("docs", .arr (ix.sorted.map fun (id, d) => .obj [("id", .str id), ("doc", d.toJson)]))], sc)
  | .down => (.str "ok", sc.withIndex { sc.backends.index with unreachable := true })
  | .up => (.str "ok", sc.withIndex { sc.backends.index with unreachable := false })
  | .breakBulk => (.str "ok", sc.withIndex { sc.backends.index with bulkBroken := true })
  | .mendBulk => (.str "ok", sc.withIndex { sc.backends.index with bulkBroken := false })
  | .breakSearch => (.str "ok", sc.withIndex { sc.backends.index with searchBroken := true })
  | .mendSearch => (.str "ok", sc.withIndex { sc.backends.index with searchBroken := false })

def runSearch (sc : Scenario) (index : String) (q : ResultsQuery) : Json :=
  if index.isEmpty then .obj [("error", .str "index name is required")]
  else
    let requests := fun (sent : Bool) => if sent then Json.arr [q.body] else Json.null
    match sc.backends.index.search index with
    | (.ok docs, sent) => .obj [("docs", .arr (docs.map ResultDocument.toJson)), ("requests", requests sent)]
    | (.error e, sent) => .obj [("error", .str e), ("requests", requests sent)]

def runAdvance (sc : Scenario) (text : String) : Json × Scenario :=
  match Duration.parse text with
  | .error e => (refusal "DECODE_ERROR" e.message, sc)
  | .ok d =>
    let b := sc.backends
    let now := b.now.addNanos d
    (.str now.format, { sc with backends := { b with now, keys := b.keys.advance d } })

/-- Runs one step: its answer before ids are named. -/
def runStep (sc : Scenario) : ScenarioStep → Json × Scenario
  | .job taskType vars retries => sc.runJob taskType vars retries
  | .store c => sc.runStore c
  | .keys c => sc.runKeys c
  | .index c => sc.runIndex c
  | .search index q => (sc.runSearch index q, sc)
  | .outbox =>
    let (messages, o) := sc.backends.outbox.drain
    (.arr (messages.map OutboxMessage.toJson), { sc with backends := { sc.backends with outbox := o } })
  | .gateway => (.str "ok", sc)
  | .advance d => sc.runAdvance d
  | .unknown => (.obj [("error", .str "UNKNOWN_STEP")], sc)

/-- Runs one step: its answer with ids named. -/
def step (sc : Scenario) (st : ScenarioStep) : Json × Scenario :=
  let (answer, sc) := sc.runStep st
  let (answer, names) := IdNames.rename answer sc.names
  (answer, { sc with names })

/-- Runs the steps in order: their answers. -/
def runAll (sc : Scenario) : List ScenarioStep → List Json
  | [] => []
  | st :: rest =>
    let (answer, sc) := sc.step st
    answer :: runAll sc rest

end Scenario

/-- Runs a scenario from its setup: one answer per step. -/
def runScenario (setup : ScenarioSetup) (steps : List ScenarioStep) : List Json :=
  (Scenario.start setup).runAll steps

end Admissions
