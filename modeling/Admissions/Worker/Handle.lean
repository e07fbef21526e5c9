import Admissions.Worker.Input
import Admissions.Selection.Batch
import Admissions.Selection.Report
import Admissions.Config.Service
import Admissions.Notification
import Admissions.Phone
import Admissions.Roster

namespace Admissions

/-- A worker set up and ready to take jobs. -/
inductive ReadyWorker where
  | submit (admission : AdmissionSettings) (bases : List (String × Int))
  | review
  /-- The school's name, the e-mail sender address when e-mail is on, and the text
  sender id when text messages are on. -/
  | notify (schoolName : String) (mailFrom : Option String) (textSender : Option String)
  | index (name : String)
  | scores (s : SelectionSettings)
  | firstPass (s : SelectionSettings)
  | secondPass (s : SelectionSettings)
  deriving Inhabited

namespace ReadyWorker

def selection (cfg : ServiceSettings) : Except String SelectionSettings :=
  cfg.admission.quota.map fun q => ⟨q, SelectionSettings.leaseTimeOf cfg.admission.lockTTL⟩

/-- Sets a worker up, or says why it cannot start. -/
def prepare (cfg : ServiceSettings) : Worker → Except String ReadyWorker
  | .submitApplication =>
    match cfg.admission.examinationNumberBases with
    | .error e => .error ("submit-application: " ++ e)
    | .ok bases =>
      match cfg.admission.applicationPeriod.bounds with
      | .error e => .error ("submit-application: " ++ e)
      | .ok _ => .ok (.submit cfg.admission bases)
  | .receiveApplication => .ok .review
  | .sendResultNotification =>
    let aws := cfg.integrations.aws
    .ok (.notify cfg.admission.schoolName (if aws.ses.enabled then some aws.ses.fromEmail else none)
      (if aws.sns.enabled then some aws.sns.senderId else none))
  | .indexAdmissionResults =>
    if cfg.admission.resultsIndex.isEmpty then .error "admission.results_index is required"
    else .ok (.index cfg.admission.resultsIndex)
  | .updateSecondRoundScore => (selection cfg).map .scores
  | .selectFirstPass => (selection cfg).map .firstPass
  | .selectSecondPass => (selection cfg).map .secondPass

end ReadyWorker

namespace Service

def fail {α : Type} (f : Failure) : Service α := throw (Fault.ofFailure f)

/-- Stops with the failure, if there is one. -/
def failWith : Option Failure → Service Unit
  | some f => fail f
  | none => pure ()

/-- Stops with a failure when the condition holds. -/
def failIf (c : Bool) (f : Failure) : Service Unit := if c then fail f else pure ()

/-- Runs statements on the store, reporting an error as a failed operation. -/
def query {α : Type} (operation : String) (r : StoreRun α) : Service α := do
  match ← outcome (onStore r) with
  | .ok v => pure v
  | .error e => fail (e.ofQuery operation)

end Service

namespace Handler

open Service

/-- What a user hands in, under a fresh id, as the desk receives a form. -/
def submission (i : SubmitInput) (id : String) : Submission :=
  { id, formType := i.formType, applicant := i.applicant, education := i.education, grade := i.grade }

/-- The form a user hands in, completed, under a fresh id and the time it came in. -/
def newForm (admission : AdmissionSettings) (i : SubmitInput) (id : String) (now : Instant) :
    Application :=
  { Roster.complete admission.homeRegion (submission i id) with userId := i.userId, submittedAt := now }

/-- Numbers a form after the highest number of its category, under the category's
lock, and stores it. -/
def storeForm (bases : List (String × Int)) (form : Application) : StoreRun Application := do
  StoreRun.lockCategory form.category
  let current ← StoreRun.maxExaminationNumber form.category
  let n ← Batch.ruling (ExamNumber.assign bases form current)
  let form := { form with examinationNumber := some n }
  StoreRun.insert form
  return form

def submit (admission : AdmissionSettings) (bases : List (String × Int)) (i : SubmitInput) :
    Service Json := do
  let now := (← clock).toUTC
  failWith ((JobInput.submit i).precheck .submitApplication admission.applicationPeriod now)
  failIf (← query "form existence check" (StoreRun.hasForm i.userId))
    (Failure.formAlreadySubmitted i.userId)
  let id ← freshId
  let stored ← outcome (onStore (StoreRun.withTx (storeForm bases (newForm admission i id now))))
  match stored with
  | .ok form =>
    return .obj [("applicationId", .str form.id), ("examinationNumber", .ofInt form.examNo),
      ("category", .str form.category), ("status", .str form.status),
      ("firstRoundScore", .str (Score.format (form.score.firstRound.getD Decimal.zero))),
      ("submittedAt", .str now.format)]
  | .error e =>
    if e.isCondition "DUPLICATE_APPLICATION" then fail (Failure.formAlreadySubmitted i.userId)
    else match e.cause with
      | .admission _ => throw e
      | _ => fail (e.ofQuery "insert application")

/-- Writes a review's decision over the form as it was read: a rejection with its
reason, any other decision as a move. -/
def writeDecision (i : ReviewInput) (form : Application) : StoreRun Unit :=
  if i.decision == Status.rejected.code then StoreRun.reject form.id form.status i.reason
  else StoreRun.updateStatus [form.id] form.status i.decision

/-- Moves the form under review along the decision; a move the statuses do not allow
is refused. The form as it was read. -/
def applyDecision (i : ReviewInput) : StoreRun Application := do
  let form ← StoreRun.find i.applicationId
  if !Status.canTransition form.status i.decision then
    throw (Fault.ofFailure (Failure.invalidStatusTransition
      ("application " ++ form.id ++ ": " ++ form.status ++ " -> " ++ i.decision)))
  else
    writeDecision i form
    return form

def review (i : ReviewInput) : Service Json := do
  failWith ((JobInput.review i).precheck .receiveApplication {} Instant.zero)
  let reviewed ← outcome (onStore (StoreRun.withTx (applyDecision i)))
  match reviewed with
  | .ok form =>
    return .obj [("applicationId", .str i.applicationId), ("previousStatus", .str form.status),
      ("status", .str i.decision), ("examinationNumber", .ofInt form.examNo),
      ("reviewedAt", .str (← stamp))]
  | .error e =>
    if e.isCondition "APPLICATION_NOT_FOUND" then fail (Failure.applicationNotFound i.applicationId)
    else if e.normalize.code == "INVALID_STATUS_TRANSITION" then throw e
    else fail (e.ofQuery "review application")

/-- The counts of a notification run and its last failure. -/
structure NoticeTally where
  sent : Nat := 0
  failed : Nat := 0
  skipped : Nat := 0
  lastChannel : String := ""
  lastError : String := ""
  deriving Inhabited

/-- Sends one message on a channel: `none` when the channel is skipped, else the
refusal, if any. -/
def deliver (mailFrom textSender : Option String) (channel : String) (form : Application)
    (subject body : String) : Service (Option (Option String)) := do
  let b ← get
  if channel == "sms" then
    match textSender with
    | some sender =>
      if Phone.isMobile form.applicant.phoneNumber then
        let (refusal, o) := b.outbox.sendText sender (Phone.toE164 form.applicant.phoneNumber) body
        set { b with outbox := o }
        return some refusal
      else return none
    | none => return none
  else
    match mailFrom with
    | some sender =>
      if form.applicant.email.isEmpty then return none
      else
        let (refusal, o) := b.outbox.sendEmail sender form.applicant.email subject body
        set { b with outbox := o }
        return some refusal
    | none => return none

/-- Stores the outcome of a message; a store error is only reported. -/
def recordNotice (status channel result : String) (form : Application) : Service Unit := do
  let id ← freshId
  let sentAt ← stamp
  attempt (onStore (StoreRun.recordNotification
    { id, applicationId := form.id, status, channel, result, sentAt }))

/-- Sends a form's messages on the channels not used yet. -/
def noticeChannels (mailFrom textSender : Option String) (status : String) (done : List (String × String))
    (form : Application) (subject body : String) : List String → NoticeTally → Service NoticeTally
  | [], t => pure t
  | channel :: rest, t => do
    let t ← if done.contains (form.id, channel) then pure { t with skipped := t.skipped + 1 }
      else
        match ← deliver mailFrom textSender channel form subject body with
        | none => pure { t with skipped := t.skipped + 1 }
        | some none => do
          recordNotice status channel "sent" form
          pure { t with sent := t.sent + 1 }
        | some (some e) => do
          recordNotice status channel "failed" form
          pure { t with failed := t.failed + 1, lastChannel := channel, lastError := e }
    noticeChannels mailFrom textSender status done form subject body rest t

/-- Sends the messages of every form in turn. -/
def noticeForms (schoolName : String) (mailFrom textSender : Option String) (status : String)
    (template : Template) (done : List (String × String)) : List Application → NoticeTally →
    Service NoticeTally
  | [], t => pure t
  | form :: rest, t => do
    let values := Template.values schoolName form
    let t ← noticeChannels mailFrom textSender status done form
      (Template.render template.subject values) (Template.render template.body values) ["sms", "email"] t
    noticeForms schoolName mailFrom textSender status template done rest t

def notify (schoolName : String) (mailFrom textSender : Option String) (status : String) :
    Service Json := do
  failWith ((JobInput.notify status).precheck .sendResultNotification {} Instant.zero)
  let template := (Template.forCode status).getD ⟨"", ""⟩
  let recipients ← query "list recipients" (StoreRun.listByStatus [status])
  let done ← query "list sent notifications" (StoreRun.sentNotifications status)
  let t ← noticeForms schoolName mailFrom textSender status template done recipients {}
  failIf (t.sent = 0 ∧ t.failed > 0) (Failure.notificationSendFailed t.lastChannel t.lastError)
  return .obj [("notifiedStatus", .str status), ("recipients", .ofNat recipients.length),
    ("sent", .ofNat t.sent), ("failed", .ofNat t.failed), ("skipped", .ofNat t.skipped)]

def indexFailure (name : String) (e : Fault) : Failure :=
  if e.isCondition "elasticsearch unavailable" then Failure.elasticsearchConnectionFailed e.text
  else Failure.indexingFailed name e.text

def index (name : String) (statuses : List String) : Service Json := do
  failIf statuses.isEmpty (Failure.invalidJobVariables "statuses: at least one status is required")
  let forms ← query "list results" (StoreRun.listByStatus statuses)
  let b ← get
  match b.index.ensure name with
  | .error e => fail (indexFailure name e)
  | .ok ix =>
    set { b with index := ix }
    let now ← clock
    let (r, ix) := ix.bulk (forms.map (ResultDocument.ofApplication · now))
    modify fun b => { b with index := ix }
    match r with
    | .error e => fail (indexFailure name e)
    | .ok n =>
      return .obj [("resultsIndex", .str name), ("indexedCount", .ofNat n),
        ("resultsIndexedAt", .str now.toUTC.format)]

def scores (s : SelectionSettings) (sheet : Option Grid) : Service Json := do
  let g := sheet.getD []
  failIf g.isEmpty (Failure.invalidJobVariables "sheet: header row is missing")
  let r ← Batch.importScores s g
  return .obj [("scoreSheetRows", .ofNat r.rows), ("presentCount", .ofNat r.present),
    ("noShowCount", .ofNat r.noShow), ("scoresImportedAt", .str r.completedAt)]

/-- The counts of every category of a pass. -/
def categoriesJson (p : PassSummary) : Json := .arr (p.result.categories.map CategorySelection.countsJson)

/-- Runs the first pass. -/
def firstPass (s : SelectionSettings) (dryRun : Bool) : Service Json := do
  let p ← Batch.firstPass s dryRun
  return .obj [("firstPassRunId", .str p.runId), ("dryRun", .bool p.dryRun),
    ("candidates", .ofNat p.candidates), ("passedCount", .ofNat p.passed),
    ("unselectedCount", .ofInt p.unselected), ("categories", categoriesJson p),
    ("firstPassCompletedAt", .str p.completedAt)]

def secondPass (s : SelectionSettings) (dryRun : Bool) : Service Json := do
  let p ← Batch.secondPass s dryRun
  return .obj [("secondPassRunId", .str p.runId), ("dryRun", .bool p.dryRun),
    ("candidates", .ofNat p.candidates), ("finalPassedCount", .ofNat p.passed),
    ("finalFailedCount", .ofNat p.failed), ("categories", categoriesJson p),
    ("secondPassCompletedAt", .str p.completedAt)]

def read (w : Worker) (text : String) : Service JobInput :=
  match JobInput.read w text with
  | .ok i => pure i
  | .error e => fail (Failure.invalidJobVariables e.message)

/-- Checks the text of a worker's variables against its schema, then reads them. -/
def readChecked (w : Worker) (text : String) : Service JobInput := do
  let r := w.schema.validateText text
  failIf (!r.valid) (Failure.invalidJobVariables ("; ".intercalate r.messages))
  read w text

end Handler

namespace ReadyWorker

open Handler

/-- Handles a job's variables: the output of the completed job. -/
def handle (rw : ReadyWorker) (text : String) : Service Json := do
  match rw with
  | .submit admission bases =>
    match ← Handler.read .submitApplication text with
    | .submit i => Handler.submit admission bases i
    | _ => pure .null
  | .review =>
    match ← Handler.read .receiveApplication text with
    | .review i => Handler.review i
    | _ => pure .null
  | .notify school mailFrom textSender =>
    match ← Handler.read .sendResultNotification text with
    | .notify status => Handler.notify school mailFrom textSender status
    | _ => pure .null
  | .index name =>
    match ← Handler.readChecked .indexAdmissionResults text with
    | .index statuses => Handler.index name (statuses.getD [])
    | _ => pure .null
  | .scores s =>
    match ← Handler.readChecked .updateSecondRoundScore text with
    | .sheet g => Handler.scores s g
    | _ => pure .null
  | .firstPass s =>
    let dryRun ← if text.isEmpty then pure false else
      match ← Handler.readChecked .selectFirstPass text with
      | .select b => pure b
      | _ => pure false
    Handler.firstPass s dryRun
  | .secondPass s =>
    let dryRun ← if text.isEmpty then pure false else
      match ← Handler.readChecked .selectSecondPass text with
      | .select b => pure b
      | _ => pure false
    Handler.secondPass s dryRun

end ReadyWorker

end Admissions
