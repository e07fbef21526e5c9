import Admissions.Application.Codec
import Admissions.Schema.Check
import Admissions.Sheet.Cell
import Admissions.Settings.Admission
import Admissions.Failure

namespace Admissions

/-- The job workers. -/
inductive Worker where
  | submitApplication
  | receiveApplication
  | sendResultNotification
  | indexAdmissionResults
  | updateSecondRoundScore
  | selectFirstPass
  | selectSecondPass
  deriving BEq, DecidableEq, Repr, Inhabited

namespace Worker

def all : List Worker :=
  [.submitApplication, .receiveApplication, .sendResultNotification, .indexAdmissionResults,
    .updateSecondRoundScore, .selectFirstPass, .selectSecondPass]

def taskType : Worker → String
  | .submitApplication => "submit-application"
  | .receiveApplication => "receive-application"
  | .sendResultNotification => "send-result-notification"
  | .indexAdmissionResults => "index-admission-results"
  | .updateSecondRoundScore => "update-second-round-score"
  | .selectFirstPass => "select-first-pass"
  | .selectSecondPass => "select-second-pass"

def ofTaskType? (s : String) : Option Worker := all.find? (·.taskType == s)

def inputName : Worker → String
  | .submitApplication => "submitapplication.Input"
  | .receiveApplication => "receiveapplication.Input"
  | .sendResultNotification => "sendresultnotification.Input"
  | .indexAdmissionResults => "indexadmissionresults.Input"
  | .updateSecondRoundScore => "updatesecondroundscore.Input"
  | .selectFirstPass => "selectfirstpass.Input"
  | .selectSecondPass => "selectsecondpass.Input"

end Worker

/-- A form to submit. -/
structure SubmitInput where
  userId : String := ""
  formType : String := ""
  applicant : Applicant := {}
  education : Education := {}
  grade : Grade := {}
  deriving Inhabited

/-- A review decision: the status to move the form to, and why. -/
structure ReviewInput where
  applicationId : String := ""
  decision : String := ""
  reason : String := ""
  deriving Inhabited

/-- What a worker is given. -/
inductive JobInput where
  | submit (i : SubmitInput)
  | review (i : ReviewInput)
  /-- The status whose applicants are told their result. -/
  | notify (status : String)
  /-- The statuses whose forms are indexed; `none` when no list was given. -/
  | index (statuses : Option (List String))
  /-- The score sheet; `none` when none was given. -/
  | sheet (g : Option Grid)
  | select (dryRun : Bool)
  deriving Inhabited

namespace JobInput

open Decoder in
def read (w : Worker) (text : String) : Except DecodeError JobInput :=
  let target := w.inputName
  match w with
  | .submitApplication =>
    (runText (record "Input" target [
      .of "userId" (·.userId) (fun s v => { s with userId := v }) (string),
      .of "formType" (·.formType) (fun s v => { s with formType := v }) (string "models.FormType"),
      .of "applicant" (·.applicant) (fun s v => { s with applicant := v })
        Application.applicantDecoder,
      .of "education" (·.education) (fun s v => { s with education := v })
        Application.educationDecoder,
      .of "grade" (·.grade) (fun s v => { s with grade := v }) Application.gradeDecoder])
      ({} : SubmitInput) text).map .submit
  | .receiveApplication =>
    (runText (record "Input" target [
      .of "applicationId" (·.applicationId) (fun s v => { s with applicationId := v }) (string),
      .of "decision" (·.decision) (fun s v => { s with decision := v }) (string "models.FormStatus"),
      .of "reason" (·.reason) (fun s v => { s with reason := v }) (string)])
      ({} : ReviewInput) text).map .review
  | .sendResultNotification =>
    (runText (record "Input" target [
      .of "status" id (fun _ v => v) (string "models.FormStatus")]) "" text).map .notify
  | .indexAdmissionResults =>
    (runText (record "Input" target [
      .of "statuses" id (fun _ v => v)
        (sparedNullableList (string "models.FormStatus") "" "[]models.FormStatus")])
      ((none, []) : Option (List String) × List String) text).map (.index ∘ Prod.fst)
  | .updateSecondRoundScore =>
    (runText (record "Input" target [
      .of "sheet" id (fun _ v => v) (option Grid.decoder [])]) none text).map .sheet
  | .selectFirstPass | .selectSecondPass =>
    (runText (record "Input" target [.of "dryRun" id (fun _ v => v) bool]) false text).map .select

/-- The input record written as JSON, every member present. -/
def toJson : JobInput → Json
  | .submit i => .obj [("userId", .str i.userId), ("formType", .str i.formType),
      ("applicant", Application.Applicant.toJson i.applicant),
      ("education", Application.Education.toJson i.education),
      ("grade", Application.Grade.toJson i.grade)]
  | .review i => .obj ([("applicationId", .str i.applicationId), ("decision", .str i.decision)] ++
      Application.unlessEmpty "reason" i.reason)
  | .notify s => .obj [("status", .str s)]
  | .index s => .obj [("statuses", Json.ofOption Json.ofStrings s)]
  | .sheet g => .obj [("sheet", Json.ofOption Grid.toJson g)]
  | .select b => .obj [("dryRun", .bool b)]

end JobInput

namespace Worker

def schemaText : Worker → String
  | .submitApplication => "\x7b
  \"type\": \"object\",
  \"required\": [\"userId\", \"formType\", \"applicant\", \"education\", \"grade\"],
  \"properties\": \x7b
    \"userId\": \x7b\"type\": \"string\", \"minLength\": 1\x7d,
    \"formType\": \x7b
      \"type\": \"string\",
      \"enum\": [
        \"REGULAR\", \"MEISTER_TALENT\", \"NATIONAL_BASIC_LIVING\", \"NEAR_POVERTY\",
        \"NATIONAL_VETERANS\", \"ONE_PARENT\", \"FROM_NORTH_KOREA\", \"MULTICULTURAL\",
        \"TEEN_HOUSEHOLDER\", \"MULTI_CHILDREN\", \"FARMING_AND_FISHING\",
        \"NATIONAL_VETERANS_EDUCATION\", \"SPECIAL_ADMISSION\"
      ]
    \x7d,
    \"applicant\": \x7b
      \"type\": \"object\",
      \"required\": [\"name\", \"phoneNumber\"],
      \"properties\": \x7b
        \"name\": \x7b\"type\": \"string\", \"minLength\": 1, \"maxLength\": 50\x7d,
        \"phoneNumber\": \x7b\"type\": \"string\", \"pattern\": \"^01[016789]-?[0-9]\x7b3,4\x7d-?[0-9]\x7b4\x7d$\"\x7d,
        \"email\": \x7b\"type\": \"string\"\x7d
      \x7d
    \x7d,
    \"education\": \x7b
      \"type\": \"object\",
      \"required\": [\"graduationType\"],
      \"properties\": \x7b
        \"graduationType\": \x7b\"type\": \"string\", \"enum\": [\"EXPECTED\", \"GRADUATED\", \"QUALIFICATION_EXAMINATION\"]\x7d,
        \"schoolName\": \x7b\"type\": \"string\"\x7d,
        \"schoolLocation\": \x7b\"type\": \"string\"\x7d
      \x7d
    \x7d,
    \"grade\": \x7b
      \"type\": \"object\",
      \"properties\": \x7b
        \"subjects\": \x7b
          \"type\": [\"array\", \"null\"],
          \"items\": \x7b
            \"type\": \"object\",
            \"required\": [\"name\", \"achievementLevel\"],
            \"properties\": \x7b
              \"name\": \x7b\"type\": \"string\", \"minLength\": 1\x7d,
              \"grade\": \x7b\"type\": \"integer\", \"minimum\": 0, \"maximum\": 3\x7d,
              \"semester\": \x7b\"type\": \"integer\", \"minimum\": 0, \"maximum\": 2\x7d,
              \"achievementLevel\": \x7b\"type\": \"string\", \"enum\": [\"A\", \"B\", \"C\", \"D\", \"E\"]\x7d
            \x7d
          \x7d
        \x7d,
        \"attendance\": \x7b
          \"type\": \"array\",
          \"maxItems\": 3,
          \"items\": \x7b
            \"type\": [\"object\", \"null\"],
            \"properties\": \x7b
              \"absence\": \x7b\"type\": \"integer\", \"minimum\": 0\x7d,
              \"lateness\": \x7b\"type\": \"integer\", \"minimum\": 0\x7d,
              \"earlyLeave\": \x7b\"type\": \"integer\", \"minimum\": 0\x7d,
              \"classAbsence\": \x7b\"type\": \"integer\", \"minimum\": 0\x7d
            \x7d
          \x7d
        \x7d,
        \"volunteerHours\": \x7b
          \"type\": \"array\",
          \"maxItems\": 3,
          \"items\": \x7b\"type\": [\"integer\", \"null\"], \"minimum\": 0\x7d
        \x7d,
        \"certificates\": \x7b
          \"type\": [\"array\", \"null\"],
          \"items\": \x7b
            \"type\": \"string\",
            \"enum\": [
              \"CRAFTSMAN_INFORMATION_PROCESSING\", \"CRAFTSMAN_INFORMATION_EQUIPMENT_OPERATION\",
              \"CRAFTSMAN_COMPUTER\", \"COMPUTER_SPECIALIST_LEVEL_1\",
              \"COMPUTER_SPECIALIST_LEVEL_2\", \"COMPUTER_SPECIALIST_LEVEL_3\"
            ]
          \x7d
        \x7d
      \x7d
    \x7d
  \x7d
\x7d"
  | .receiveApplication => "\x7b
  \"type\": \"object\",
  \"required\": [\"applicationId\", \"decision\"],
  \"properties\": \x7b
    \"applicationId\": \x7b\"type\": \"string\", \"minLength\": 1\x7d,
    \"decision\": \x7b\"type\": \"string\", \"enum\": [\"RECEIVED\", \"REJECTED\", \"SUBMITTED\"]\x7d,
    \"reason\": \x7b\"type\": \"string\", \"maxLength\": 500\x7d
  \x7d
\x7d"
  | .sendResultNotification => "\x7b
  \"type\": \"object\",
  \"required\": [\"status\"],
  \"properties\": \x7b
    \"status\": \x7b
      \"type\": \"string\",
      \"enum\": [\"FIRST_PASSED\", \"FIRST_FAILED\", \"NO_SHOW\", \"SECOND_PASSED\", \"SECOND_FAILED\"]
    \x7d
  \x7d
\x7d"
  | .indexAdmissionResults => "\x7b
  \"type\": \"object\",
  \"required\": [\"statuses\"],
  \"properties\": \x7b
    \"statuses\": \x7b
      \"type\": \"array\",
      \"minItems\": 1,
      \"uniqueItems\": true,
      \"items\": \x7b
        \"type\": \"string\",
        \"enum\": [\"SUBMITTED\", \"RECEIVED\", \"REJECTED\", \"FIRST_PASSED\", \"FIRST_FAILED\",
          \"NO_SHOW\", \"SECOND_PASSED\", \"SECOND_FAILED\", \"ENTERED\"]
      \x7d
    \x7d
  \x7d
\x7d"
  | .updateSecondRoundScore => "\x7b
  \"type\": \"object\",
  \"required\": [\"sheet\"],
  \"properties\": \x7b
    \"sheet\": \x7b
      \"type\": \"array\",
      \"minItems\": 1,
      \"items\": \x7b
        \"type\": \"array\",
        \"items\": \x7b\"type\": [\"number\", \"string\", \"boolean\", \"null\"]\x7d
      \x7d
    \x7d
  \x7d
\x7d"
  | .selectFirstPass | .selectSecondPass => "\x7b
  \"type\": \"object\",
  \"properties\": \x7b
    \"dryRun\": \x7b\"type\": \"boolean\"\x7d
  \x7d
\x7d"

def schema (w : Worker) : CompiledSchema :=
  match CompiledSchema.ofText w.schemaText with
  | .ok s => s
  | .error _ => ⟨#[{ verdict := some true }]⟩

end Worker

namespace JobInput

def report (w : Worker) (i : JobInput) : SchemaReport := w.schema.validate i.toJson

def details (r : SchemaReport) : String := "; ".intercalate (r.problems.map fun p => p.field ++ ": " ++ p.message)

/-- The check a worker makes on its input before it reads the store: the failure
that stops it, if any. A submission is checked against the application period
at `now`; an unreadable period is an unexpected error. -/
def precheck (w : Worker) (i : JobInput) (period : PeriodSettings) (now : Instant) : Option Failure :=
  let r := i.report w
  match i with
  | .submit _ =>
    if !r.valid then some (Failure.applicationValidationFailed (details r))
    else
      match period.contains now with
      | .error e => some (Fault.plain ("application period: " ++ e)).normalize
      | .ok false => some (Failure.outOfApplicationPeriod ("submitted at " ++ now.toUTC.format ++
          ", period " ++ period.start ++ " to " ++ period.finish))
      | .ok true => none
  | .review v =>
    if !r.valid then some (Failure.invalidJobVariables (details r))
    else if v.decision == Status.rejected.code && (Text.trimSpace v.reason).isEmpty then
      some (Failure.invalidJobVariables ("REJECTION_REASON_REQUIRED: application " ++ v.applicationId))
    else none
  | .notify _ => if !r.valid then some (Failure.invalidJobVariables (details r)) else none
  | .index s =>
    if (s.getD []).isEmpty then some (Failure.invalidJobVariables "statuses: at least one status is required")
    else none
  | _ => none

end JobInput

end Admissions
