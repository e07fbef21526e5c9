import Admissions.AdmissionError
import Admissions.Json.Basic
import Admissions.Text.Quote

namespace Admissions

/-- A failure reported to the process engine. -/
structure Failure where
  code : String
  message : String
  details : String := ""
  retryable : Bool := false
  /-- Extra variables passed with the failure. -/
  metadata : List (String × Json) := []
  deriving Repr, Inhabited

namespace Failure

def business (code message details : String) : Failure := ⟨code, message, details, false, []⟩

def technical (code message details : String) : Failure := ⟨code, message, details, true, []⟩

def applicationValidationFailed (details : String) : Failure :=
  business "APPLICATION_VALIDATION_FAILED" "Application data validation failed" details

def invalidJobVariables (details : String) : Failure :=
  business "INVALID_JOB_VARIABLES" "Job variables are invalid" details

def applicationNotFound (id : String) : Failure :=
  business "APPLICATION_NOT_FOUND" "Application not found" ("applicationId: " ++ id)

def outOfApplicationPeriod (details : String) : Failure :=
  business "OUT_OF_APPLICATION_PERIOD" "Application period is closed" details

def formAlreadySubmitted (userId : String) : Failure :=
  business "FORM_ALREADY_SUBMITTED" "Applicant already submitted a form" ("userId: " ++ userId)

def invalidStatusTransition (details : String) : Failure :=
  business "INVALID_STATUS_TRANSITION" "Status transition not allowed" details

def selectionAlreadyDone (code details : String) : Failure :=
  business code "Selection has already been completed" details

def selectionLocked (lockKey : String) : Failure :=
  technical "SELECTION_IN_PROGRESS" "Another selection run holds the lock" ("lockKey: " ++ lockKey)

def lockFailed (cause : String) : Failure :=
  technical "LOCK_FAILED" "Redis lock operation failed" cause

def databaseConnectionFailed (cause : String) : Failure :=
  technical "DATABASE_CONNECTION_FAILED" "Database connection error" cause

def queryExecutionFailed (operation cause : String) : Failure :=
  technical "QUERY_EXECUTION_FAILED" "Database query execution error"
    ("operation: " ++ operation ++ ", error: " ++ cause)

def queryTimeout (operation : String) : Failure :=
  technical "QUERY_TIMEOUT" "Database query timeout" ("operation: " ++ operation)

def elasticsearchConnectionFailed (cause : String) : Failure :=
  technical "ELASTICSEARCH_CONNECTION_FAILED" "Elasticsearch connection error" cause

def indexingFailed (index cause : String) : Failure :=
  technical "INDEXING_FAILED" "Result indexing failed" ("index: " ++ index ++ ", error: " ++ cause)

def notificationSendFailed (channel cause : String) : Failure :=
  technical "NOTIFICATION_SEND_FAILED" "Notification delivery failed"
    ("channel: " ++ channel ++ ", error: " ++ cause)

def businessRule (message details : String) : Failure :=
  business "BUSINESS_RULE_VIOLATION" message details

def externalService (service cause : String) : Failure :=
  technical "EXTERNAL_SERVICE_ERROR" ("External service '" ++ service ++ "' error") cause

def timeout (service cause : String) : Failure :=
  technical "TIMEOUT_ERROR" ("Service '" ++ service ++ "' timeout") cause

def resourceNotFound (service details : String) : Failure :=
  business "RESOURCE_NOT_FOUND" ("Resource not found in " ++ service) details

def authentication (details : String) : Failure :=
  business "AUTHENTICATION_ERROR" "Authentication failed" details

def internal (details : String) : Failure := business "INTERNAL_ERROR" "Unexpected error" details

def retryCount (code : String) : Nat :=
  if ["DATABASE_CONNECTION_FAILED", "QUERY_EXECUTION_FAILED", "LOCK_FAILED",
      "ELASTICSEARCH_CONNECTION_FAILED", "INDEXING_FAILED", "NOTIFICATION_SEND_FAILED",
      "EXTERNAL_SERVICE_ERROR"].contains code then 3
  else if ["QUERY_TIMEOUT", "SELECTION_IN_PROGRESS", "TIMEOUT_ERROR"].contains code then 2
  else 0

/-- The category of a code, by the first group of words it contains. -/
def category (code : String) : String :=
  let has (w : String) := Text.contains code w
  if has "CELL" || has "RANGE" || has "ROW_COUNT" || has "MISMATCH" then "SCORE_SHEET"
  else if has "PASS" || has "SELECTION" || has "LOCK" then "SELECTION"
  else if has "DATABASE" || has "QUERY" then "DATABASE"
  else if has "ELASTICSEARCH" || has "INDEXING" then "SEARCH"
  else if has "NOTIFICATION" then "NOTIFICATION"
  else if has "INVALID" || has "VALIDATION" || has "INSUFFICIENT" then "VALIDATION"
  else if has "APPLICATION" || has "FORM" || has "EXAMINATION" then "APPLICATION"
  else "OTHER"

/-- Retries the process engine is told of: none for a final failure. -/
def retries (f : Failure) : Nat := if f.retryable then retryCount f.code else 0

/-- The variables passed with a failure: its code and its metadata. -/
def errorVariables (f : Failure) : List (String × Json) :=
  ("originalErrorCode", .str f.code) :: f.metadata

/-- The variables of a failed job: code, message, particulars, retryability and the
failure's variables. -/
def jobVariables (f : Failure) : List (String × Json) :=
  [("errorCode", .str f.code), ("errorMessage", .str f.message), ("errorDetails", .str f.details),
    ("retryable", .bool f.retryable)] ++ f.errorVariables

def view (f : Failure) : Json :=
  .obj ([("code", .str f.code), ("message", .str f.message)] ++
    (if f.details.isEmpty then [] else [("details", .str f.details)]) ++
    [("retryable", .bool f.retryable), ("retries", .ofNat f.retries),
      ("category", .str (category f.code)), ("errorVariables", .obj f.errorVariables)])

def cellJson (c : CellError) : Json :=
  .obj [("row", .ofInt c.row), ("column", .ofInt c.column), ("cell", .str c.cell),
    ("kind", .str c.fault.code), ("reason", .str c.reason)]

/-- The failure of an admission refusal whose text is `text`. -/
def ofAdmission (e : AdmissionError) (text : String) : Failure :=
  match e with
  | .sheet cells =>
    { business e.code "Score sheet contains invalid cells" text with
      metadata := [("cellErrors", .arr (cells.map cellJson))] }
  | .rowCount .. =>
    business e.code "Score sheet row count does not match the first round passers" text
  | .numberMismatch _ => business e.code "Score sheet does not match the first round passers" text
  | .alreadyAssigned .. => business e.code "Examination number already assigned" text
  | .missingData _ => business e.code "Selection input is incomplete" text
  | .notFirstPassed .. => business e.code "Status transition not allowed" text

/-- An admission refusal reported in full: its code, its text, its failure view
and, for a score sheet, each bad cell and which kinds of fault occur. -/
def admissionReport (e : AdmissionError) : List (String × Json) :=
  [("error", .str e.code), ("message", .str e.message),
    ("standard", (ofAdmission e e.message).view)] ++
  match e with
  | .sheet cells => [("cells", .arr (cells.map cellJson)),
      ("isInvalidCellType", .bool (AdmissionError.hasInvalidType cells)),
      ("isScoreOutOfRange", .bool (AdmissionError.hasOutOfRange cells))]
  | _ => []

end Failure

/-- What an error inside the service comes from. -/
inductive Cause where
  /-- A failure already classified. -/
  | failure (f : Failure)
  /-- A refusal of the admission rules. -/
  | admission (e : AdmissionError)
  /-- A deadline passed. -/
  | deadline
  /-- The database connection was closed. -/
  | connectionClosed
  /-- The database driver lost its connection. -/
  | badConnection
  /-- A named condition of a store, such as a stale status or a held lock. -/
  | condition (name : String)
  /-- Nothing more than its text. -/
  | plain
  deriving Repr, Inhabited

/-- An error inside the service: its text, with every layer of context, and its cause. -/
structure Fault where
  text : String
  cause : Cause := .plain
  deriving Repr, Inhabited

namespace Fault

def plain (text : String) : Fault := ⟨text, .plain⟩

def ofFailure (f : Failure) : Fault := ⟨"StandardError[" ++ f.code ++ "]: " ++ f.message, .failure f⟩

def ofAdmission (e : AdmissionError) : Fault := ⟨e.message, .admission e⟩

def connectionClosed : Fault := ⟨"sql: connection is already closed", .connectionClosed⟩

def badConnection : Fault := ⟨"driver: bad connection", .badConnection⟩

def deadline : Fault := ⟨"context deadline exceeded", .deadline⟩

def wrap (context : String) (e : Fault) : Fault := { e with text := context ++ ": " ++ e.text }

def isCondition (e : Fault) (name : String) : Bool :=
  match e.cause with
  | .condition n => n == name
  | _ => false

/-- The failure of an error: a classified failure as it is, an admission refusal
as its failure with the error's text, anything else as an unexpected error. -/
def normalize (e : Fault) : Failure :=
  match e.cause with
  | .failure f => f
  | .admission a => Failure.ofAdmission a e.text
  | _ => Failure.internal e.text

def ofQuery (operation : String) (e : Fault) : Failure :=
  match e.cause with
  | .deadline => Failure.queryTimeout operation
  | .connectionClosed | .badConnection => Failure.databaseConnectionFailed e.text
  | _ => Failure.queryExecutionFailed operation e.text

end Fault

/-- What the process engine is told about a failed job. -/
inductive JobVerdict where
  /-- Try the job again, with this many retries left. -/
  | retry (retries : Nat)
  /-- Raise the failure in the process. -/
  | raise
  deriving Repr, BEq, Inhabited

/-- A failure with retries left is retried while the job itself has more than
one try left, with no more retries than the job had less one; any other is raised. -/
def JobVerdict.of (f : Failure) (jobRetries : Int) : JobVerdict :=
  if 0 < f.retries ∧ 1 < jobRetries then .retry (min f.retries (jobRetries - 1).toNat)
  else .raise

end Admissions
