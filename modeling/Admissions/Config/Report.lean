import Admissions.Config.Service
import Admissions.Json.Basic

namespace Admissions

namespace ServiceSettings

/-- A map as a JSON object, or `null` when it was never set. -/
def mapJson {α : Type} (f : α → Json) : Option (List (String × α)) → Json
  | some m => Json.sortKeys (.obj (m.map fun (k, v) => (k, f v)))
  | none => .null

/-- A list of integers, or `null` when it was never set. -/
def intsJson : Option (List Int) → Json
  | some xs => .arr (xs.map Json.ofInt)
  | none => .null

def workerJson (w : WorkerSettings) : Json :=
  .obj [("Enabled", .bool w.enabled), ("MaxJobsActive", .ofInt w.maxJobsActive),
    ("Timeout", .ofInt w.timeout), ("MaxRetries", .ofInt w.maxRetries)]

def admissionJson (a : AdmissionSettings) : Json :=
  .obj [("SchoolName", .str a.schoolName), ("HomeRegion", .str a.homeRegion),
    ("ApplicationPeriod", .obj [("Start", .str a.applicationPeriod.start),
      ("End", .str a.applicationPeriod.finish)]),
    ("TotalSeats", .ofInt a.totalSeats),
    ("Seats", mapJson Json.ofInt a.seats),
    ("Multiplier", .str a.multiplier), ("OtherRegionRate", .str a.otherRegionRate),
    ("Ranges", mapJson (fun r => .obj [("DepthInterview", intsJson r.depthInterview),
      ("NCS", intsJson r.ncs), ("CodingTest", intsJson r.codingTest)]) a.ranges),
    ("ExaminationNumbers", mapJson Json.ofInt a.examinationNumbers),
    ("LockTTL", .ofInt a.lockTTL), ("ResultsIndex", .str a.resultsIndex)]

def toJson (s : ServiceSettings) : Json :=
  let db := s.database
  let aws := s.integrations.aws
  .obj [
    ("App", .obj [("Name", .str s.app.name), ("Version", .str s.app.version),
      ("Environment", .str s.app.environment), ("HTTPPort", .ofInt s.app.httpPort)]),
    ("Camunda", .obj [("BrokerAddress", .str s.camunda.brokerAddress),
      ("MaxJobsActive", .ofInt s.camunda.maxJobsActive), ("Timeout", .ofInt s.camunda.timeout),
      ("RequestTimeout", .ofInt s.camunda.requestTimeout)]),
    ("Database", .obj [
      ("Postgres", .obj [("Host", .str db.postgres.host), ("Port", .ofInt db.postgres.port),
        ("Database", .str db.postgres.database), ("User", .str db.postgres.user),
        ("Password", .str db.postgres.password),
        ("MaxConnections", .ofInt db.postgres.maxConnections),
        ("MaxIdle", .ofInt db.postgres.maxIdle), ("SSLMode", .str db.postgres.sslMode)]),
      ("Elasticsearch", .obj [
        ("Addresses", match db.elasticsearch.addresses with
          | some xs => .arr (xs.map .str)
          | none => .null),
        ("Username", .str db.elasticsearch.username), ("Password", .str db.elasticsearch.password),
        ("URL", .str db.elasticsearch.url)]),
      ("Redis", .obj [("Address", .str db.redis.address), ("Password", .str db.redis.password),
        ("DB", .ofInt db.redis.db)])]),
    ("Workers", mapJson workerJson s.workers),
    ("Integrations", .obj [("AWS", .obj [("Region", .str aws.region),
      ("SES", .obj [("Enabled", .bool aws.ses.enabled), ("FromEmail", .str aws.ses.fromEmail)]),
      ("SNS", .obj [("Enabled", .bool aws.sns.enabled),
        ("DefaultSMSSenderID", .str aws.sns.senderId)])])]),
    ("Logging", .obj [("Level", .str s.logging.level), ("Format", .str s.logging.format),
      ("Output", .str s.logging.output)]),
    ("Admission", admissionJson s.admission)]

def derivedJson (s : ServiceSettings) : Json :=
  let names := (s.workers.getD []).map (·.1) ++ ["unknown-worker"]
  .obj [("dsn", .str s.database.postgres.dsn),
    ("elasticsearch", .str s.database.elasticsearch.address),
    ("workerSettings", Json.sortKeys (.obj (names.map fun n =>
      (n, .obj [("settings", workerJson (s.workerSettings n)), ("enabled", .bool (s.workerEnabled n))]))))]

end ServiceSettings

end Admissions
