import Admissions.Config.Weak
import Admissions.Config.Layers
import Admissions.Settings.Admission

namespace Admissions

/-- The application's identity and HTTP port. -/
structure AppSettings where
  name : String := ""
  version : String := ""
  environment : String := ""
  httpPort : Int := 0
  deriving Repr, Inhabited

/-- The workflow broker: its address, how many jobs a worker takes at once, and
timeouts in milliseconds. -/
structure BrokerSettings where
  brokerAddress : String := ""
  maxJobsActive : Int := 0
  timeout : Int := 0
  requestTimeout : Int := 0
  deriving Repr, Inhabited

/-- The PostgreSQL connection. -/
structure PostgresSettings where
  host : String := ""
  port : Int := 0
  database : String := ""
  user : String := ""
  password : String := ""
  maxConnections : Int := 0
  maxIdle : Int := 0
  sslMode : String := ""
  deriving Repr, Inhabited

/-- The Elasticsearch connection: addresses, or one URL. -/
structure SearchSettings where
  addresses : Option (List String) := none
  username : String := ""
  password : String := ""
  url : String := ""
  /-- Addresses past the end of the list that a longer list read earlier left
  behind (see `Decoder.refill`). -/
  spareAddresses : List String := []
  deriving Repr, Inhabited

/-- The Redis connection. -/
structure RedisSettings where
  address : String := ""
  password : String := ""
  db : Int := 0
  deriving Repr, Inhabited

/-- The three databases. -/
structure DatabaseSettings where
  postgres : PostgresSettings := {}
  elasticsearch : SearchSettings := {}
  redis : RedisSettings := {}
  deriving Repr, Inhabited

/-- The job settings of one worker. -/
structure WorkerSettings where
  enabled : Bool := false
  maxJobsActive : Int := 0
  timeout : Int := 0
  maxRetries : Int := 0
  deriving Repr, Inhabited

/-- Mail through SES. -/
structure MailSettings where
  enabled : Bool := false
  fromEmail : String := ""
  deriving Repr, Inhabited

/-- Text messages through SNS. -/
structure TextMessageSettings where
  enabled : Bool := false
  senderId : String := ""
  deriving Repr, Inhabited

/-- The AWS region and services. -/
structure CloudSettings where
  region : String := ""
  ses : MailSettings := {}
  sns : TextMessageSettings := {}
  deriving Repr, Inhabited

/-- Outside services. -/
structure IntegrationSettings where
  aws : CloudSettings := {}
  deriving Repr, Inhabited

/-- Logging. -/
structure LogSettings where
  level : String := ""
  format : String := ""
  output : String := ""
  deriving Repr, Inhabited

/-- All the settings of the service. -/
structure ServiceSettings where
  app : AppSettings := {}
  camunda : BrokerSettings := {}
  database : DatabaseSettings := {}
  workers : Option (List (String × WorkerSettings)) := none
  integrations : IntegrationSettings := {}
  logging : LogSettings := {}
  admission : AdmissionSettings := {}
  deriving Repr, Inhabited

namespace SearchSettings

/-- The address to use: the URL, or else the first address. -/
def address (e : SearchSettings) : String :=
  if !e.url.isEmpty then e.url
  else match e.addresses.getD [] with
    | a :: _ => a
    | [] => ""

end SearchSettings

namespace PostgresSettings

def dsn (p : PostgresSettings) : String :=
  "host=" ++ p.host ++ " port=" ++ Text.ofInt p.port ++ " user=" ++ p.user ++ " password=" ++
    p.password ++ " dbname=" ++ p.database ++ " sslmode=" ++ p.sslMode

end PostgresSettings

namespace WorkerSettings

/-- The settings of a worker that is not configured. -/
def fallback : WorkerSettings := { enabled := true, maxJobsActive := 5, timeout := 30000, maxRetries := 3 }

end WorkerSettings

namespace ServiceSettings

/-- The settings of a worker: its configured ones, or the fallback. -/
def workerSettings (s : ServiceSettings) (name : String) : WorkerSettings :=
  match (s.workers.getD []).find? (·.1 == name) with
  | some (_, w) => w
  | none => WorkerSettings.fallback

/-- Whether a worker runs: as configured, and yes when it is not configured. -/
def workerEnabled (s : ServiceSettings) (name : String) : Bool := (s.workerSettings name).enabled

/-- Sets a value that is zero to a default. -/
def orInt (v d : Int) : Int := if v = 0 then d else v

/-- Sets a text that is empty to a default. -/
def orText (v d : String) : String := if v.isEmpty then d else v

def withDefaults (s : ServiceSettings) : ServiceSettings :=
  let es := s.database.elasticsearch
  let es := if es.url.isEmpty then
      match es.addresses.getD [] with
      | a :: _ => { es with url := a }
      | [] => es
    else es
  let pg := s.database.postgres
  { s with
    app := { s.app with httpPort := orInt s.app.httpPort 8080 }
    camunda := { s.camunda with
      maxJobsActive := orInt s.camunda.maxJobsActive 10
      timeout := orInt s.camunda.timeout 30000
      requestTimeout := orInt s.camunda.requestTimeout 30000 }
    database := { s.database with
      postgres := { pg with
        port := orInt pg.port 5432
        maxConnections := orInt pg.maxConnections 25
        maxIdle := orInt pg.maxIdle 5
        sslMode := orText pg.sslMode "disable" }
      elasticsearch := es }
    logging := {
      level := orText s.logging.level "info"
      format := orText s.logging.format "json"
      output := orText s.logging.output "stdout" }
    workers := s.workers.map fun ws => ws.map fun (k, w) => (k, { w with
      maxJobsActive := orInt w.maxJobsActive 5
      timeout := orInt w.timeout 30000
      maxRetries := orInt w.maxRetries 3 })
    admission := { s.admission with
      lockTTL := orInt s.admission.lockTTL 300000
      resultsIndex := orText s.admission.resultsIndex "admission-results" } }

/-- The settings with empty secrets taken from their variables, when set and not empty. -/
def withSecrets (env : Environment) (s : ServiceSettings) : ServiceSettings :=
  let fill (v name : String) : String :=
    if v.isEmpty then (match env.lookup name with
      | some x => if x.isEmpty then v else x
      | none => v) else v
  let db := s.database
  let aws := s.integrations.aws
  { s with
    database := {
      postgres := { db.postgres with
        user := fill db.postgres.user "DB_USER"
        password := fill db.postgres.password "DB_PASSWORD" }
      redis := { db.redis with password := fill db.redis.password "REDIS_PASSWORD" }
      elasticsearch := { db.elasticsearch with
        username := fill db.elasticsearch.username "ELASTICSEARCH_USERNAME"
        password := fill db.elasticsearch.password "ELASTICSEARCH_PASSWORD" } }
    integrations := { aws := { aws with
      region := fill aws.region "AWS_REGION"
      ses := { aws.ses with fromEmail := fill aws.ses.fromEmail "SES_FROM_EMAIL" } } }
    admission := { s.admission with schoolName := fill s.admission.schoolName "ADMISSION_SCHOOL_NAME" } }

/-- Checks the settings; the first problem found. -/
def validate (s : ServiceSettings) : Except String Unit := do
  if s.camunda.brokerAddress.isEmpty then throw "camunda.broker_address is required"
  let pg := s.database.postgres
  if pg.host.isEmpty then throw "database.postgres.host is required"
  if pg.database.isEmpty then throw "database.postgres.database is required"
  if pg.user.isEmpty then throw "database.postgres.user is required"
  if s.database.elasticsearch.address.isEmpty then
    throw "database.elasticsearch.addresses or url is required"
  if s.database.redis.address.isEmpty then throw "database.redis.address is required"
  let _ ← s.admission.quota
  let _ ← s.admission.examinationNumberBases
  let _ ← s.admission.applicationPeriod.bounds
  pure ()

end ServiceSettings

namespace SettingReader

def app : SettingReader AppSettings := record [
  .of "name" (·.name) (fun s v => { s with name := v }) text,
  .of "version" (·.version) (fun s v => { s with version := v }) text,
  .of "environment" (·.environment) (fun s v => { s with environment := v }) text,
  .of "http_port" (·.httpPort) (fun s v => { s with httpPort := v }) (int "int")]

def broker : SettingReader BrokerSettings := record [
  .of "broker_address" (·.brokerAddress) (fun s v => { s with brokerAddress := v }) text,
  .of "max_jobs_active" (·.maxJobsActive) (fun s v => { s with maxJobsActive := v }) (int "int"),
  .of "timeout" (·.timeout) (fun s v => { s with timeout := v }) (int "int"),
  .of "request_timeout" (·.requestTimeout) (fun s v => { s with requestTimeout := v }) (int "int")]

def postgres : SettingReader PostgresSettings := record [
  .of "host" (·.host) (fun s v => { s with host := v }) text,
  .of "port" (·.port) (fun s v => { s with port := v }) (int "int"),
  .of "database" (·.database) (fun s v => { s with database := v }) text,
  .of "user" (·.user) (fun s v => { s with user := v }) text,
  .of "password" (·.password) (fun s v => { s with password := v }) text,
  .of "max_connections" (·.maxConnections) (fun s v => { s with maxConnections := v }) (int "int"),
  .of "max_idle" (·.maxIdle) (fun s v => { s with maxIdle := v }) (int "int"),
  .of "sslmode" (·.sslMode) (fun s v => { s with sslMode := v }) text]

def search : SettingReader SearchSettings := record [
  .of "addresses" (·.addresses) (fun s v => { s with addresses := v }) (list text ""),
  .of "username" (·.username) (fun s v => { s with username := v }) text,
  .of "password" (·.password) (fun s v => { s with password := v }) text,
  .of "url" (·.url) (fun s v => { s with url := v }) text]

def redis : SettingReader RedisSettings := record [
  .of "address" (·.address) (fun s v => { s with address := v }) text,
  .of "password" (·.password) (fun s v => { s with password := v }) text,
  .of "db" (·.db) (fun s v => { s with db := v }) (int "int")]

def database : SettingReader DatabaseSettings := record [
  .of "postgres" (·.postgres) (fun s v => { s with postgres := v }) postgres,
  .of "elasticsearch" (·.elasticsearch) (fun s v => { s with elasticsearch := v }) search,
  .of "redis" (·.redis) (fun s v => { s with redis := v }) redis]

def worker : SettingReader WorkerSettings := record [
  .of "enabled" (·.enabled) (fun s v => { s with enabled := v }) bool,
  .of "max_jobs_active" (·.maxJobsActive) (fun s v => { s with maxJobsActive := v }) (int "int"),
  .of "timeout" (·.timeout) (fun s v => { s with timeout := v }) (int "int"),
  .of "max_retries" (·.maxRetries) (fun s v => { s with maxRetries := v }) (int "int")]

def cloud : SettingReader CloudSettings := record [
  .of "region" (·.region) (fun s v => { s with region := v }) text,
  .of "ses" (·.ses) (fun s v => { s with ses := v }) (record [
    .of "enabled" (·.enabled) (fun s v => { s with enabled := v }) bool,
    .of "from_email" (·.fromEmail) (fun s v => { s with fromEmail := v }) text]),
  .of "sns" (·.sns) (fun s v => { s with sns := v }) (record [
    .of "enabled" (·.enabled) (fun s v => { s with enabled := v }) bool,
    .of "default_sms_sender_id" (·.senderId) (fun s v => { s with senderId := v }) text])]

def logging : SettingReader LogSettings := record [
  .of "level" (·.level) (fun s v => { s with level := v }) text,
  .of "format" (·.format) (fun s v => { s with format := v }) text,
  .of "output" (·.output) (fun s v => { s with output := v }) text]

def ranges : SettingReader RangeSettings := record [
  .of "depth_interview" (·.depthInterview) (fun s v => { s with depthInterview := v }) (list (int "int64") 0),
  .of "ncs" (·.ncs) (fun s v => { s with ncs := v }) (list (int "int64") 0),
  .of "coding_test" (·.codingTest) (fun s v => { s with codingTest := v }) (list (int "int64") 0)]

def admission : SettingReader AdmissionSettings := record [
  .of "school_name" (·.schoolName) (fun s v => { s with schoolName := v }) text,
  .of "home_region" (·.homeRegion) (fun s v => { s with homeRegion := v }) text,
  .of "application_period" (·.applicationPeriod) (fun s v => { s with applicationPeriod := v })
    (record [
      .of "start" (·.start) (fun s v => { s with start := v }) text,
      .of "end" (·.finish) (fun s v => { s with finish := v }) text]),
  .of "total_seats" (·.totalSeats) (fun s v => { s with totalSeats := v }) (int "int"),
  .of "seats" (·.seats) (fun s v => { s with seats := v }) (map (int "int") 0),
  .of "multiplier" (·.multiplier) (fun s v => { s with multiplier := v }) text,
  .of "other_region_rate" (·.otherRegionRate) (fun s v => { s with otherRegionRate := v }) text,
  .of "ranges" (·.ranges) (fun s v => { s with ranges := v }) (map ranges {}),
  .of "examination_number_base" (·.examinationNumbers)
    (fun s v => { s with examinationNumbers := v }) (map (int "int64") 0),
  .of "lock_ttl" (·.lockTTL) (fun s v => { s with lockTTL := v }) (int "int"),
  .of "results_index" (·.resultsIndex) (fun s v => { s with resultsIndex := v }) text]

def service : SettingReader ServiceSettings := record [
  .of "app" (·.app) (fun s v => { s with app := v }) app,
  .of "camunda" (·.camunda) (fun s v => { s with camunda := v }) broker,
  .of "database" (·.database) (fun s v => { s with database := v }) database,
  .of "workers" (·.workers) (fun s v => { s with workers := v }) (map worker {}),
  .of "integrations" (·.integrations) (fun s v => { s with integrations := v })
    (record [.of "aws" (·.aws) (fun s v => { s with aws := v }) cloud]),
  .of "logging" (·.logging) (fun s v => { s with logging := v }) logging,
  .of "admission" (·.admission) (fun s v => { s with admission := v }) admission]

/-- The dotted keys of the settings `service` reads that hold a value of their own
(a text, a number, a list or a map, as opposed to a group of settings). -/
def serviceKeys : List (List String) :=
  (["name", "version", "environment", "http_port"].map (["app", ·])) ++
  (["broker_address", "max_jobs_active", "timeout", "request_timeout"].map (["camunda", ·])) ++
  (["host", "port", "database", "user", "password", "max_connections", "max_idle", "sslmode"].map
    (["database", "postgres", ·])) ++
  (["addresses", "username", "password", "url"].map (["database", "elasticsearch", ·])) ++
  (["address", "password", "db"].map (["database", "redis", ·])) ++
  [["workers"], ["integrations", "aws", "region"],
    ["integrations", "aws", "ses", "enabled"], ["integrations", "aws", "ses", "from_email"],
    ["integrations", "aws", "sns", "enabled"], ["integrations", "aws", "sns", "default_sms_sender_id"]] ++
  (["level", "format", "output"].map (["logging", ·])) ++
  (["school_name", "home_region"].map (["admission", ·])) ++
  [["admission", "application_period", "start"], ["admission", "application_period", "end"]] ++
  (["total_seats", "seats", "multiplier", "other_region_rate", "ranges", "examination_number_base",
    "lock_ttl", "results_index"].map (["admission", ·]))

end SettingReader

end Admissions
