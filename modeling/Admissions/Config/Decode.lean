import Admissions.Config.Service
import Admissions.Json.Decode

namespace Admissions

namespace ServiceSettings

open Decoder

def appDecoder : Decoder AppSettings :=
  record "AppConfig" "config.AppConfig" [
    .of "Name" (·.name) (fun s v => { s with name := v }) (string),
    .of "Version" (·.version) (fun s v => { s with version := v }) (string),
    .of "Environment" (·.environment) (fun s v => { s with environment := v }) (string),
    .of "HTTPPort" (·.httpPort) (fun s v => { s with httpPort := v }) (int 64 "int")]

def brokerDecoder : Decoder BrokerSettings :=
  record "CamundaConfig" "config.CamundaConfig" [
    .of "BrokerAddress" (·.brokerAddress) (fun s v => { s with brokerAddress := v }) (string),
    .of "MaxJobsActive" (·.maxJobsActive) (fun s v => { s with maxJobsActive := v }) (int 64 "int"),
    .of "Timeout" (·.timeout) (fun s v => { s with timeout := v }) (int 64 "int"),
    .of "RequestTimeout" (·.requestTimeout) (fun s v => { s with requestTimeout := v }) (int 64 "int")]

def postgresDecoder : Decoder PostgresSettings :=
  record "PostgresConfig" "config.PostgresConfig" [
    .of "Host" (·.host) (fun s v => { s with host := v }) (string),
    .of "Port" (·.port) (fun s v => { s with port := v }) (int 64 "int"),
    .of "Database" (·.database) (fun s v => { s with database := v }) (string),
    .of "User" (·.user) (fun s v => { s with user := v }) (string),
    .of "Password" (·.password) (fun s v => { s with password := v }) (string),
    .of "MaxConnections" (·.maxConnections) (fun s v => { s with maxConnections := v }) (int 64 "int"),
    .of "MaxIdle" (·.maxIdle) (fun s v => { s with maxIdle := v }) (int 64 "int"),
    .of "SSLMode" (·.sslMode) (fun s v => { s with sslMode := v }) (string)]

def searchDecoder : Decoder SearchSettings :=
  record "ElasticsearchConfig" "config.ElasticsearchConfig" [
    .of "Addresses" (fun s => (s.addresses, s.spareAddresses))
      (fun s v => { s with addresses := v.1, spareAddresses := v.2 })
      (sparedNullableList (string) "" "[]string"),
    .of "Username" (·.username) (fun s v => { s with username := v }) (string),
    .of "Password" (·.password) (fun s v => { s with password := v }) (string),
    .of "URL" (·.url) (fun s v => { s with url := v }) (string)]

def redisDecoder : Decoder RedisSettings :=
  record "RedisConfig" "config.RedisConfig" [
    .of "Address" (·.address) (fun s v => { s with address := v }) (string),
    .of "Password" (·.password) (fun s v => { s with password := v }) (string),
    .of "DB" (·.db) (fun s v => { s with db := v }) (int 64 "int")]

def databaseDecoder : Decoder DatabaseSettings :=
  record "DatabaseConfig" "config.DatabaseConfig" [
    .of "Postgres" (·.postgres) (fun s v => { s with postgres := v }) postgresDecoder,
    .of "Elasticsearch" (·.elasticsearch) (fun s v => { s with elasticsearch := v }) searchDecoder,
    .of "Redis" (·.redis) (fun s v => { s with redis := v }) redisDecoder]

def workerDecoder : Decoder WorkerSettings :=
  record "WorkerConfig" "config.WorkerConfig" [
    .of "Enabled" (·.enabled) (fun s v => { s with enabled := v }) bool,
    .of "MaxJobsActive" (·.maxJobsActive) (fun s v => { s with maxJobsActive := v }) (int 64 "int"),
    .of "Timeout" (·.timeout) (fun s v => { s with timeout := v }) (int 64 "int"),
    .of "MaxRetries" (·.maxRetries) (fun s v => { s with maxRetries := v }) (int 64 "int")]

def cloudDecoder : Decoder CloudSettings :=
  record "" "struct" [
    .of "Region" (·.region) (fun s v => { s with region := v }) (string),
    .of "SES" (·.ses) (fun s v => { s with ses := v }) (record "" "struct" [
      .of "Enabled" (·.enabled) (fun s v => { s with enabled := v }) bool,
      .of "FromEmail" (·.fromEmail) (fun s v => { s with fromEmail := v }) (string)]),
    .of "SNS" (·.sns) (fun s v => { s with sns := v }) (record "" "struct" [
      .of "Enabled" (·.enabled) (fun s v => { s with enabled := v }) bool,
      .of "DefaultSMSSenderID" (·.senderId) (fun s v => { s with senderId := v }) (string)])]

def integrationDecoder : Decoder IntegrationSettings :=
  record "IntegrationConfig" "config.IntegrationConfig" [
    .of "AWS" (·.aws) (fun s v => { s with aws := v }) cloudDecoder]

def loggingDecoder : Decoder LogSettings :=
  record "LoggingConfig" "config.LoggingConfig" [
    .of "Level" (·.level) (fun s v => { s with level := v }) (string),
    .of "Format" (·.format) (fun s v => { s with format := v }) (string),
    .of "Output" (·.output) (fun s v => { s with output := v }) (string)]

def decoder : Decoder ServiceSettings :=
  record "Config" "config.Config" [
    .of "App" (·.app) (fun s v => { s with app := v }) appDecoder,
    .of "Camunda" (·.camunda) (fun s v => { s with camunda := v }) brokerDecoder,
    .of "Database" (·.database) (fun s v => { s with database := v }) databaseDecoder,
    .of "Workers" (·.workers) (fun s v => { s with workers := v })
      (nullableMap workerDecoder {} "map[string]config.WorkerConfig"),
    .of "Integrations" (·.integrations) (fun s v => { s with integrations := v }) integrationDecoder,
    .of "Logging" (·.logging) (fun s v => { s with logging := v }) loggingDecoder,
    .of "Admission" (·.admission) (fun s v => { s with admission := v }) AdmissionSettings.decoder]

end ServiceSettings

end Admissions
