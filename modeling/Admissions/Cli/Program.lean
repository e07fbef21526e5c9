import Admissions.Cli.Run
import Admissions.Cli.Table
import Admissions.Config.Load
import Admissions.Sheet.Parse
import Admissions.Registry

namespace Admissions

namespace Admissionctl

/-- The commands that run offline. -/
inductive Task where
  | quota
  | validateSheet
  | activities
  /-- A command that needs the service's backends. -/
  | backend
  deriving Repr, Inhabited, BEq

open Cli

/-- The `--dry-run` flag of the selection commands. -/
def dryRunFlag : Flag :=
  { name := "dry-run", kind := .bool, usage := "compute the allocation without writing statuses",
    defaultText := "false" }

def root : Command Task :=
  { name := "admissionctl", use := "admissionctl",
    short := "Admission office tooling for the selection engine",
    long := "admissionctl runs the admission batch steps by hand, validates score\n" ++
      "sheets offline and inspects the configured quota and results index.",
    persistent := [
      { name := "config", kind := .text, usage := "config file (default: configs/config.yaml)" },
      { name := "log-level", kind := .text, usage := "log level (debug, info, warn, error)",
        defaultText := "warn" }],
    children := [
      { name := "select-first-pass", use := "select-first-pass",
        short := "Run the first-round selection over RECEIVED applications",
        long := "Ranks RECEIVED applications per category and applies the seat targets\n" ++
          "and the other-region cap. With --dry-run the allocation is printed and\n" ++
          "nothing is written; otherwise statuses are committed exactly as the\n" ++
          "select-first-pass worker would.",
        flags := [dryRunFlag], role := .run .backend },
      { name := "select-second-pass", use := "select-second-pass",
        short := "Run the final selection over scored FIRST_PASSED applications",
        flags := [dryRunFlag], role := .run .backend },
      { name := "validate-sheet", use := "validate-sheet <file.json>",
        short := "Check a second-round score sheet without touching the database",
        long := "Parses a score sheet exported as a JSON array of rows and prints every\n" ++
          "invalid cell, or the validated rows sorted by examination number. The\n" ++
          "first row is the header. --expected defaults to the number of non-blank\n" ++
          "data rows.",
        flags := [
          { name := "expected", kind := .int,
            usage := "number of FIRST_PASSED applicants the sheet must cover", defaultText := "0" }],
        args := .exactly 1, role := .run .validateSheet },
      { name := "import-scores", use := "import-scores <file.json>",
        short := "Import a second-round score sheet for FIRST_PASSED applicants",
        args := .exactly 1, role := .run .backend },
      { name := "quota", use := "quota", short := "Print seat targets, regional caps and score ranges",
        role := .run .quota },
      { name := "start-process", use := "start-process <bpmn-process-id>",
        short := "Start an admission process instance on Zeebe",
        flags := [
          { name := "var", kind := .textMap, usage := "string variable as key=value (repeatable)",
            defaultText := "[]" },
          { name := "vars-json", kind := .text, usage := "variables as a JSON object" }],
        args := .exactly 1, role := .run .backend },
      { name := "migrate", use := "migrate", short := "Create the applications and notifications tables",
        role := .run .backend },
      { name := "results", use := "results", short := "Query the admission results index",
        children := [
          { name := "search", use := "search",
            short := "Search indexed results by category, status or applicant name",
            flags := [
              { name := "category", kind := .text, usage := "category code or label" },
              { name := "status", kind := .text, usage := "application status, e.g. FIRST_PASSED" },
              { name := "name", kind := .text, usage := "applicant name" },
              { name := "from", kind := .int, usage := "offset of the first hit", defaultText := "0" },
              { name := "size", kind := .int, usage := "number of hits", defaultText := "20" }],
            role := .run .backend }] },
      { name := "activities", use := "activities",
        short := "List the service task catalog and check it against the worker config",
        flags := [
          { name := "registry", kind := .text, usage := "path to the activity registry",
            defaultText := "configs/activity-registry.json" }],
        role := .run .activities },
      { name := "help", use := "help [command]", short := "Help about any command",
        long := "Help provides help for any command in the application.\n" ++
          "Simply type admissionctl help [path to command] for full details.",
        role := .help, choices := .commands },
      completionCommand "admissionctl"] }

/-- Reads a file of the working directory; the refusal names the path as given. -/
def readFile (fs : FileSet) (path : String) : Except String String :=
  match fs.read? path with
  | some text => .ok text
  | none =>
    if fs.isDirectory path then .error ("read " ++ path ++ ": is a directory")
    else .error ("open " ++ path ++ ": no such file or directory")

def rangeText (r : ScoreRange) : String := r.min.toString ++ "-" ++ r.max.toString

/-- The `quota` report. -/
def quotaReport (q : QuotaConfig) : String :=
  "total seats: " ++ Text.ofInt q.totalSeats ++ "  multiplier: " ++ q.multiplier.toString ++
    "  other-region rate: " ++ q.otherRegionRate.toString ++ "\n\n" ++
    TextTable.render ["Category", "Seats", "First-round target", "Regional cap", "Interview", "NCS", "Coding"]
      (Category.all.map fun c =>
        let target := q.firstRoundTarget c
        let r := q.rangesFor c
        [c.label, Text.ofInt (q.seatsOf c), Text.ofInt target, Text.ofInt (q.regionalCap target),
          rangeText r.depthInterview, rangeText r.ncs, (r.codingTest.map rangeText).getD "-"])

/-- The number of data rows with a cell that is not blank: below the header, a row
counts once, at its first cell that is not blank. -/
def dataRows (g : Grid) : Nat :=
  ((List.range g.length).drop 1).countP fun r => (g.getD r []).any (·.kind != .blank)

def scoreText : Option Decimal → String
  | some d => d.toString
  | none => "-"

/-- The report of a sheet with bad cells: the code and a table of the cells, and the
sheet refused. -/
def sheetRejected (cells : List CellError) : Run :=
  let code := (AdmissionError.sheet cells).code
  { out := code ++ " " ++ toString cells.length ++ " invalid cell(s)\n\n" ++
      TextTable.render ["Cell", "Kind", "Reason"]
        (cells.map fun c => [c.cell, c.fault.code, c.reason]),
    error := some ("score sheet rejected: " ++ code) }

/-- The report of a valid sheet: its rows as a table, and how many there are. -/
def sheetRows (rows : List ScoreSheetRow) : Run :=
  { out := TextTable.render ["Row", "Exam no", "Name", "Category", "Present", "Interview", "NCS", "Coding"]
      (rows.map fun r =>
        [toString (r.sheetRow + 1), Text.ofInt r.examinationNumber, r.name, Category.labelOf r.category,
          if r.present then "yes" else "no show", scoreText r.depthInterview, scoreText r.ncs,
          scoreText r.codingTest]) ++
      "\n" ++ toString rows.length ++ " row(s) valid\n" }

/-- Checks a sheet against the number of applicants it must list; a number of zero or
less stands for the sheet's own count of data rows. -/
def runValidateSheet (grid : Grid) (expected : Int) (q : QuotaConfig) : Run :=
  let expected := if expected ≤ 0 then (dataRows grid : Int) else expected
  match Sheet.parse grid expected q with
  | .error (.sheet cells) => sheetRejected cells
  | .error e => { error := some e.message }
  | .ok rows => sheetRows rows

/-- The `validate-sheet` run: the sheet is read before the seat policy is built. -/
def validateSheet (fs : FileSet) (quota : Except String QuotaConfig) (expected : Int) (path : String) : Run :=
  match readFile fs path with
  | .error e => { error := some e }
  | .ok text =>
    match Grid.decoder.runText [] text (some "Grid") with
    | .error e => { error := some ("parse sheet " ++ path ++ ": " ++ e.message) }
    | .ok grid =>
      match quota with
      | .error e => { error := some e }
      | .ok q => runValidateSheet grid expected q

/-- The `activities` run. -/
def activities (fs : FileSet) (s : ServiceSettings) (path : String) : Run :=
  match readFile fs path with
  | .error e => { error := some e }
  | .ok text =>
    match ActivityRegistry.decoder.runText {} text with
    | .error e => { error := some ("parse registry " ++ path ++ ": " ++ e.message) }
    | .ok reg =>
      let workers := s.workers.getD []
      let table := TextTable.render ["Task type", "Name", "Timeout", "Retries", "Worker"]
        (reg.activities.map fun a =>
          let state := match workers.find? (·.1 == a.taskType) with
            | none => "not configured"
            | some (_, w) =>
              if w.enabled then "enabled (max " ++ Text.ofInt w.maxJobsActive ++ " jobs)" else "disabled"
          [a.taskType, a.displayName, a.timeout, Text.ofInt a.retries, state])
      let known := (workers.map (·.1)).mergeSort fun a b => decide (a ≤ b)
      { out := table, error := reg.validate known }

/-- Loads the settings every running command needs. -/
def prepare (fs : FileSet) (env : Environment) (vals : FlagValues) : Except String ServiceSettings :=
  let path := vals.text "config" ""
  let loaded := if path.isEmpty then ServiceSettings.load fs env else ServiceSettings.loadFile fs env path
  match loaded with
  | .ok s => .ok s
  | .error e => .error ("load config: " ++ e)

def act (fs : FileSet) (s : ServiceSettings) (task : Task) (vals : FlagValues) (args : List String) : Run :=
  match task with
  | .quota =>
    match s.admission.quota with
    | .ok q => { out := quotaReport q }
    | .error e => { error := some e }
  | .validateSheet => validateSheet fs s.admission.quota (vals.int "expected" 0) (args.headD "")
  | .activities => activities fs s (vals.text "registry" "configs/activity-registry.json")
  | .backend => { error := some "this command needs the service's backends" }

/-- Runs `admissionctl` on a command line, in a working directory and environment. -/
def run (fs : FileSet) (env : Environment) (args : List String) : Outcome :=
  execute root (prepare fs env) (act fs) args

/-- The command a command line names below the root, when it is one that needs the
service's backends and help is not asked for. -/
def needsBackends (args : List String) : Option String :=
  if args.contains "-h" || args.contains "--help" then none
  else match find root args with
    | .ok (_ :: top :: _, _) =>
      if ["select-first-pass", "select-second-pass", "import-scores", "start-process", "migrate",
          "results"].contains top.name then some top.name else none
    | _ => none

/-- The variables of an environment block: `NAME=value` entries separated by NUL
characters. -/
def environmentOf (block : String) : Environment :=
  ((block.splitOn (String.ofList [Char.ofNat 0])).filter (!·.isEmpty)).map fun entry =>
    let cs := entry.toList
    (String.ofList (cs.takeWhile (· ≠ '=')), String.ofList ((cs.dropWhile (· ≠ '=')).drop 1))

/-- The stage whose settings file is merged: `APP_ENVIRONMENT` once the `.env`
text is read, or `development`. -/
def stage (dotenv : Option String) (env : Environment) : String :=
  let files : FileSet := match dotenv with
    | some t => [(".env", t)]
    | none => []
  match (ServiceSettings.loadDotenv files env).lookup "APP_ENVIRONMENT" with
  | some v => if v.isEmpty then "development" else v
  | none => "development"

/-- The files a command line may read: the `.env` file, the settings files of the
search path for the base name and for the stage, the default registry, and every
word of the command line (a flag's value after `=` included). -/
def wantedPaths (args : List String) (stageName : String) : List String :=
  let candidates (name : String) : List String :=
    ServiceSettings.searchPath.flatMap fun dir =>
      ServiceSettings.extensions.map (fun ext => dir ++ "/" ++ name ++ "." ++ ext) ++ [dir ++ "/" ++ name]
  [".env"] ++ candidates "config" ++ candidates ("config." ++ stageName) ++
    ["configs/activity-registry.json"] ++
    args.map fun a => if Text.startsWith a "-" && a.toList.contains '='
      then String.ofList ((a.toList.dropWhile (· ≠ '=')).drop 1) else a

end Admissionctl

end Admissions
