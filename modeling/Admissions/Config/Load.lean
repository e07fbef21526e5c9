import Admissions.Config.Service
import Admissions.Yaml.Decode

namespace Admissions

abbrev FileSet := List (String × String)

namespace FileSet

/-- The parts of a relative path with `.` dropped and `..` taken back; `none` for
a path that leaves the directory. -/
def clean (path : String) : Option (List String) :=
  ((path.splitOn "/").filter fun p => !p.isEmpty && p != ".").foldl (fun acc p =>
    match acc with
    | none => none
    | some parts =>
      if p == ".." then (if parts.isEmpty then none else some parts.dropLast)
      else some (parts ++ [p])) (some [])

def read? (fs : FileSet) (path : String) : Option String :=
  match clean path with
  | none => none
  | some parts => (fs.find? fun (k, _) => clean k == some parts).map (·.2)

/-- Whether a path names a directory: some file lies under it. -/
def isDirectory (fs : FileSet) (path : String) : Bool :=
  match clean path with
  | none => false
  | some parts =>
    fs.any fun (k, _) => match clean k with
      | some kp => parts.isPrefixOf kp && kp.length > parts.length
      | none => false

end FileSet

namespace ServiceSettings

/-- The extensions a settings file may have, in the order they are tried. -/
def extensions : List String :=
  ["json", "toml", "yaml", "yml", "properties", "props", "prop", "hcl", "tfvars", "dotenv", "env", "ini"]

def searchPath : List String := ["configs", "../../configs", "."]

/-- The first settings file of a name in the search path: with a known extension,
or else with none. -/
def findFile (fs : FileSet) (name : String) : Option (String × String) :=
  searchPath.findSome? fun dir =>
    let candidates := extensions.map (fun ext => dir ++ "/" ++ name ++ "." ++ ext) ++ [dir ++ "/" ++ name]
    candidates.findSome? fun p => (fs.read? p).map fun text => (p, text)

/-- The environment after the `.env` file of the directory is read, when it reads. -/
def loadDotenv (fs : FileSet) (env : Environment) : Environment :=
  match fs.read? ".env" with
  | none => env
  | some text =>
    match Dotenv.read text with
    | some vars => env.addMissing vars
    | none => env

/-- Reads a settings file as a table with lower-cased keys; the YAML report of a
text that does not read. -/
def readFile (text : String) : Except String (List (String × ConfigValue)) :=
  match Yaml.readTable text with
  | .ok t =>
    match ConfigValue.lowerKeys (.table t) with
    | .table t' => .ok t'
    | _ => .ok []
  | .error e => .error ("While parsing config: " ++ e)

def finish (env : Environment) (file : List (String × ConfigValue)) : Except String ServiceSettings :=
  let settled := SettingLayers.settled { file, env } SettingReader.serviceKeys
  let (s, errs) := SettingReader.service "" (.table settled) {}
  if !errs.isEmpty then .error ("failed to unmarshal config: " ++ SettingReader.report errs)
  else
    let s := withSecrets env s.withDefaults
    match s.validate with
    | .error e => .error ("invalid configuration: " ++ e)
    | .ok () => .ok s

def loadFile (fs : FileSet) (env : Environment) (path : String) : Except String ServiceSettings :=
  let env := loadDotenv fs env
  let refusal (why : String) : String := "failed to read config file " ++ path ++ ": " ++ why
  match fs.read? path with
  | none =>
    if fs.isDirectory path then .error (refusal ("read " ++ path ++ ": is a directory"))
    else .error (refusal ("open " ++ path ++ ": no such file or directory"))
  | some text =>
    match readFile text with
    | .error e => .error (refusal e)
    | .ok t => finish env t

/-- Loads the settings from the base file and the file of the environment. -/
def load (fs : FileSet) (env : Environment) : Except String ServiceSettings :=
  let env := loadDotenv fs env
  let base : Except String (List (String × ConfigValue)) :=
    match findFile fs "config" with
    | none => .ok []
    | some (_, text) =>
      match readFile text with
      | .error e => .error ("error reading base config: " ++ e)
      | .ok t => .ok t
  match base with
  | .error e => .error e
  | .ok t =>
    let stage := match env.lookup "APP_ENVIRONMENT" with
      | some v => if v.isEmpty then "development" else v
      | none => "development"
    let t := match findFile fs ("config." ++ stage) with
      | none => t
      | some (_, text) =>
        match readFile text with
        | .ok extra => ConfigValue.mergeEntries t extra
        | .error _ => t
    finish env t

end ServiceSettings

end Admissions
