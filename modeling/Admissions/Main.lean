import Admissions.Cli.Program

open Admissions

/-- The text of a file, when it can be read. -/
def readIfPresent (path : String) : IO (Option String) := do
  try
    pure (some (← IO.FS.readFile path))
  catch _ =>
    pure none

/-- Runs `admissionctl`. -/
def main (args : List String) : IO UInt32 := do
  let env := Admissionctl.environmentOf ((← readIfPresent "/proc/self/environ").getD "")
  let stageName := Admissionctl.stage (← readIfPresent ".env") env
  let mut files : FileSet := []
  for path in Admissionctl.wantedPaths args stageName do
    if !(files.any (·.1 == path)) then
      match ← readIfPresent path with
      | some text => files := files ++ [(path, text)]
      | none => pure ()
  let outcome := Admissionctl.run files env args
  IO.print outcome.stdout
  IO.eprint outcome.stderr
  pure outcome.exitCode.toUInt32
