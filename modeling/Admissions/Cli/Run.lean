import Admissions.Cli.Complete
import Admissions.Cli.Shell.Bash
import Admissions.Cli.Shell.Zsh
import Admissions.Cli.Shell.Fish
import Admissions.Cli.Shell.PowerShell

namespace Admissions

namespace Cli

/-- A shell's completion script for a program, with the choices' descriptions or
without them. -/
def shellScript (shell : Shell) (program : String) (descriptions : Bool) : String :=
  let request := if descriptions then "__complete" else "__completeNoDesc"
  match shell with
  | .bash => ShellScript.bash program request
  | .zsh => ShellScript.zsh program request
  | .fish => ShellScript.fish program request
  | .powerShell => ShellScript.powerShell program request

/-- The answer to a completion request: the choices, one per line (without their
descriptions when asked so, only their first line, trimmed), then the directive. -/
def completionOutcome (c : Completion) (descriptions : Bool) : Outcome :=
  let line (choice : String) : String :=
    let choice := if descriptions then choice else (choice.splitOn "\t").headD ""
    Text.trimSpace ((choice.splitOn "\n").headD "") ++ "\n"
  { exitCode := 0,
    stdout := String.join (c.choices.map line) ++ ":" ++ toString c.directive ++ "\n",
    stderr := (match c.error with
      | some e => "[Debug] [Error] " ++ e ++ "\n"
      | none => "") ++
      "Completion ended with directive: " ++ directiveText c.directive ++ "\n" }

/-- Runs a program on a command line. `prepare` readies what every command that
runs needs, from the flags; `act` runs a command's action. -/
def execute {α σ : Type} (root : Command α) (prepare : FlagValues → Except String σ)
    (act : σ → α → FlagValues → List String → Run) (words : List String) : Outcome :=
  let calledAs := (stripFlags (findingFlags [] root) words).headD ""
  let tree := if (requestCommand : Command α).calledBy calledAs
    then { root with children := root.children ++ [requestCommand] } else root
  match find tree words with
  | .error (e, chain) =>
    failed e "" ("Run '" ++ commandPath chain ++ " --help' for usage.\n")
  | .ok (chain, rest) =>
    match chain.getLast? with
    | none => { exitCode := 0, stdout := "", stderr := "" }
    | some c =>
      let flags := localFlags c ++ inheritedFlags chain.dropLast
      let parsed := if c.rawArgs then .ok ([], rest) else parseFlags flags (rest.length + 1) [] [] rest
      match parsed with
      | .error e => failed e
      | .ok (vals, args) =>
        if vals.bool "help" || !c.runnable then { exitCode := 0, stdout := helpText chain, stderr := "" }
        else match checkArgs chain c args with
          | .error e => failed e
          | .ok () =>
            match prepare vals with
            | .error e => failed e
            | .ok ctx =>
              match c.role with
              | .group => { exitCode := 0, stdout := helpText chain, stderr := "" }
              | .help =>
                match find root args with
                | .ok (target, _) => { exitCode := 0, stdout := helpText target, stderr := "" }
                | .error _ =>
                  { exitCode := 0, stdout := "",
                    stderr := "Unknown help topic " ++ quotedWords args ++ "\n" ++ usageText [root] false }
              | .script shell =>
                { exitCode := 0, stdout := shellScript shell root.name !(vals.bool "no-descriptions"),
                  stderr := "" }
              | .complete =>
                completionOutcome (complete tree args) (calledAs != "__completeNoDesc")
              | .run a =>
                let r := act ctx a vals args
                match r.error with
                | some e => failed e r.out
                | none => { exitCode := 0, stdout := r.out, stderr := "" }

end Cli

end Admissions
