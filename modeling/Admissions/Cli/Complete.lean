import Admissions.Cli.Command

namespace Admissions

namespace Cli

/-- The directives a completion ends with, as bits: an error, no space after the
choice, no file names, file names filtered by extension, directories only, and
the choices kept in their order. -/
def directiveNames : List (Nat × String) :=
  [(1, "ShellCompDirectiveError"), (2, "ShellCompDirectiveNoSpace"), (4, "ShellCompDirectiveNoFileComp"),
    (8, "ShellCompDirectiveFilterFileExt"), (16, "ShellCompDirectiveFilterDirs"),
    (32, "ShellCompDirectiveKeepOrder")]

/-- A directive by the names of its bits; `ShellCompDirectiveDefault` when none is set. -/
def directiveText (d : Nat) : String :=
  if d ≥ 64 then "ERROR: unexpected ShellCompDirective value: " ++ toString d
  else
    match (directiveNames.filter fun (bit, _) => d / bit % 2 == 1).map (·.2) with
    | [] => "ShellCompDirectiveDefault"
    | names => ", ".intercalate names

/-- The directive of no file names. -/
def noFileComp : Nat := 4

/-- The directive of no space after the choice. -/
def noSpace : Nat := 2

/-- What a completion request answers: the choices, the directive, and the error
met on the way. -/
structure Completion where
  choices : List String := []
  directive : Nat := 0
  error : Option String := none
  deriving Repr, Inhabited

/-- A list of words as messages show it: in brackets, separated by blanks. -/
def wordList (ws : List String) : String := "[" ++ " ".intercalate ws ++ "]"

/-- Whether a word is a flag with a name: two dashes and at least one more byte,
or one dash and anything but a dash. -/
def isFlagWord (w : String) : Bool :=
  match w.toList with
  | '-' :: '-' :: _ => w.utf8ByteSize ≥ 3
  | '-' :: c :: _ => c ≠ '-'
  | _ => false

/-- The one-letter name at the end of a text, read as the last byte of its UTF-8
form: a character past ASCII gives no letter a flag can have. -/
def lastLetter (s : String) : String :=
  match s.toList.getLast? with
  | some c => if c.toNat < 128 then String.singleton c else "�"
  | none => ""

/-- The flag of a command named by a long name, or by a one-byte short name. -/
def flagNamed (flags : List Flag) (name : String) : Option Flag :=
  match name.toList with
  | [c] => if c.toNat < 128 then flags.find? (·.short == some c) else none
  | _ => flags.find? (·.name == name)

/-- Whether the last word is a flag's value, and which flag: the flag (none when
the word is no flag value), the words before with the flag's own word taken out,
the word to complete, and the refusal of a flag the command does not have. -/
def flagBeingCompleted (command : String) (rawArgs : Bool) (flags : List Flag)
    (args : List String) (last : String) :
    Option Flag × List String × String × Option String :=
  let equalForm : Option (String × String) :=
    match last.toList with
    | '-' :: _ =>
      let cs := last.toList
      if cs.contains '=' then
        let before := String.ofList (cs.takeWhile (· ≠ '='))
        let after := String.ofList ((cs.dropWhile (· ≠ '=')).drop 1)
        let name := if Text.startsWith before "--" then String.ofList (before.toList.drop 2)
          else lastLetter before
        some (name, after)
      else none
    | _ => some ("", last)
  if rawArgs then (none, args, last, none) else
  match equalForm with
  | none => (none, args, last, none)
  | some (name, word) =>
    let withEqual := last.toList.head? == some '-'
    let (name, before) : String × List String :=
      if !name.isEmpty then (name, args)
      else match args.getLast? with
        | some prev =>
          if isFlagWord prev && !prev.toList.contains '=' then
            (if Text.startsWith prev "--" then String.ofList (prev.toList.drop 2) else lastLetter prev,
              args.dropLast)
          else ("", args)
        | none => ("", args)
    if name.isEmpty then (none, before, word, none)
    else match flagNamed flags name with
      | none =>
        (none, args, last, some ("Subcommand '" ++ command ++ "' does not support flag '" ++ name ++ "'"))
      | some f =>
        if !withEqual && f.kind == .bool then (none, args, word, none)
        else (some f, before, word, none)

/-- The choices for a flag's name: its long form, and its short form when it has
one, each when it starts with the word, with the flag's usage. -/
def flagChoices (word : String) (f : Flag) : List String :=
  let long := "--" ++ f.name
  (if Text.startsWith long word then [long ++ "\t" ++ f.usage] else []) ++
    match f.short with
    | some c =>
      let short := "-" ++ String.singleton c
      if Text.startsWith short word then [short ++ "\t" ++ f.usage] else []
    | none => []

def sortedFlags (flags : List Flag) : List Flag := flags.mergeSort fun a b => decide (a.name ≤ b.name)

/-- The choices for a subcommand's name: every listed subcommand (and, under the
root, the help command) whose name starts with the word, sorted by name, and
whether there was any such command to offer. -/
def commandChoices {α : Type} (atRoot : Bool) (c : Command α) (word : String) : List String × Bool :=
  let offered := (c.children.mergeSort fun a b => decide (a.name ≤ b.name)).filter fun k =>
    k.listed || (atRoot && k.isHelp && !k.hidden)
  ((offered.filter fun k => Text.startsWith k.name word).map fun k => k.name ++ "\t" ++ k.short,
    !offered.isEmpty)

/-- The choices a command offers of its own for its next argument, with the
directive they come with; `tree` is the whole program, for the help command's
choices. -/
def ownChoices {α : Type} (tree c : Command α) (args : List String) (word : String) (directive : Nat) :
    List String × Nat :=
  match c.choices with
  | .unspecified => ([], directive)
  | .noFiles => ([], noFileComp)
  | .commands =>
    match find tree args with
    | .error _ => ([], noFileComp)
    | .ok (chain, _) =>
      let target := chain.getLastD tree
      ((commandChoices (chain.length ≤ 1) target word).1, noFileComp)

/-- The flag of a completion command that leaves the descriptions out. -/
def noDescriptionsFlag : Flag :=
  { name := "no-descriptions", kind := .bool, usage := "disable completion descriptions",
    defaultText := "false" }

/-- The command printing one shell's completion script for a program. -/
def scriptCommand {α : Type} (program : String) (shell : Shell) : Command α :=
  let (name, long) : String × String := match shell with
    | .bash => ("bash",
      "Generate the autocompletion script for the bash shell.\n\n" ++
      "This script depends on the 'bash-completion' package.\n" ++
      "If it is not installed already, you can install it via your OS's package manager.\n\n" ++
      "To load completions in your current shell session:\n\n" ++
      "\tsource <(" ++ program ++ " completion bash)\n\n" ++
      "To load completions for every new session, execute once:\n\n" ++
      "#### Linux:\n\n" ++
      "\t" ++ program ++ " completion bash > /etc/bash_completion.d/" ++ program ++ "\n\n" ++
      "#### macOS:\n\n" ++
      "\t" ++ program ++ " completion bash > $(brew --prefix)/etc/bash_completion.d/" ++ program ++ "\n\n" ++
      "You will need to start a new shell for this setup to take effect.\n")
    | .zsh => ("zsh",
      "Generate the autocompletion script for the zsh shell.\n\n" ++
      "If shell completion is not already enabled in your environment you will need\n" ++
      "to enable it.  You can execute the following once:\n\n" ++
      "\techo \"autoload -U compinit; compinit\" >> ~/.zshrc\n\n" ++
      "To load completions in your current shell session:\n\n" ++
      "\tsource <(" ++ program ++ " completion zsh)\n\n" ++
      "To load completions for every new session, execute once:\n\n" ++
      "#### Linux:\n\n" ++
      "\t" ++ program ++ " completion zsh > \"$\x7bfpath[1]\x7d/_" ++ program ++ "\"\n\n" ++
      "#### macOS:\n\n" ++
      "\t" ++ program ++ " completion zsh > $(brew --prefix)/share/zsh/site-functions/_" ++ program ++ "\n\n" ++
      "You will need to start a new shell for this setup to take effect.\n")
    | .fish => ("fish",
      "Generate the autocompletion script for the fish shell.\n\n" ++
      "To load completions in your current shell session:\n\n" ++
      "\t" ++ program ++ " completion fish | source\n\n" ++
      "To load completions for every new session, execute once:\n\n" ++
      "\t" ++ program ++ " completion fish > ~/.config/fish/completions/" ++ program ++ ".fish\n\n" ++
      "You will need to start a new shell for this setup to take effect.\n")
    | .powerShell => ("powershell",
      "Generate the autocompletion script for powershell.\n\n" ++
      "To load completions in your current shell session:\n\n" ++
      "\t" ++ program ++ " completion powershell | Out-String | Invoke-Expression\n\n" ++
      "To load completions for every new session, add the output of the above command\n" ++
      "to your powershell profile.\n")
  { name, use := name, short := "Generate the autocompletion script for " ++ name, long,
    flags := [noDescriptionsFlag], args := .none, role := .script shell,
    flagsInUse := shell != .bash, choices := .noFiles }

def completionCommand {α : Type} (program : String) : Command α :=
  { name := "completion", use := "completion",
    short := "Generate the autocompletion script for the specified shell",
    long := "Generate the autocompletion script for " ++ program ++ " for the specified shell.\n" ++
      "See each sub-command's help for details on how to use the generated script.\n",
    args := .none, choices := .noFiles,
    children := [.bash, .zsh, .fish, .powerShell].map (scriptCommand program) }

/-- The hidden command through which a completion script asks for choices; called
by its alias, it leaves the descriptions out. -/
def requestCommand {α : Type} : Command α :=
  { name := "__complete", use := "__complete [command-line]",
    short := "Request shell completion choices for the specified command-line",
    long := "__complete is a special command that is used by the shell completion logic\n" ++
      "to request completion choices for the specified command-line.",
    aliases := ["__completeNoDesc"], hidden := true, rawArgs := true, flagsInUse := false,
    args := .atLeast 1, role := .complete }

/-- Completes a command line of a program: `args` are the words after the request,
the last one being the word to complete. -/
def complete {α : Type} (tree : Command α) (args : List String) : Completion :=
  let toComplete := args.getLastD ""
  let trimmed := args.dropLast
  match find tree trimmed with
  | .error _ => { error := some ("Unable to find a command for arguments: " ++ wordList trimmed) }
  | .ok (chain, found) =>
    let c := chain.getLastD tree
    let atRoot := chain.length ≤ 1
    let inherited := inheritedFlags chain.dropLast
    let flags := localFlags c ++ inherited
    let (flag, finalArgs, word, flagError) := flagBeingCompleted c.name c.rawArgs flags found toComplete
    let parsed : Except String (FlagValues × List String) :=
      if c.rawArgs then .ok ([], finalArgs)
      else parseFlags flags (finalArgs.length + 1) [] [] finalArgs
    match parsed with
    | .error e =>
      { error := some ("Error while parsing flags from args " ++ wordList finalArgs ++ ": " ++ e) }
    | .ok (vals, positional) =>
      let withDash : Nat :=
        if c.rawArgs then 0
        else match parseFlags flags (finalArgs.length + 2) [] [] (finalArgs ++ ["--"]) with
          | .ok (_, more) => more.length
          | .error _ => 0
      let realCount := if c.rawArgs then 0 else positional.length
      let flagCompletion := !(withDash > realCount)
      match flagError.filter fun _ => flagCompletion with
      | some e => { error := some e }
      | none =>
      if !c.rawArgs && vals.any (·.1 == "help") then { directive := noFileComp } else
      let finalArgs := if c.rawArgs then finalArgs else positional
      let given := vals.map (·.1)
      let offer (f : Flag) : List String := if given.contains f.name then [] else flagChoices word f
      if flag.isNone && word.toList.head? == some '-' && !word.toList.contains '=' && flagCompletion then
        let choices := (sortedFlags inherited).flatMap offer ++ (sortedFlags (localFlags c)).flatMap offer
        let directive := match choices with
          | [one] => if one.toList.getLast? == some '=' then noSpace else noFileComp
          | _ => noFileComp
        if !c.rawArgs then { choices, directive }
        else
          let (more, directive) := ownChoices tree c finalArgs word directive
          { choices := choices ++ more, directive }
      else
        let (choices, directive) : List String × Nat :=
          if flag.isSome then ([], 0)
          else
            let localGiven := (c.flags.map (·.name) ++ ["help"]).any given.contains
            if finalArgs.isEmpty && !localGiven then
              let (offered, any) := commandChoices atRoot c word
              (offered, if any then noFileComp else 0)
            else ([], 0)
        if flag.isSome && flagCompletion then { choices, directive }
        else
          let (more, directive) := ownChoices tree c finalArgs word directive
          { choices := choices ++ more, directive }

end Cli

end Admissions
