import Admissions.Text.Numeral

namespace Admissions

namespace Cli

/-- The kind of value a flag takes. -/
inductive FlagKind where
  | bool
  | text
  | int
  | textMap
  deriving BEq, Repr, Inhabited

/-- A flag: its name, its one-letter form, its kind, what it is for, and its
default as written. -/
structure Flag where
  name : String
  short : Option Char := none
  kind : FlagKind
  usage : String
  defaultText : String := ""
  deriving Repr, Inhabited

/-- How a command takes its arguments. -/
inductive ArgRule where
  /-- Any arguments; at the root, an argument that names no command is refused. -/
  | free
  /-- Exactly this many. -/
  | exactly (n : Nat)
  /-- At least this many. -/
  | atLeast (n : Nat)
  /-- None at all. -/
  | none
  deriving Repr, Inhabited

/-- The shells a completion script is written for. -/
inductive Shell where
  | bash
  | zsh
  | fish
  | powerShell
  deriving Repr, Inhabited, BEq

/-- What a command does: nothing (it groups subcommands), print help on a topic,
print a shell's completion script, answer a completion request, or run the
program's action. -/
inductive Role (α : Type) where
  | group
  | help
  | script (shell : Shell)
  | complete
  | run (action : α)
  deriving Repr, Inhabited

/-- The choices a command offers for its next argument when a command line is
completed: none of its own, none and no file names either, or the commands of the
program, as the help command does. -/
inductive ArgChoices where
  | unspecified
  | noFiles
  | commands
  deriving Repr, Inhabited, BEq

/-- A command of a program. A hidden command is left out of listings, choices and
suggestions; a command with raw arguments reads no flags and takes every word after
it as an argument; `flagsInUse` adds `[flags]` to its usage line. -/
structure Command (α : Type) where
  name : String
  use : String
  short : String
  long : String := ""
  flags : List Flag := []
  persistent : List Flag := []
  args : ArgRule := .free
  role : Role α := .group
  children : List (Command α) := []
  aliases : List String := []
  hidden : Bool := false
  rawArgs : Bool := false
  flagsInUse : Bool := true
  choices : ArgChoices := .unspecified
  deriving Repr, Inhabited

/-- What a run printed, and the error it ended with. -/
structure Run where
  out : String := ""
  error : Option String := none
  deriving Repr, Inhabited

/-- What a program run gives: its exit code and its two output streams. -/
structure Outcome where
  exitCode : Nat
  stdout : String
  stderr : String
  deriving Repr, Inhabited

/-- A flag's value as read. -/
inductive FlagValue where
  | bool (b : Bool)
  | text (s : String)
  | int (i : Int)
  deriving Repr, Inhabited

/-- The flags given on a command line, by name; the last one given counts. -/
abbrev FlagValues := List (String × FlagValue)

namespace FlagValues

def text (vs : FlagValues) (name : String) (fallback : String) : String :=
  match ((vs.reverse.find? (·.1 == name)).map (·.2) : Option FlagValue) with
  | some (.text s) => s
  | _ => fallback

def int (vs : FlagValues) (name : String) (fallback : Int) : Int :=
  match ((vs.reverse.find? (·.1 == name)).map (·.2) : Option FlagValue) with
  | some (.int i) => i
  | _ => fallback

def bool (vs : FlagValues) (name : String) : Bool :=
  match ((vs.reverse.find? (·.1 == name)).map (·.2) : Option FlagValue) with
  | some (.bool b) => b
  | _ => false

end FlagValues

namespace Command

def runnable {α : Type} (c : Command α) : Bool :=
  match c.role with
  | .group => false
  | _ => true

/-- Whether a word calls a command: it is the command's name or one of its aliases. -/
def calledBy {α : Type} (c : Command α) (word : String) : Bool :=
  c.name == word || c.aliases.contains word

def isHelp {α : Type} (c : Command α) : Bool :=
  match c.role with
  | .help => true
  | _ => false

/-- Whether a command is listed among its parent's commands: it is not hidden, it
runs or has listed subcommands, and it is not the help command. -/
def listed {α : Type} : Command α → Bool
  | ⟨_, _, _, _, _, _, _, role, children, _, hidden, _, _, _⟩ =>
    if hidden then false
    else match role with
      | .help => false
      | .group => listedAny children
      | _ => true
where
  /-- Whether any of the commands is listed. -/
  listedAny : List (Command α) → Bool
    | [] => false
    | c :: rest => listed c || listedAny rest

/-- The `--help` flag of a command. -/
def helpFlag {α : Type} (c : Command α) : Flag :=
  { name := "help", short := some 'h', kind := .bool, usage := "help for " ++ c.name, defaultText := "false" }

end Command

/-- The persistent flags of the commands of a chain, root first. -/
def inheritedFlags {α : Type} (chain : List (Command α)) : List Flag :=
  (chain.map (·.persistent)).flatten

/-- The flags a command reads while commands are found: its own, its persistent
ones, and those of its ancestors. -/
def findingFlags {α : Type} (ancestors : List (Command α)) (c : Command α) : List Flag :=
  c.flags ++ c.persistent ++ inheritedFlags ancestors

/-- Whether a flag word takes the next word as its value: a long flag without `=`
that is not boolean (unknown ones included), or a short flag of two bytes without
`=` that is not boolean. -/
def takesValue (flags : List Flag) (s : String) : Bool :=
  let cs := s.toList
  if cs.contains '=' then false
  else match cs with
    | '-' :: '-' :: name =>
      match flags.find? (·.name == String.ofList name) with
      | some f => f.kind != .bool
      | none => true
    | ['-', c] =>
      if c.toNat ≥ 128 then false
      else match flags.find? (·.short == some c) with
        | some f => f.kind != .bool
        | none => true
    | _ => false

/-- The words of a command line that are not flags or flag values; a flag taking a
value that is among the last two words ends the words. -/
def stripFlags (flags : List Flag) : List String → List String
  | [] => []
  | s :: rest =>
    if s == "--" then []
    else if takesValue flags s then
      match rest with
      | _ :: more => if more.isEmpty then [] else stripFlags flags more
      | [] => []
    else if s != "" && !Text.startsWith s "-" then s :: stripFlags flags rest
    else stripFlags flags rest

/-- The words without the first occurrence of `x` that is not a flag value. -/
def withoutFirst (flags : List Flag) (x : String) : List String → List String
  | [] => []
  | s :: rest =>
    if s == "--" then s :: rest
    else if takesValue flags s then
      match rest with
      | v :: more => s :: v :: withoutFirst flags x more
      | [] => [s]
    else if !Text.startsWith s "-" && s == x then rest
    else s :: withoutFirst flags x rest

/-- Follows the words of a command line down the command tree: the chain of
commands found, root first, and the words left for the last one. -/
def findChain {α : Type} : Nat → List (Command α) → Command α → List String →
    List (Command α) × List String
  | 0, ancestors, c, words => (ancestors ++ [c], words)
  | fuel + 1, ancestors, c, words =>
    let flags := findingFlags ancestors c
    match stripFlags flags words with
    | [] => (ancestors ++ [c], words)
    | next :: _ =>
      match c.children.find? (·.calledBy next) with
      | some child => findChain fuel (ancestors ++ [c]) child (withoutFirst flags next words)
      | none => (ancestors ++ [c], words)

/-- The edit distance of two texts without regard to case, counted in the bytes
of their UTF-8 forms. -/
def editDistance (s t : String) : Nat :=
  let a := (Text.toLower s).toUTF8.toList
  let b := (Text.toLower t).toUTF8.toList
  let first := List.range (b.length + 1)
  let last := a.foldl (fun (prev : List Nat) (x : UInt8) =>
    let start := prev.headD 0 + 1
    let row := (b.zip ((prev.zip prev.tail))).foldl (fun (acc : List Nat) (y, (diag, up)) =>
      let left := acc.headD 0
      let cost := if x = y then diag else min (min up left) diag + 1
      cost :: acc) [start]
    row.reverse) first
  last.getLastD 0

/-- The commands suggested for a word: listed ones within two edits of it, or
whose names start with it. -/
def suggestions {α : Type} (c : Command α) (word : String) : List String :=
  (c.children.filter fun k =>
    k.listed && (editDistance word k.name ≤ 2 || Text.startsWith (Text.toLower k.name) (Text.toLower word))).map
    (·.name)

/-- The path of a chain: its commands' names. -/
def commandPath {α : Type} (chain : List (Command α)) : String :=
  " ".intercalate (chain.map (·.name))

/-- Finds the command a command line names: the chain and the words left, or the
refusal of a word the root cannot place, with the chain it was found under. -/
def find {α : Type} (root : Command α) (words : List String) :
    Except (String × List (Command α)) (List (Command α) × List String) :=
  let (chain, rest) := findChain (words.length + 1) [] root words
  match chain.getLast? with
  | none => .ok (chain, rest)
  | some c =>
    match c.args with
    | .free =>
      let ancestors := chain.dropLast
      let stripped := stripFlags (findingFlags ancestors c) rest
      if c.children.isEmpty || !ancestors.isEmpty then .ok (chain, rest)
      else match stripped with
        | [] => .ok (chain, rest)
        | w :: _ =>
          let hints := suggestions c w
          let hint := if hints.isEmpty then "" else
            "\n\nDid you mean this?\n" ++ String.join (hints.map fun h => "\t" ++ h ++ "\n")
          .error ("unknown command " ++ Text.quote w ++ " for " ++ Text.quote (commandPath chain) ++ hint,
            chain)
    | _ => .ok (chain, rest)

def readValue (f : Flag) (shown : String) (value : String) : Except String FlagValue :=
  let refusal (why : String) : String :=
    "invalid argument " ++ Text.quote value ++ " for " ++ Text.quote shown ++ " flag: " ++ why
  match f.kind with
  | .bool =>
    match Numeral.readBool value with
    | some b => .ok (.bool b)
    | none => .error (refusal ("strconv.ParseBool: parsing " ++ Text.quote value ++ ": invalid syntax"))
  | .int =>
    match Numeral.readInt 64 value.toList with
    | .ok i => .ok (.int i)
    | .error e => .error (refusal (Numeral.refusal "ParseInt" value e))
  | _ => .ok (.text value)

/-- How a flag is named in a refusal: with its one-letter form when it has one. -/
def shownName (f : Flag) : String :=
  match f.short with
  | some c => "-" ++ String.ofList [c] ++ ", --" ++ f.name
  | none => "--" ++ f.name

/-- The first byte of a character's UTF-8 form, read as a Latin-1 character. -/
def leadByte (c : Char) : Char :=
  let v := c.toNat
  if v < 0x80 then c
  else if v < 0x800 then Char.ofNat (0xC0 + v / 0x40)
  else if v < 0x10000 then Char.ofNat (0xE0 + v / 0x1000)
  else Char.ofNat (0xF0 + v / 0x40000)

/-- Reads the one-letter flags of a word such as `-hv`, with the words after it.
The rest of a word from `test.` on is passed over. A character past ASCII is
refused by its first byte. -/
def readShorts (flags : List Flag) (vals : FlagValues) : Nat → List Char → List String →
    Except String (FlagValues × List String)
  | 0, _, rest => .ok (vals, rest)
  | _ + 1, [], rest => .ok (vals, rest)
  | fuel + 1, c :: more, rest =>
    if "test.".toList.isPrefixOf (c :: more) then .ok (vals, rest) else
    match flags.find? (·.short == some c) with
    | none => .error ("unknown shorthand flag: " ++ Text.quoteRune (leadByte c) ++ " in -" ++ String.ofList (c :: more))
    | some f =>
      let given : Except String (String × List Char × List String) :=
        match more with
        | '=' :: v@(_ :: _) => .ok (String.ofList v, [], rest)
        | _ =>
          if f.kind == .bool then .ok ("true", more, rest)
          else if !more.isEmpty then .ok (String.ofList more, [], rest)
          else match rest with
            | v :: after => .ok (v, [], after)
            | [] => .error ("flag needs an argument: " ++ Text.quoteRune c ++ " in -" ++ String.ofList (c :: more))
      match given with
      | .error e => .error e
      | .ok (value, shorts, rest') =>
        match readValue f (shownName f) value with
        | .error e => .error e
        | .ok v => readShorts flags (vals ++ [(f.name, v)]) fuel shorts rest'

/-- Reads the flags of a command line: the values given and the arguments left. -/
def parseFlags (flags : List Flag) : Nat → FlagValues → List String → List String →
    Except String (FlagValues × List String)
  | 0, vals, args, rest => .ok (vals, args ++ rest)
  | _ + 1, vals, args, [] => .ok (vals, args)
  | fuel + 1, vals, args, s :: rest =>
    match s.toList with
    | [] | [_] => parseFlags flags fuel vals (args ++ [s]) rest
    | c :: _ =>
      if c != '-' then parseFlags flags fuel vals (args ++ [s]) rest
      else match s.toList with
        | ['-', '-'] => .ok (vals, args ++ rest)
        | '-' :: '-' :: body =>
          match body with
          | '-' :: _ | '=' :: _ => .error ("bad flag syntax: " ++ s)
          | _ =>
            let name := String.ofList (body.takeWhile (· ≠ '='))
            let inline := if body.contains '=' then some (String.ofList ((body.dropWhile (· ≠ '=')).drop 1)) else none
            match flags.find? (·.name == name) with
            | none => .error ("unknown flag: --" ++ name)
            | some f =>
              let given : Except String (String × List String) :=
                match inline with
                | some v => .ok (v, rest)
                | none =>
                  if f.kind == .bool then .ok ("true", rest)
                  else match rest with
                    | v :: after => .ok (v, after)
                    | [] => .error ("flag needs an argument: " ++ s)
              match given with
              | .error e => .error e
              | .ok (value, rest') =>
                match readValue f (shownName f) value with
                | .error e => .error e
                | .ok v => parseFlags flags fuel (vals ++ [(f.name, v)]) args rest'
        | '-' :: shorts =>
          match readShorts flags vals (shorts.length + 1) shorts rest with
          | .error e => .error e
          | .ok (vals', rest') => parseFlags flags fuel vals' args rest'
        | _ => parseFlags flags fuel vals (args ++ [s]) rest

/-- The kind name shown after a flag in help. -/
def kindText : FlagKind → String
  | .bool => ""
  | .text => "string"
  | .int => "int"
  | .textMap => "stringToString"

/-- The default shown after a flag's usage, unless it is the zero value. -/
def defaultNote (f : Flag) : String :=
  match f.kind with
  | .bool => if f.defaultText == "false" || f.defaultText.isEmpty then "" else " (default " ++ f.defaultText ++ ")"
  | .text => if f.defaultText.isEmpty then "" else " (default " ++ Text.quote f.defaultText ++ ")"
  | .int => if f.defaultText == "0" || f.defaultText.isEmpty then "" else " (default " ++ f.defaultText ++ ")"
  | .textMap => " (default " ++ (if f.defaultText.isEmpty then "[]" else f.defaultText) ++ ")"

def flagUsages (flags : List Flag) : String :=
  let sorted := flags.mergeSort fun a b => decide (a.name ≤ b.name)
  let heads := sorted.map fun f =>
    let lead := match f.short with
      | some c => "  -" ++ String.ofList [c] ++ ", --" ++ f.name
      | none => "      --" ++ f.name
    let kind := kindText f.kind
    if kind.isEmpty then lead else lead ++ " " ++ kind
  let width := heads.foldl (fun m h => max m h.length) 0
  String.join ((heads.zip sorted).map fun (h, f) =>
    h ++ String.ofList (List.replicate (width + 3 - h.length) ' ') ++ f.usage ++ defaultNote f ++ "\n")

def trimEnd (s : String) : String :=
  String.ofList ((s.toList.reverse.dropWhile fun c => c = ' ' || c = '\n' || c = '\t' || c = '\r').reverse)

/-- The flags a command reads: its own, its persistent ones and its help flag. -/
def localFlags {α : Type} (c : Command α) : List Flag :=
  let own := c.flags ++ c.persistent
  if own.any (·.name == "help") then own else own ++ [c.helpFlag]

/-- The usage text of the last command of a chain; its help flag is listed only
once the command has been run or asked for help. -/
def usageText {α : Type} (chain : List (Command α)) (withHelp : Bool := true) : String :=
  match chain.getLast? with
  | none => ""
  | some c =>
    let ancestors := chain.dropLast
    let path := commandPath chain
    let useLine :=
      (if ancestors.isEmpty then c.use else commandPath ancestors ++ " " ++ c.use) ++
        (if !c.flagsInUse || Text.contains c.use "[flags]" then "" else " [flags]")
    let hasSubs := c.children.any (·.listed)
    let padding := max 11 (c.children.foldl (fun m k => max m k.name.length) 0)
    let sorted := c.children.mergeSort fun a b => decide (a.name ≤ b.name)
    let shown := sorted.filter fun k => k.listed || k.name == "help"
    let own := if withHelp then localFlags c else c.flags ++ c.persistent
    let inherited := (inheritedFlags ancestors).filter fun f => !own.any (·.name == f.name)
    "Usage:" ++
      (if c.runnable then "\n  " ++ useLine else "") ++
      (if hasSubs then "\n  " ++ path ++ " [command]" else "") ++
      (if hasSubs then "\n\nAvailable Commands:" ++ String.join (shown.map fun k =>
        "\n  " ++ k.name ++ String.ofList (List.replicate (padding - k.name.length) ' ') ++ " " ++ k.short)
        else "") ++
      (if own.isEmpty then "" else "\n\nFlags:\n" ++ trimEnd (flagUsages own)) ++
      (if inherited.isEmpty then "" else "\n\nGlobal Flags:\n" ++ trimEnd (flagUsages inherited)) ++
      (if hasSubs then "\n\nUse \"" ++ path ++ " [command] --help\" for more information about a command." else "") ++
      "\n"

/-- The help text of the last command of a chain. -/
def helpText {α : Type} (chain : List (Command α)) : String :=
  match chain.getLast? with
  | none => ""
  | some c =>
    let about := if c.long.isEmpty then c.short else c.long
    (if about.isEmpty then "" else trimEnd about ++ "\n\n") ++
      (if c.runnable || !c.children.isEmpty then usageText chain else "")

def failed (message : String) (out : String := "") (note : String := "") : Outcome :=
  { exitCode := 1, stdout := out, stderr := "Error: " ++ message ++ "\n" ++ note ++ message ++ "\n" }

def checkArgs {α : Type} (chain : List (Command α)) (c : Command α) (args : List String) :
    Except String Unit :=
  match c.args with
  | .free => .ok ()
  | .exactly n =>
    if args.length = n then .ok ()
    else .error ("accepts " ++ toString n ++ " arg(s), received " ++ toString args.length)
  | .atLeast n =>
    if args.length ≥ n then .ok ()
    else .error ("requires at least " ++ toString n ++ " arg(s), only received " ++ toString args.length)
  | .none =>
    match args with
    | [] => .ok ()
    | a :: _ => .error ("unknown command " ++ Text.quote a ++ " for " ++ Text.quote (commandPath chain))

/-- A list of words as a refusal shows it, within brackets: each in backquotes, or
in double quotes with escapes when backquotes cannot hold it. -/
def quotedWords (ws : List String) : String :=
  "[" ++ " ".intercalate (ws.map Text.quoteRaw) ++ "]"

end Cli

end Admissions
