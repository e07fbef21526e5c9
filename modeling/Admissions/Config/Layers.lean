import Admissions.Config.Value

namespace Admissions

/-- The variables of a process: names bound to values, the first binding of a name
counting. -/
abbrev Environment := List (String × String)

namespace Environment

/-- The value of a variable, when it is set. -/
def lookup (env : Environment) (name : String) : Option String :=
  (env.find? (·.1 == name)).map (·.2)

/-- The value of a variable; empty when it is not set. -/
def get (env : Environment) (name : String) : String := (env.lookup name).getD ""

/-- Sets the variables that are not set yet. -/
def addMissing (env : Environment) (vars : List (String × String)) : Environment :=
  env ++ vars.filter fun (k, _) => (env.lookup k).isNone

end Environment

namespace ShellExpansion

def isSpecial (c : Char) : Bool := "*#$@!?-0123456789".toList.contains c

def isNameChar (c : Char) : Bool :=
  c = '_' || ('0' ≤ c && c ≤ '9') || ('a' ≤ c && c ≤ 'z') || ('A' ≤ c && c ≤ 'Z')

/-- The index of the first closing brace. -/
def closeIndex : List Char → Nat → Option Nat
  | [], _ => none
  | c :: rest, i => if c = '\x7d' then some i else closeIndex rest (i + 1)

/-- The variable named after a `$`, and how many characters the name takes. A
braced name that is empty or unclosed names nothing but still takes its
characters; no name at all takes none. -/
def nameAfter (cs : List Char) : List Char × Nat :=
  match cs with
  | '\x7b' :: rest =>
    match closeIndex rest 1 with
    | some i => if i = 1 then ([], 2) else (rest.take (i - 1), i + 1)
    | none => ([], 1)
  | c :: _ =>
    if isSpecial c then ([c], 1)
    else
      let n := (cs.takeWhile isNameChar).length
      (cs.take n, n)
  | [] => ([], 0)

/-- Expands `$name` and `$\x7bname\x7d` in a text; `fuel` bounds the characters read. -/
def expandChars (lookup : String → String) : Nat → List Char → List Char
  | 0, cs => cs
  | _ + 1, [] => []
  | fuel + 1, '$' :: rest =>
    match rest with
    | [] => ['$']
    | _ =>
      let (name, width) := nameAfter rest
      if name.isEmpty && width > 0 then expandChars lookup fuel (rest.drop width)
      else if name.isEmpty then '$' :: expandChars lookup fuel rest
      else (lookup (String.ofList name)).toList ++ expandChars lookup fuel (rest.drop width)
  | fuel + 1, c :: rest => c :: expandChars lookup fuel rest

/-- Expands the variables of a text; an unset variable is empty. -/
def expand (env : Environment) (s : String) : String :=
  String.ofList (expandChars env.get (s.length + 1) s.toList)

end ShellExpansion

namespace Dotenv

def isSpace (c : Char) : Bool :=
  c = '\t' || c = Char.ofNat 11 || c = Char.ofNat 12 || c = '\r' || c = ' ' ||
    c = Char.ofNat 0x85 || c = Char.ofNat 0xA0

/-- Drops the white space (any Unicode white space) and comment lines before a
statement; `none` at the end. -/
def statementStart (fuel : Nat) (cs : List Char) : Option (List Char) :=
  match fuel, cs.dropWhile Text.isSpace with
  | _, [] => none
  | 0, rest => some rest
  | fuel + 1, '#' :: rest =>
    match rest.dropWhile (· ≠ '\n') with
    | [] => none
    | more => statementStart fuel more
  | _, rest => some rest

/-- A byte that may stand in a variable name when it is read as a Latin-1
character: a letter or a number of that range, or one of its two blanks. -/
def isHighKeyByte (b : Nat) : Bool :=
  b = 0x85 || b = 0xA0 || b = 0xAA || b = 0xB2 || b = 0xB3 || b = 0xB5 || b = 0xB9 ||
    b = 0xBA || (0xBC ≤ b && b ≤ 0xBE) || (0xC0 ≤ b && b ≤ 0xFF && b ≠ 0xD7 && b ≠ 0xF7)

/-- A character that may stand in a variable name. Names are checked byte by byte,
so a character past ASCII passes only when every byte of its UTF-8 form does. -/
def isKeyChar (c : Char) : Bool :=
  if c.toNat < 128 then c.isAlphanum || c = '_' || c = '.'
  else (String.singleton c).toUTF8.toList.all fun b => isHighKeyByte b.toNat

/-- Splits a statement at the `=` or `:` after its name: the name and what follows,
its leading blanks removed; `none` for a character that may not stand in a name.
A leading `export` is dropped when a blank follows it. -/
def splitName (cs : List Char) : Option (String × List Char) :=
  let cs := match cs with
    | 'e' :: 'x' :: 'p' :: 'o' :: 'r' :: 't' :: c :: rest =>
      if isSpace c then (c :: rest).dropWhile isSpace else cs
    | _ => cs
  let rec go (acc : List Char) : List Char → Option (List Char × List Char)
    | [] => some ([], acc.reverse)
    | c :: rest =>
      if isSpace c then go (c :: acc) rest
      else if c = '=' || c = ':' then some (acc.reverse, rest)
      else if isKeyChar c then go (c :: acc) rest
      else none
  match go [] cs with
  | none => none
  | some (key, rest) =>
    let key := (key.reverse.dropWhile isSpace).reverse
    some (String.ofList key, rest.dropWhile isSpace)

def isVarChar (c : Char) : Bool := ('A' ≤ c && c ≤ 'Z') || c.isDigit || c = '_'

/-- What a reference takes after its dollar: an optional `(`, an optional opening
brace, a name of capitals, digits and underscores, and an optional closing brace;
returns the characters taken, the name, and what follows. -/
def reference (rest : List Char) : List Char × List Char × List Char :=
  let p1 := if rest.head? == some '(' then ['('] else []
  let r1 := rest.drop p1.length
  let p2 := if r1.head? == some '\x7b' then ['\x7b'] else []
  let r2 := r1.drop p2.length
  let name := r2.takeWhile isVarChar
  let r3 := r2.drop name.length
  let p3 := if r3.head? == some '\x7d' then ['\x7d'] else []
  (p1 ++ p2 ++ name ++ p3, name, r3.drop p3.length)

/-- Expands references in a value from the variables the file has set so far (the
process environment is not consulted, so any other name is empty); a reference
with no name stays as written, and a backslash before the dollar keeps the
reference as written without the backslash. `fuel` bounds the characters read. -/
def expandVars (vars : List (String × String)) : Nat → List Char → List Char
  | 0, cs => cs
  | _ + 1, [] => []
  | fuel + 1, '\\' :: '$' :: rest =>
    let (taken, _, after) := reference rest
    '$' :: taken ++ expandVars vars fuel after
  | fuel + 1, '$' :: rest =>
    let (taken, name, after) := reference rest
    if name.isEmpty then '$' :: taken ++ expandVars vars fuel after
    else
      let key := String.ofList name
      let value := ((vars.reverse.find? (·.1 == key)).map (·.2)).getD ""
      value.toList ++ expandVars vars fuel after
  | fuel + 1, c :: rest => c :: expandVars vars fuel rest

def expandValue (vars : List (String × String)) (cs : List Char) : List Char :=
  expandVars vars (cs.length + 1) cs

/-- Undoes the escapes of a double-quoted value: `\n` and `\r` stand for line
breaks, and a backslash before any other character but `$` is dropped. -/
def unescape : List Char → List Char
  | [] => []
  | '\\' :: 'n' :: rest => '\n' :: unescape rest
  | '\\' :: 'r' :: rest => '\r' :: unescape rest
  | '\\' :: '$' :: rest => '\\' :: '$' :: unescape rest
  | '\\' :: c :: rest => c :: unescape rest
  | c :: rest => c :: unescape rest

/-- The end of a quoted value: the index of the first quote not after a backslash. -/
def closingQuote (q : Char) : Nat → Char → List Char → Option Nat
  | _, _, [] => none
  | i, prev, c :: rest => if c = q && prev ≠ '\\' then some i else closingQuote q (i + 1) c rest

/-- Reads a value: quoted up to its closing quote, or else the rest of the line
without a trailing comment (a `#` after a blank) and blanks. -/
def readValue (vars : List (String × String)) (cs : List Char) :
    Option (String × List Char) :=
  match cs with
  | q :: rest =>
    if q = '"' || q = '\'' then
      match closingQuote q 1 q rest with
      | none => none
      | some i =>
        let inner := (((cs.take i).dropWhile (· = q)).reverse.dropWhile (· = q)).reverse
        let value := if q = '"' then expandValue vars (unescape inner) else inner
        some (String.ofList value, cs.drop (i + 1))
    else
      let plain := cs.takeWhile fun c => c ≠ '\n' && c ≠ '\r'
      let rest := cs.drop plain.length
      let cut := (List.range plain.length).reverse.find? fun i =>
        i > 0 && plain.getD i ' ' == '#' && isSpace (plain.getD (i - 1) 'x')
      let plain := match cut with
        | some i => plain.take i
        | none => plain
      let trimmed := ((plain.dropWhile isSpace).reverse.dropWhile isSpace).reverse
      some (String.ofList (expandValue vars trimmed), rest)
  | [] => some ("", [])

/-- Reads the statements of a `.env` text, in order; `none` when one does not read. -/
def statements : Nat → List (String × String) → List Char →
    Option (List (String × String))
  | 0, vars, _ => some vars
  | fuel + 1, vars, cs =>
    match statementStart cs.length cs with
    | none => some vars
    | some start =>
      match splitName start with
      | none => none
      | some (key, rest) =>
        match readValue vars rest with
        | none => none
        | some (value, more) => statements fuel (vars ++ [(key, value)]) more

/-- The variables a `.env` text sets, the last statement for a name counting;
`none` when the text does not read. -/
def read (text : String) : Option (List (String × String)) :=
  let cs := (text.replace "\r\n" "\n").toList
  (statements (cs.length + 1) [] cs).map fun vars =>
    vars.foldl (fun acc (k, v) => (acc.filter (·.1 != k)) ++ [(k, v)]) []

end Dotenv

namespace ConfigValue

def lower (s : String) : String := Text.toLower s

def entry? (t : List (String × ConfigValue)) (k : String) : Option ConfigValue :=
  (t.find? (·.1 == k)).map (·.2)

/-- Sets a key of a table, in place if present, else at the end. -/
def setEntry (t : List (String × ConfigValue)) (k : String) (v : ConfigValue) :
    List (String × ConfigValue) :=
  if t.any (·.1 == k) then t.map fun kv => if kv.1 == k then (k, v) else kv else t ++ [(k, v)]

mutual

/-- Lower-cases every table key, inside lists too; of keys that meet, the last counts. -/
def lowerKeys : ConfigValue → ConfigValue
  | .table entries => .table (lowerEntries entries)
  | .list items => .list (lowerItems items)
  | other => other

def lowerEntries : List (String × ConfigValue) → List (String × ConfigValue)
  | [] => []
  | (k, v) :: rest =>
    let tail := lowerEntries rest
    let key := lower k
    if tail.any (·.1 == key) then tail else (key, lowerKeys v) :: tail

def lowerItems : List ConfigValue → List ConfigValue
  | [] => []
  | v :: rest => lowerKeys v :: lowerItems rest

end

mutual

def mergeEntries (below : List (String × ConfigValue)) : List (String × ConfigValue) →
    List (String × ConfigValue)
  | [] => below
  | (k, v) :: rest =>
    let merged := match entry? below k with
      | none => setEntry below k v
      | some old =>
        match mergeValue old v with
        | some m => setEntry below k m
        | none => below
    mergeEntries merged rest

/-- A value merged on top of another: a table on a table is merged key by key, and
any value replaces one that is not a table; `none` when a value that is not a table
would replace a table, which stays. -/
def mergeValue (below : ConfigValue) : ConfigValue → Option ConfigValue
  | .table entries =>
    match below with
    | .table old => some (.table (mergeEntries old entries))
    | _ => some (.table entries)
  | v =>
    match below with
    | .table _ => none
    | _ => some v

end

/-- The dotted keys of a table's leaves: values that are not tables. An empty table
has none. -/
def leafKeys : List (String × ConfigValue) → List (List String)
  | [] => []
  | (k, .table inner) :: rest => (leafKeys inner).map (k :: ·) ++ leafKeys rest
  | (k, _) :: rest => [k] :: leafKeys rest

/-- Looks a path up in a table, trying the longest run of keys joined by dots first. -/
def lookupPath (t : List (String × ConfigValue)) : List String → Option ConfigValue
  | [] => some (.table t)
  | k :: ks =>
    let rec tryPrefix (n : Nat) : Option ConfigValue :=
      match n with
      | 0 => none
      | n + 1 =>
        let keyText := ".".intercalate ((k :: ks).take (n + 1))
        let rest := (k :: ks).drop (n + 1)
        let found := match entry? t keyText with
          | none => none
          | some .null => none
          | some v =>
            match rest with
            | [] => some v
            | _ =>
              match v with
              | .table inner => lookupTail inner rest
              | _ => none
        match found with
        | some v => some v
        | none => tryPrefix n
    tryPrefix (ks.length + 1)
where
  /-- Looks the rest of a path up, one key at a time. -/
  lookupTail (t : List (String × ConfigValue)) : List String → Option ConfigValue
    | [] => some (.table t)
    | [k] =>
      match entry? t k with
      | some .null => none
      | other => other
    | k :: ks =>
      match entry? t k with
      | some (.table inner) => lookupTail inner ks
      | _ => none

/-- Sets the value at a path of a table, making tables on the way and replacing a
value that stands where a table is needed. -/
def setPath (t : List (String × ConfigValue)) : List String → ConfigValue → List (String × ConfigValue)
  | [], _ => t
  | [k], v => setEntry t k v
  | k :: ks, v =>
    let inner := match entry? t k with
      | some (.table e) => e
      | _ => []
    setEntry t k (.table (setPath inner ks v))

end ConfigValue

/-- A configuration file's settings beside the environment. -/
structure SettingLayers where
  file : List (String × ConfigValue)
  env : Environment

namespace SettingLayers

/-- The variable that overrides a setting: its key in upper case, with dots and
dashes written as underscores. -/
def envName (path : List String) : String :=
  String.ofList ((Text.toUpper (".".intercalate path)).toList.map fun c =>
    if c = '.' || c = '-' then '_' else c)

/-- A variable that is set and not empty. -/
def envValue (l : SettingLayers) (path : List String) : Option String :=
  match l.env.lookup (envName path) with
  | some v => if v.isEmpty then none else some v
  | none => none

/-- The value of a setting: the environment's, or the file's. A setting below a
key the environment sets has none. -/
def get (l : SettingLayers) (path : List String) : Option ConfigValue :=
  match l.envValue path with
  | some v => some (.text v)
  | none =>
    let shadowed := (List.range path.length).any fun i =>
      i > 0 && (l.envValue (path.take i)).isSome
    if shadowed then none else ConfigValue.lookupPath l.file path

def wantsExpansion (s : String) : Bool :=
  Text.contains s "$\x7b" || (Text.startsWith s "$" && s.length > 1)

/-- The keys of the file's leaves, each split at its dots as dotted keys are. -/
def fileKeys (l : SettingLayers) : List (List String) :=
  (ConfigValue.leafKeys l.file).map fun path => (".".intercalate path).splitOn "."

/-- The expansions the file's texts undergo: a table holding, at each leaf whose
text changes when expanded, the expanded text. -/
def expansions (l : SettingLayers) : List (String × ConfigValue) :=
  l.fileKeys.foldl (fun acc path =>
    match l.get path with
    | some (.text s) =>
      let v := ShellExpansion.expand l.env s
      if wantsExpansion s && v != s then ConfigValue.setPath acc path (.text v) else acc
    | _ => acc) []

/-- Looks a path up key by key, without joining keys at dots: the value, or `none`,
and whether a value that is no table stands on the way. -/
def lookupExact (t : List (String × ConfigValue)) : List String → Option ConfigValue × Bool
  | [] => (some (.table t), false)
  | [k] => (ConfigValue.entry? t k, false)
  | k :: ks =>
    match ConfigValue.entry? t k with
    | some (.table inner) => lookupExact inner ks
    | some _ => (none, true)
    | none => (none, false)

/-- The value of a setting the service knows, looked up after the file's own: an
expansion made at or below it, else the environment's, else the file's as
written. A setting below an expanded text or a variable that is set has none. -/
def knownValue (l : SettingLayers) (expanded : List (String × ConfigValue)) (path : List String) :
    Option ConfigValue :=
  match lookupExact expanded path with
  | (some v, _) => some v
  | (none, true) => none
  | (none, false) => l.get path

/-- The settings handed on: every leaf of the file with its value from `get`,
texts expanded, null values left out, as a nested table; then every setting of
`knownKeys` that has a value, replacing what stood at its place. -/
def settled (l : SettingLayers) (knownKeys : List (List String)) : List (String × ConfigValue) :=
  let fromFile := l.fileKeys.foldl (fun acc path =>
    match l.get path with
    | none => acc
    | some .null => acc
    | some (.text s) =>
      let v := if wantsExpansion s then ShellExpansion.expand l.env s else s
      ConfigValue.setPath acc path (.text v)
    | some v => ConfigValue.setPath acc path v) []
  let expanded := l.expansions
  knownKeys.foldl (fun acc path =>
    match l.knownValue expanded path with
    | none => acc
    | some .null => acc
    | some v => ConfigValue.setPath acc path v) fromFile

end SettingLayers

end Admissions
