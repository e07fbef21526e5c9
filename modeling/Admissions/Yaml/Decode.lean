import Admissions.Yaml.Compose
import Admissions.Config.Value

namespace Admissions

namespace Yaml

/-- A key of a table being filled, compared as the table compares its keys: by
kind and value, a float that is not a number matching nothing. -/
inductive MapKey where
  | null
  | bool (b : Bool)
  | int (i : Int)
  | uint (n : Nat)
  | float (x : Double)
  | text (s : String)
  deriving Repr, Inhabited

namespace MapKey

def same : MapKey → MapKey → Bool
  | .null, .null => true
  | .bool a, .bool b => a == b
  | .int a, .int b => a == b
  | .uint a, .uint b => a == b
  | .float a, .float b => a.same b
  | .text a, .text b => a == b
  | _, _ => false

/-- A key as the text that names it among settings: null is empty and a float is
written in plain notation. -/
def name : MapKey → String
  | .null => ""
  | .bool b => if b then "true" else "false"
  | .int i => Text.ofInt i
  | .uint n => toString n
  | .float x => x.plainText
  | .text s => s

end MapKey

/-- A value as decoding builds it; a table keeps its keys as it compares them,
and whether it is keyed by text. -/
inductive Decoded where
  | null
  | bool (b : Bool)
  | int (i : Int)
  | uint (n : Nat)
  | float (x : Double)
  | text (s : String)
  | list (items : List Decoded)
  | table (byText : Bool) (entries : List (MapKey × Decoded))
  deriving Repr, Inhabited

namespace Decoded

/-- The key a scalar value makes; none for a list or table. -/
def key? : Decoded → Option MapKey
  | .null => some .null
  | .bool b => some (.bool b)
  | .int i => some (.int i)
  | .uint n => some (.uint n)
  | .float x => some (.float x)
  | .text s => some (.text s)
  | _ => none

def hex (n : Nat) : String := String.ofList (Nat.toDigits 16 n)

mutual

/-- A value written as source text, as a report of a bad key shows it. -/
def source : Decoded → String
  | .null => "interface \x7b\x7d(nil)"
  | .bool b => if b then "true" else "false"
  | .int i => Text.ofInt i
  | .uint n => "0x" ++ hex n
  | .float x => x.generalText
  | .text s => Text.quote s
  | .list items => "[]interface \x7b\x7d\x7b" ++ ", ".intercalate (sourceItems items) ++ "\x7d"
  | .table byText entries =>
    let parts := (sourceEntries entries).mergeSort fun a b => decide (a ≤ b)
    (if byText then "map[string]interface \x7b\x7d\x7b" else "map[interface \x7b\x7d]interface \x7b\x7d\x7b") ++
      ", ".intercalate parts ++ "\x7d"

def sourceItems : List Decoded → List String
  | [] => []
  | v :: rest => source v :: sourceItems rest

/-- Entries written as source text, `key:value`. -/
def sourceEntries : List (MapKey × Decoded) → List String
  | [] => []
  | (k, v) :: rest =>
    let key := match k with
      | .text s => Text.quote s
      | .null => "interface \x7b\x7d(nil)"
      | .uint n => "0x" ++ hex n
      | .float x => x.generalText
      | other => other.name
    (key ++ ":" ++ source v) :: sourceEntries rest

end

mutual

/-- The configuration value a decoded value gives; table keys become their names. -/
def toConfig : Decoded → ConfigValue
  | .null => .null
  | .bool b => .bool b
  | .int i => .int i
  | .uint n => .uint n
  | .float x => .float x
  | .text s => .text s
  | .list items => .list (toConfigItems items)
  | .table _ entries => .table (toConfigEntries entries)

def toConfigItems : List Decoded → List ConfigValue
  | [] => []
  | v :: rest => toConfig v :: toConfigItems rest

def toConfigEntries : List (MapKey × Decoded) → List (String × ConfigValue)
  | [] => []
  | (k, v) :: rest => (k.name, toConfig v) :: toConfigEntries rest

end

end Decoded

/-- A table being filled: whether it is keyed by text, and its entries. -/
structure Filling where
  byText : Bool
  entries : List (MapKey × Decoded) := []
  deriving Inhabited

/-- Sets a key of a table: in place when present, else at the end. -/
def Filling.set (m : Filling) (k : MapKey) (v : Decoded) : Filling :=
  if m.entries.any (·.1.same k) then
    { m with entries := m.entries.map fun (k', v') => if k'.same k then (k', v) else (k', v') }
  else { m with entries := m.entries ++ [(k, v)] }

/-- The state of decoding. -/
structure Decoding where
  nodes : Array Node
  errors : Array String := #[]
  decodeCount : Nat := 0
  aliasCount : Nat := 0
  aliasDepth : Nat := 0
  /-- The aliases being decoded. -/
  active : List Nat := []
  /-- While merging, the keys already written. -/
  merged : Option (List MapKey) := none
  deriving Inhabited

abbrev Decode := StateT Decoding (Except String)

namespace Decode

def nodeAt (id : Nat) : Decode Node := do return (← get).nodes.getD id { kind := .scalar }

/-- Whether decoding has gone through aliases too much: past 99% of the decodes up
to 400000 of them, past 10% from 4000000 on, and in between a share falling
steadily from one to the other. -/
def excessive (aliases decodes : Nat) : Bool :=
  if decodes ≤ 400000 then 100 * aliases > 99 * decodes
  else if decodes ≥ 4000000 then 10 * aliases > decodes
  else 360000000 * aliases > decodes * (356400000 - 89 * (decodes - 400000))

def count : Decode Unit := do
  modify fun d => { d with decodeCount := d.decodeCount + 1,
                           aliasCount := if d.aliasDepth > 0 then d.aliasCount + 1 else d.aliasCount }
  let d ← get
  if d.aliasCount > 100 && d.decodeCount > 1000 && excessive d.aliasCount d.decodeCount then
    throw "yaml: document contains excessive aliasing"

def enterAlias (id : Nat) (n : Node) : Decode Unit := do
  if (← get).active.contains id then throw ("yaml: anchor '" ++ n.value ++ "' value contains itself")
  modify fun d => { d with active := id :: d.active, aliasDepth := d.aliasDepth + 1 }

def leaveAlias (id : Nat) : Decode Unit :=
  modify fun d => { d with active := d.active.filter (· != id), aliasDepth := d.aliasDepth - 1 }

/-- The first characters of a text that fit in `budget` bytes; a character cut by
the limit leaves one replacement character per byte kept. -/
def takeBytes : Nat → List Char → List Char
  | _, [] => []
  | budget, c :: rest =>
    let size := (String.singleton c).utf8ByteSize
    if size ≤ budget then c :: takeBytes (budget - size) rest
    else List.replicate budget '\uFFFD'

/-- A scalar's text as a type error shows it: in backquotes, cut to seven bytes
when longer than ten. -/
def shownValue (t : String) : String :=
  let q := String.singleton (Char.ofNat 96)
  if t.utf8ByteSize > 10 then " " ++ q ++ String.ofList (takeBytes 7 t.toList) ++ "..." ++ q
  else " " ++ q ++ t ++ q

/-- Reports a node that cannot become a value of the type `target`. -/
def typeError (n : Node) (tag target : String) : Decode Unit := do
  let tag := if n.tag != "" then n.tag else tag
  let value := if tag != "!!seq" && tag != "!!map" then shownValue n.value else ""
  let report := "line " ++ toString n.line ++ ": cannot unmarshal " ++ shortTag tag ++ value ++ " into " ++ target
  modify fun d => { d with errors := d.errors.push report }

/-- Whether a scalar is text by the way it is written or tagged. -/
def isIndicatedText (n : Node) : Bool :=
  n.kind == .scalar &&
    (n.tag == "!!str" || ((n.tag == "" || n.tag == "!") && n.style != .plain))

def nodeTag (n : Node) (target : Option Node) : String :=
  if isIndicatedText n then "!!str"
  else if n.tag == "" || n.tag == "!" then
    match n.kind with
    | .mapping => "!!map"
    | .sequence => "!!seq"
    | .scalar => (readPlain "" n.value).1
    | .alias =>
      match target with
      | some t =>
        if isIndicatedText t then "!!str"
        else if t.tag == "" || t.tag == "!" then
          match t.kind with
          | .mapping => "!!map"
          | .sequence => "!!seq"
          | .scalar => (readPlain "" t.value).1
          | _ => ""
        else t.tag
      | none => ""
    | .document => ""
  else n.tag

def tagAt (id : Nat) : Decode String := do
  let n ← nodeAt id
  let target ← if n.kind == .alias then some <$> nodeAt n.target else pure none
  return nodeTag n target

/-- Whether a node is a merge key `<<`. -/
def isMergeKey (n : Node) : Bool :=
  n.kind == .scalar && n.value == "<<" && (n.tag == "" || n.tag == "!" || n.tag == "!!merge")

def pairsOf (n : Node) : List (Nat × Nat) :=
  let cs := n.content.toList
  let rec go : List Nat → List (Nat × Nat)
    | k :: v :: rest => (k, v) :: go rest
    | _ => []
  go cs

/-- Whether every key of a mapping is text or a merge key. -/
def isTextKeyed (n : Node) : Decode Bool := do
  let tags ← (pairsOf n).mapM fun (k, _) => tagAt k
  return tags.all fun t => t == "!!str" || t == "!!merge"

/-- The reports of keys written twice in a mapping: for each key, every later key
of its kind and text. -/
def duplicates (n : Node) : Decode (List String) := do
  let keys ← (pairsOf n).mapM fun (k, _) => nodeAt k
  let rec go : List Node → List String
    | [] => []
    | a :: rest =>
      (rest.filter fun b => a.kind == b.kind && a.value == b.value).map (fun b =>
        "line " ++ toString b.line ++ ": mapping key " ++ Text.quote b.value ++
          " already defined at line " ++ toString a.line) ++ go rest
  return go keys

/-- Reports repeated keys of a mapping; whether there were any. -/
def checkDuplicates (n : Node) : Decode Bool := do
  let dups ← duplicates n
  modify fun d => { d with errors := d.errors ++ dups.toArray }
  return !dups.isEmpty

/-- What a scalar node stands for; a `!!binary` text is decoded from base 64. -/
def scalarValue (n : Node) : Decode (String × Resolved) := do
  if isIndicatedText n then return ("!!str", .text n.value)
  let (tag, r) ← match resolve n.tag n.value with
    | .ok r => pure r
    | .error e => throw e
  if tag == "!!binary" then
    let raw := match r with
      | .text s => s
      | _ => n.value
    match Base64.decode? raw with
    | some bs => return (tag, .text (Text.decodeUtf8 bs))
    | none => throw "yaml: !!binary value contains invalid base64 data"
  return (tag, r)

/-- The report of a merge key whose value is not a mapping or a list of them. -/
def mergeRefusal : String := "yaml: map merge requires map or sequence of maps as the value"

mutual

/-- Decodes a node into a value of any kind; whether it decoded. -/
def anyOf : Nat → Nat → Decode (Bool × Decoded)
  | 0, _ => throw "yaml: document nests too deeply"
  | fuel + 1, id => do
    count
    let n ← nodeAt id
    match n.kind with
    | .alias =>
      enterAlias id n
      let r ← anyOf fuel n.target
      leaveAlias id
      return r
    | .document =>
      match n.content[0]? with
      | some c => anyOf fuel c
      | none => return (false, .null)
    | .scalar =>
      let (_, r) ← scalarValue n
      return (true, match r with
        | .null => .null
        | .bool b => .bool b
        | .int i => .int i
        | .uint k => .uint k
        | .float x => .float x
        | .text s => .text s
        | .timestamp => .text n.value)
    | .sequence =>
      let items ← itemsOf fuel n.content.toList
      return (true, .list items)
    | .mapping =>
      if ← checkDuplicates n then return (false, .null)
      let m ← fill fuel n { byText := ← isTextKeyed n }
      return (true, .table m.byText m.entries)

def itemsOf : Nat → List Nat → Decode (List Decoded)
  | 0, _ => pure []
  | _, [] => pure []
  | fuel + 1, id :: rest => do
    let (good, v) ← anyOf fuel id
    let vs ← itemsOf fuel rest
    return if good then v :: vs else vs

/-- Decodes a node into text, as a key of a table keyed by text; none when it does
not decode, a null included. -/
def textOf : Nat → Nat → Decode (Option String)
  | 0, _ => throw "yaml: document nests too deeply"
  | fuel + 1, id => do
    count
    let n ← nodeAt id
    match n.kind with
    | .alias =>
      enterAlias id n
      let r ← textOf fuel n.target
      leaveAlias id
      return r
    | .scalar =>
      let (_, r) ← scalarValue n
      return (match r with
        | .null => none
        | .text s => some s
        | _ => some n.value)
    | .mapping =>
      if ← checkDuplicates n then return none
      typeError n "!!map" "string"
      return none
    | .sequence =>
      typeError n "!!seq" "string"
      return none
    | .document => return none

/-- Decodes a node into a table that exists already (the document's or one being
merged into); whether it decoded. -/
def intoTable : Nat → Nat → Filling → Decode (Bool × Filling)
  | 0, _, _ => throw "yaml: document nests too deeply"
  | fuel + 1, id, m => do
    count
    let n ← nodeAt id
    match n.kind with
    | .alias =>
      enterAlias id n
      let r ← intoTable fuel n.target m
      leaveAlias id
      return r
    | .document =>
      match n.content[0]? with
      | some c =>
        let (_, m) ← intoTable fuel c m
        return (true, m)
      | none => return (false, m)
    | .scalar =>
      let (tag, r) ← scalarValue n
      match r with
      | .null => return (true, { m with entries := [] })
      | _ =>
        typeError n tag "map[string]interface \x7b\x7d"
        return (false, m)
    | .sequence =>
      typeError n "!!seq" "map[string]interface \x7b\x7d"
      return (false, m)
    | .mapping =>
      if ← checkDuplicates n then return (false, m)
      let m ← fill fuel n m
      return (true, m)

/-- Fills a table with a mapping's entries, then with what its merge key adds. -/
def fill : Nat → Node → Filling → Decode Filling
  | 0, _, m => pure m
  | fuel + 1, n, m => do
    let written := (← get).merged
    modify fun d => { d with merged := none }
    let (m, mergeValue, written) ← entries fuel (pairsOf n) m none written
    modify fun d => { d with merged := written }
    match mergeValue with
    | some v => mergeInto fuel n v m
    | none => pure m

/-- Adds a mapping's entries to a table, skipping keys already written while
merging; gives the table, the value of the merge key, and the keys written. -/
def entries : Nat → List (Nat × Nat) → Filling → Option Nat → Option (List MapKey) →
    Decode (Filling × Option Nat × Option (List MapKey))
  | 0, _, m, mv, written => pure (m, mv, written)
  | _, [], m, mv, written => pure (m, mv, written)
  | fuel + 1, (k, v) :: rest, m, mv, written => do
    let kn ← nodeAt k
    if isMergeKey kn then entries fuel rest m (some v) written
    else
      let key? ←
        if m.byText then do
          pure ((← textOf fuel k).map MapKey.text)
        else do
          let (good, kv) ← anyOf fuel k
          if !good then pure none
          else
            match kv.key? with
            | some key => pure (some key)
            | none => throw ("yaml: invalid map key: " ++ kv.source)
      match key? with
      | none => entries fuel rest m mv written
      | some key =>
        match written with
        | some ks =>
          if ks.any (·.same key) then entries fuel rest m mv written
          else
            let (good, e) ← anyOf fuel v
            entries fuel rest (if good then m.set key e else m) mv (some (ks ++ [key]))
        | none =>
          let (good, e) ← anyOf fuel v
          entries fuel rest (if good then m.set key e else m) mv none

def mergeInto : Nat → Node → Nat → Filling → Decode Filling
  | 0, _, _, m => pure m
  | fuel + 1, parent, v, m => do
    let outer := (← get).merged
    if outer.isNone then
      let keys ← keysOf fuel ((pairsOf parent).map (·.1))
      modify fun d => { d with merged := some keys }
    let vn ← nodeAt v
    let m ← match vn.kind with
      | .mapping => do pure (← intoTable fuel v m).2
      | .alias => do
        if (← nodeAt vn.target).kind != .mapping then throw mergeRefusal
        pure (← intoTable fuel v m).2
      | .sequence => mergeEach fuel vn.content.toList m
      | _ => throw mergeRefusal
    modify fun d => { d with merged := outer }
    return m

/-- Merges each mapping of a merge key's list, in order. -/
def mergeEach : Nat → List Nat → Filling → Decode Filling
  | 0, _, m => pure m
  | _, [], m => pure m
  | fuel + 1, id :: rest, m => do
    let n ← nodeAt id
    let ok ← match n.kind with
      | .alias => do pure ((← nodeAt n.target).kind == .mapping)
      | .mapping => pure true
      | _ => pure false
    if !ok then throw mergeRefusal
    let (_, m) ← intoTable fuel id m
    mergeEach fuel rest m

/-- The keys a mapping writes, each decoded as a value of any kind; lists and
tables are left out. -/
def keysOf : Nat → List Nat → Decode (List MapKey)
  | 0, _ => pure []
  | _, [] => pure []
  | fuel + 1, k :: rest => do
    let (good, kv) ← anyOf fuel k
    let more ← keysOf fuel rest
    return (if good then kv.key?.toList else []) ++ more

end

end Decode

/-- Reads a YAML text as a table of settings; the report of a refused text. -/
def readTable (text : String) : Except String (List (String × ConfigValue)) := do
  match ← composeFirst text with
  | none => return []
  | some (nodes, doc) =>
    let fuel := (nodes.size + 2) * (nodes.size + 2) + 16
    let run : Decode Filling := do
      let (_, m) ← Decode.intoTable fuel doc { byText := true }
      return m
    match run.run { nodes } with
    | .error e => throw e
    | .ok (m, d) =>
      if d.errors.isEmpty then return Decoded.toConfigEntries m.entries
      else throw ("yaml: unmarshal errors:\n  " ++ "\n  ".intercalate d.errors.toList)

end Yaml

end Admissions
