import Admissions.Config.Value
import Admissions.Text.Numeral

namespace Admissions

namespace ConfigValue

def typeName : ConfigValue → String
  | .null => "<nil>"
  | .bool _ => "bool"
  | .int _ => "int"
  | .uint _ => "uint64"
  | .float _ => "float64"
  | .text _ => "string"
  | .list _ => "[]interface \x7b\x7d"
  | .table _ => "map[string]interface \x7b\x7d"

def kindName : ConfigValue → String
  | .null => "invalid"
  | .bool _ => "bool"
  | .int _ => "int"
  | .uint _ => "uint"
  | .float _ => "float64"
  | .text _ => "string"
  | .list _ => "slice"
  | .table _ => "map"

mutual

/-- A value as reports show it: lists in brackets and tables as `map[k:v ...]`
with keys sorted, items separated by blanks. -/
def shown : ConfigValue → String
  | .null => "<nil>"
  | .bool b => if b then "true" else "false"
  | .int i => Text.ofInt i
  | .uint n => toString n
  | .float x => x.generalText
  | .text s => s
  | .list items => "[" ++ " ".intercalate (shownItems items) ++ "]"
  | .table entries =>
    "map[" ++ " ".intercalate ((shownEntries entries).mergeSort fun a b => decide (a ≤ b)) ++ "]"

def shownItems : List ConfigValue → List String
  | [] => []
  | v :: rest => shown v :: shownItems rest

/-- The shown entries of a table, as `key:value`. -/
def shownEntries : List (String × ConfigValue) → List String
  | [] => []
  | (k, v) :: rest => (k ++ ":" ++ shown v) :: shownEntries rest

end

end ConfigValue

/-- Reads one typed setting from a configuration value: given the setting's path,
the value and the setting's present value, the new value and every problem found. -/
abbrev SettingReader (α : Type) := String → ConfigValue → α → α × List String

namespace SettingReader

def unconvertible (name target : String) (v : ConfigValue) : String :=
  "'" ++ name ++ "' expected type '" ++ target ++ "', got unconvertible type '" ++ v.typeName ++
    "', value: '" ++ v.shown ++ "'"

def text : SettingReader String := fun name v old =>
  match v with
  | .null => (old, [])
  | .text s => (s, [])
  | .bool b => (if b then "1" else "0", [])
  | .int i => (Text.ofInt i, [])
  | .uint n => (toString n, [])
  | .float x => (x.plainText, [])
  | other => (old, [unconvertible name "string" other])

/-- Reads an integer of 64 bits; `target` names the setting's type. -/
def int (target : String) : SettingReader Int := fun name v old =>
  match v with
  | .null => (old, [])
  | .int i => (i, [])
  | .uint n => (if n ≥ Nat.pow 2 63 then (n : Int) - Int.pow 2 64 else n, [])
  | .float x => (x.toInt64, [])
  | .bool b => (if b then 1 else 0, [])
  | .text s =>
    let s := if s.isEmpty then "0" else s
    match Numeral.readInt 64 s.toList with
    | .ok i => (i, [])
    | .error e => (old, ["cannot parse '" ++ name ++ "' as int: " ++ Numeral.refusal "ParseInt" s e])
  | other => (old, [unconvertible name target other])

def bool : SettingReader Bool := fun name v old =>
  match v with
  | .null => (old, [])
  | .bool b => (b, [])
  | .int i => (i != 0, [])
  | .uint n => (n != 0, [])
  | .float x => (!x.isZero, [])
  | .text s =>
    match Numeral.readBool s with
    | some b => (b, [])
    | none =>
      if s.isEmpty then (false, [])
      else (old, ["cannot parse '" ++ name ++ "' as bool: strconv.ParseBool: parsing " ++
        Text.quote s ++ ": invalid syntax"])
  | other => (old, [unconvertible name "bool" other])

/-- Reads list items, each from the empty value. -/
def items {α : Type} (r : SettingReader α) (empty : α) (name : String) :
    Nat → List ConfigValue → List α × List String
  | _, [] => ([], [])
  | i, x :: rest =>
    let (a, e1) := r (name ++ "[" ++ toString i ++ "]") x empty
    let (as, e2) := items r empty name (i + 1) rest
    (a :: as, e1 ++ e2)

/-- Reads a list: a text is split at commas first, and a single value of another
kind is read as a list of one. -/
def list {α : Type} (r : SettingReader α) (empty : α) : SettingReader (Option (List α)) :=
  fun name v old =>
  match v with
  | .null => (old, [])
  | .text s =>
    let parts := if s.isEmpty then [] else s.splitOn ","
    let (as, errs) := items r empty name 0 (parts.map .text)
    (some as, errs)
  | .list xs =>
    let (as, errs) := items r empty name 0 xs
    (some as, errs)
  | .table [] => (some [], [])
  | other =>
    let (as, errs) := items r empty name 0 [other]
    (some as, errs)

/-- Sets a key of an association list, in place if present, else at the end. -/
def setKey {α : Type} (m : List (String × α)) (k : String) (v : α) : List (String × α) :=
  if m.any (·.1 == k) then m.map fun kv => if kv.1 == k then (k, v) else kv else m ++ [(k, v)]

/-- Reads map entries into a map, each from the empty value; an entry that does
not read is left out. -/
def entries {α : Type} (r : SettingReader α) (empty : α) (name : String) :
    List (String × α) → List (String × ConfigValue) → List (String × α) × List String
  | m, [] => (m, [])
  | m, (k, x) :: rest =>
    let (a, e1) := r (name ++ "[" ++ k ++ "]") x empty
    let m := if e1.isEmpty then setKey m k a else m
    let (m, e2) := entries r empty name m rest
    (m, e1 ++ e2)

/-- Reads a map: a table's entries are added to what the map held; a list's
items, each a table, are added in turn, the first failing item ending the read. -/
def map {α : Type} (r : SettingReader α) (empty : α) : SettingReader (Option (List (String × α))) :=
  fun name v old =>
  let rec fromItems (m : List (String × α)) (i : Nat) : List ConfigValue → List (String × α) × List String
    | [] => (m, [])
    | .table kvs :: rest =>
      let (m', errs) := entries r empty (name ++ "[" ++ toString i ++ "]") m kvs
      if errs.isEmpty then fromItems m' (i + 1) rest else (m', errs)
    | .null :: rest => fromItems m (i + 1) rest
    | x :: _ =>
      (m, ["'" ++ name ++ "[" ++ toString i ++ "]' expected a map, got '" ++ x.kindName ++ "'"])
  match v with
  | .null => (old, [])
  | .table kvs =>
    let (m, errs) := entries r empty name (old.getD []) kvs
    (some m, errs)
  | .list xs =>
    let (m, errs) := fromItems (old.getD []) 0 xs
    (some m, errs)
  | other => (old, ["'" ++ name ++ "' expected a map, got '" ++ other.kindName ++ "'"])

end SettingReader

/-- How one field of a record is read: its key and its reader. -/
structure SettingField (σ : Type) where
  key : String
  read : String → ConfigValue → σ → σ × List String

namespace SettingField

def of {σ α : Type} (key : String) (get : σ → α) (put : σ → α → σ) (r : SettingReader α) :
    SettingField σ :=
  ⟨key, fun name v s => let (a, errs) := r name v (get s); (put s a, errs)⟩

/-- The entry of a table a field reads: the one with the field's key, or else one
whose key equals it without regard to case. -/
def find? {σ : Type} (f : SettingField σ) (t : List (String × ConfigValue)) : Option ConfigValue :=
  match (t.find? (·.1 == f.key)).map (·.2) with
  | some v => some v
  | none => (t.find? fun (k, _) => Text.equalFold k f.key).map (·.2)

end SettingField

namespace SettingReader

/-- Reads a record from a table, field by field; a field whose key is absent keeps
its value. -/
def record {σ : Type} (fields : List (SettingField σ)) : SettingReader σ := fun name v old =>
  match v with
  | .null => (old, [])
  | .table t =>
    fields.foldl (fun (s, errs) f =>
      match f.find? t with
      | none => (s, errs)
      | some x =>
        let path := if name.isEmpty then f.key else name ++ "." ++ f.key
        let (s', e) := f.read path x s
        (s', errs ++ e)) (old, [])
  | other => (old, ["'" ++ name ++ "' expected a map, got '" ++ other.kindName ++ "'"])

/-- The report of the problems of a read: their number, then each on its own line,
sorted. -/
def report (errs : List String) : String :=
  let points := (errs.map ("* " ++ ·)).mergeSort fun a b => decide (a ≤ b)
  toString errs.length ++ " error(s) decoding:\n\n" ++ "\n".intercalate points

end SettingReader

end Admissions
