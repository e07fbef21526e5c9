import Admissions.Json.Write
import Admissions.Text.Quote
import Admissions.Decimal.Text

namespace Admissions

/-- Where a value stands inside the value being decoded. -/
structure DecodeSite where
  /-- Member names as written and element indices, from the root. -/
  path : List String := []
  /-- The innermost record type around the value. -/
  owner : Option String := none
  /-- The name of the root's type when it is a named list rather than a record. -/
  rootName : Option String := none
  deriving Repr, Inhabited

/-- A JSON value of the wrong kind for its place. -/
structure TypeMismatch where
  /-- The JSON kind found, with the literal for a number that does not fit. -/
  found : String
  /-- The type expected there. -/
  target : String
  site : DecodeSite
  deriving Repr, Inhabited

namespace TypeMismatch

def message (m : TypeMismatch) : String :=
  let place :=
    match m.site.owner with
    | some s => "Go struct field " ++ s ++ "." ++ Text.join "." m.site.path
    | none =>
      match m.site.rootName, m.site.path with
      | some r, _ :: _ => r ++ "." ++ Text.join "." m.site.path
      | _, _ => "Go value"
  "json: cannot unmarshal " ++ m.found ++ " into " ++ place ++ " of type " ++ m.target

end TypeMismatch

/-- Why a JSON text could not be read into a value. -/
inductive DecodeError where
  /-- The text is not JSON. -/
  | malformed (e : SyntaxError)
  /-- A member has the wrong kind. -/
  | mismatch (m : TypeMismatch)
  /-- A value's own reader refused it. -/
  | refused (message : String)
  deriving Repr, Inhabited

namespace DecodeError

def message : DecodeError → String
  | .malformed e => e.message
  | .mismatch m => m.message
  | .refused msg => msg

end DecodeError

/-- Decoding with the first mismatch noted and refusals thrown. -/
abbrev Decoding := StateT (Option TypeMismatch) (Except DecodeError)

namespace Decoding

/-- The outcome: a refusal, else the first mismatch, else the value. -/
def result {α : Type} (d : Decoding α) : Except DecodeError α :=
  match d.run none with
  | .error e => .error e
  | .ok (_, some m) => .error (.mismatch m)
  | .ok (a, none) => .ok a

/-- Notes a mismatch unless one is noted already, and keeps the old value. -/
def miss {α : Type} (old : α) (found target : String) (site : DecodeSite) : Decoding α := do
  if (← get).isNone then set (some (TypeMismatch.mk found target site))
  pure old

def refuse {α : Type} (msg : String) : Decoding α := throw (.refused msg)

end Decoding

/-- Reads a JSON value into a value of type `α`, given the value it replaces. -/
abbrev Decoder (α : Type) := DecodeSite → Json → α → Decoding α

namespace Decoder

def run {α : Type} (d : Decoder α) (init : α) (j : Json) (rootName : Option String := none) :
    Except DecodeError α :=
  (d { rootName := rootName } j init).result

def runText {α : Type} (d : Decoder α) (init : α) (text : String) (rootName : Option String := none) :
    Except DecodeError α :=
  match Json.parse text with
  | .error e => .error (.malformed e)
  | .ok j => d.run init j rootName

def string (target : String := "string") : Decoder String := fun site j old =>
  match j with
  | .str s => pure s
  | .null => pure old
  | other => Decoding.miss old other.kindName target site

def bool : Decoder Bool := fun site j old =>
  match j with
  | .bool b => pure b
  | .null => pure old
  | other => Decoding.miss old other.kindName "bool" site

/-- A signed integer of `bits` bits written as a number without point or exponent. -/
def int (bits : Nat := 64) (target : String := "int") : Decoder Int := fun site j old =>
  match j with
  | .num lit =>
    match readSignedInt bits lit.toList with
    | .ok n => pure n
    | .error _ => Decoding.miss old ("number " ++ lit) target site
  | .null => pure old
  | other => Decoding.miss old other.kindName target site

/-- The text a value's own reader is given: the value as written. -/
def rawText (j : Json) : String := j.source

/-- A text without its surrounding quotes, when it has some and more than them. -/
def unquoteRaw (raw : String) : String :=
  let cs := raw.toList
  if cs.length > 2 ∧ cs.head? = some '"' ∧ cs.getLast? = some '"' then
    String.ofList ((cs.drop 1).dropLast)
  else raw

/-- Reads a decimal from the text of any JSON value but `null`. -/
def decimalOf (j : Json) : Except String Decimal :=
  let raw := rawText j
  let text := unquoteRaw raw
  match Decimal.ofString text with
  | .ok d => .ok d
  | .error e => .error ("error decoding string '" ++ text ++ "': " ++ e.message)

/-- A decimal; `null` keeps the old value. -/
def decimal : Decoder Decimal := fun _ j old =>
  match j with
  | .null => pure old
  | _ =>
    match decimalOf j with
    | .ok d => pure d
    | .error msg => Decoding.refuse msg

/-- A decimal that may be unset; `null` unsets it. -/
def nullDecimal : Decoder (Option Decimal) := fun _ j _ =>
  match j with
  | .null => pure none
  | _ =>
    match decimalOf j with
    | .ok d => pure (some d)
    | .error msg => Decoding.refuse msg

/-- A value that may be absent; `null` makes it absent. -/
def option {α : Type} (d : Decoder α) (empty : α) : Decoder (Option α) := fun site j old =>
  match j with
  | .null => pure none
  | _ => some <$> d site j (old.getD empty)

/-- Elements read into the old elements at the same places, or into `empty`. -/
def elements {α : Type} (d : Decoder α) (empty : α) (site : DecodeSite) (old : List α) :
    Nat → List Json → Decoding (List α)
  | _, [] => pure []
  | i, x :: xs => do
    let v ← d { site with path := site.path ++ [toString i] } x (old.getD i empty)
    let vs ← elements d empty site old (i + 1) xs
    pure (v :: vs)

/-- An array read into a list whose elements are followed by `spare` ones: the
elements are read into the places of the list and then of the spare ones, then
into `empty`. The places past the array that held something stay behind as the
new spare ones, unless the array is empty, which starts a list afresh. -/
def refill {α : Type} (d : Decoder α) (empty : α) (site : DecodeSite) (old spare : List α)
    (items : List Json) : Decoding (List α × List α) := do
  let backing := old ++ spare
  let vs ← elements d empty site backing 0 items
  pure (vs, if items.isEmpty then [] else backing.drop items.length)

/-- A list kept with its spare elements (see `refill`); `null` empties both. -/
def sparedList {α : Type} (d : Decoder α) (empty : α) (target : String) :
    Decoder (List α × List α) := fun site j old =>
  match j with
  | .arr items _ => refill d empty site old.1 old.2 items
  | .null => pure ([], [])
  | other => Decoding.miss old other.kindName target site

/-- A list that tells `null` (none) from empty, kept with its spare elements (see
`refill`); `null` unsets it and drops them. -/
def sparedNullableList {α : Type} (d : Decoder α) (empty : α) (target : String) :
    Decoder (Option (List α) × List α) := fun site j old =>
  match j with
  | .arr items _ => do
    let (vs, spare) ← refill d empty site (old.1.getD []) old.2 items
    pure (some vs, spare)
  | .null => pure (none, [])
  | other => Decoding.miss old other.kindName target site

/-- A list with no spare elements kept; `null` empties it. -/
def list {α : Type} (d : Decoder α) (empty : α) (target : String) : Decoder (List α) :=
  fun site j old => Prod.fst <$> sparedList d empty target site j (old, [])

/-- A list that tells `null` (none) from empty, with no spare elements kept. -/
def nullableList {α : Type} (d : Decoder α) (empty : α) (target : String) :
    Decoder (Option (List α)) := fun site j old =>
  Prod.fst <$> sparedNullableList d empty target site j (old, [])

/-- A fixed number of places: elements past the end are skipped and missing
ones are emptied. -/
def fixed {α : Type} (n : Nat) (d : Decoder α) (empty : α) (target : String) :
    Decoder (List α) := fun site j old =>
  match j with
  | .arr items _ => do
    let vs ← elements d empty site old 0 (items.take n)
    pure (vs ++ List.replicate (n - vs.length) empty)
  | .null => pure old
  | other => Decoding.miss old other.kindName target site

/-- Sets a key of an association list, in place if present, else at the end. -/
def setKey {α : Type} (m : List (String × α)) (k : String) (v : α) : List (String × α) :=
  if m.any (·.1 == k) then m.map fun kv => if kv.1 == k then (k, v) else kv else m ++ [(k, v)]

/-- Members read into a map: each value read fresh from `empty`. -/
def entries {α : Type} (d : Decoder α) (empty : α) (site : DecodeSite) :
    List (String × α) → List (String × Json) → Decoding (List (String × α))
  | m, [] => pure m
  | m, (k, x) :: rest => do
    let v ← d { site with path := site.path ++ [k] } x empty
    entries d empty site (setKey m k v) rest

/-- A map from texts; `null` clears it, members are added to what it held. -/
def map {α : Type} (d : Decoder α) (empty : α) (target : String) :
    Decoder (List (String × α)) := fun site j old =>
  match j with
  | .obj fields _ => entries d empty site old fields
  | .null => pure []
  | other => Decoding.miss old other.kindName target site

/-- A map that tells `null` (none) from empty: `null` clears it, members are
added to what it held. -/
def nullableMap {α : Type} (d : Decoder α) (empty : α) (target : String) :
    Decoder (Option (List (String × α))) := fun site j old =>
  match j with
  | .obj fields _ => some <$> entries d empty site (old.getD []) fields
  | .null => pure none
  | other => Decoding.miss old other.kindName target site

def any : Decoder Json := fun _ j _ => pure j

end Decoder

/-- How one field of a record is read. -/
structure FieldDecoder (σ : Type) where
  name : String
  read : DecodeSite → Json → σ → Decoding σ

namespace FieldDecoder

def of {σ α : Type} (name : String) (get : σ → α) (put : σ → α → σ) (d : Decoder α) :
    FieldDecoder σ :=
  ⟨name, fun site j s => do pure (put s (← d site j (get s)))⟩

end FieldDecoder

namespace Decoder

/-- The field a member names: exact name first, then without regard to case. -/
def findField {σ : Type} (fields : List (FieldDecoder σ)) (key : String) :
    Option (FieldDecoder σ) :=
  match fields.find? (·.name == key) with
  | some f => some f
  | none => fields.find? (fun f => Text.equalFold f.name key)

def members {σ : Type} (owner : String) (fields : List (FieldDecoder σ)) (site : DecodeSite) :
    σ → List (String × Json) → Decoding σ
  | s, [] => pure s
  | s, (k, x) :: rest => do
    let s' ← match findField fields k with
      | some f => f.read { site with path := site.path ++ [k], owner := some owner } x s
      | none => pure s
    members owner fields site s' rest

/-- A record of named fields. `owner` is the record's short name, `target` its
full type name. -/
def record {σ : Type} (owner target : String) (fields : List (FieldDecoder σ)) : Decoder σ :=
  fun site j old =>
    match j with
    | .obj ms _ => members owner fields site old ms
    | .null => pure old
    | other => Decoding.miss old other.kindName target site

end Decoder

end Admissions
