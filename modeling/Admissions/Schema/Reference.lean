import Admissions.Schema.Basic
import Admissions.Url.Basic

namespace Admissions

namespace SchemaRef

def key (u : Url) : String := u.toText

/-- A reference resolved against the reference of the schema it is written in. -/
def inherit (base ref : Url) : Except String Url :=
  Url.parse (Url.resolve { base with fragment := "" } ref).toText

/-- The reference of a document read from text: the empty reference. -/
def root : Url := {}

/-- The keys and indices of the pointer in a reference's fragment; none when the
fragment is not a pointer. -/
def pointerTokens (u : Url) : List String :=
  match u.fragment.toList with
  | '/' :: rest => (String.ofList rest).splitOn "/"
  | _ => []

/-- A pointer token as a key: `~1` stands for `/` and `~0` for `~`. -/
def decodeToken (t : String) : String := (t.replace "~1" "/").replace "~0" "~"

/-- A token read as a decimal integer with an optional sign, within 64 bits. -/
def readIndex (t : String) : Option Int :=
  let (neg, digits) := match t.toList with
    | '-' :: rest => (true, rest)
    | '+' :: rest => (false, rest)
    | cs => (false, cs)
  if digits.isEmpty || !digits.all Char.isDigit then none else
  let v : Int := (digits.foldl (fun (n : Nat) (c : Char) => n * 10 + (c.toNat - 48)) 0 : Nat)
  let v := if neg then -v else v
  if v < -Int.pow 2 63 || v ≥ Int.pow 2 63 then none else some v

def follow : List String → Json → Except String Json
  | [], j => .ok j
  | t :: rest, .obj fields _ =>
    let k := decodeToken t
    match (Json.obj fields).member? k with
    | some v => follow rest v
    | none => .error ("Object has no key '" ++ k ++ "'")
  | t :: rest, .arr items _ =>
    match readIndex t with
    | none => .error ("Invalid array index '" ++ t ++ "'")
    | some i =>
      if i < 0 || i ≥ items.length then
        .error ("Out of bound array[0," ++ toString items.length ++ "] index '" ++ Text.ofInt i ++ "'")
      else
        match items[i.toNat]? with
        | some v => follow rest v
        | none => .error ("Invalid array index '" ++ t ++ "'")
  | t :: _, _ => .error ("Invalid token reference '" ++ t ++ "'")

/-- Whether a reference can be fetched on its own: a file URL with a full path, or
another URL with a scheme and a host. -/
def isCanonical (u : Url) : Bool :=
  (u.scheme == "file" && u.path.startsWith "/") || (u.scheme != "file" && u.scheme != "" && u.host != "")

/-- The document a filed key names; the last filed under a key wins. -/
def lookup (documents : List (String × Json)) (k : String) : Option Json :=
  (documents.reverse.find? (·.1 == k)).map (·.2)

def fetchRefusal (u : Url) : String :=
  let address := key { u with fragment := "" }
  if u.scheme == "file" then
    let path := String.ofList ((address.toList).drop 7)
    "open " ++ ((Url.unescape path .queryComponent).toOption.getD path) ++ ": no such file or directory"
  else if u.scheme == "http" || u.scheme == "https" then
    "Get " ++ Text.quote address ++ ": dial tcp: lookup " ++ u.host ++ ": no such host"
  else "Get " ++ Text.quote address ++ ": unsupported protocol scheme " ++ Text.quote u.scheme

def documentAt (documents : List (String × Json)) (u : Url) : Except String Json :=
  match lookup documents (key u) with
  | some d => .ok d
  | none =>
    match lookup documents (key { u with fragment := "" }) with
    | some d => follow (pointerTokens u) d
    | none =>
      if !isCanonical u then .error ("Reference " ++ key u ++ " must be canonical")
      else .error (fetchRefusal u)

/-- The reference a text resolves to in a scope, when it reads as one. -/
def resolveIn (scope : Url) (text : String) : Option Url :=
  match Url.parse text with
  | .ok child => (inherit scope child).toOption
  | .error _ => none

/-- Makes the references of a schema document absolute, walking at most `fuel`
levels, and files the schemas with identifiers. `filed` holds what is filed so
far; a schema is filed before what is inside it. -/
def absolutize : Nat → Url → Json → List (String × Json) → Json × List (String × Json)
  | 0, _, doc, filed => (doc, filed)
  | fuel + 1, scope, .arr items _, filed =>
    let (items, filed) := items.foldl (fun (acc : List Json × List (String × Json)) x =>
      let (x, filed) := absolutize fuel scope x acc.2
      (acc.1 ++ [x], filed)) ([], filed)
    (.arr items, filed)
  | fuel + 1, scope, .obj fields _, filed =>
    let doc := Json.obj fields
    let idKey := if fields.any (·.1 == "id") then "id" else "$id"
    let own : Option Url := match doc.member? idKey with
      | some (.str s) => resolveIn scope s
      | _ => none
    if (own.map fun u => filed.any (·.1 == key u)).getD false then (doc, filed) else
    let scope := own.getD scope
    let filed := match own with
      | some u => filed ++ [(key u, Json.null)]
      | none => filed
    let step (acc : List (String × Json) × List (String × Json)) (kv : String × Json) :
        List (String × Json) × List (String × Json) :=
      let (k, v) := kv
      if k == "const" || k == "enum" then (acc.1 ++ [kv], acc.2)
      else if k == "$ref" && v matches .str _ then
        match v with
        | .str s =>
          match resolveIn scope s with
          | some u => (acc.1 ++ [(k, .str (key u))], acc.2)
          | none => (acc.1 ++ [kv], acc.2)
        | _ => (acc.1 ++ [kv], acc.2)
      else if k == "properties" || k == "patternProperties" then
        match v with
        | .obj members _ =>
          let (members, filed) := members.foldl (fun (inner : List (String × Json) × List (String × Json)) m =>
            let (x, filed) := absolutize fuel scope m.2 inner.2
            (inner.1 ++ [(m.1, x)], filed)) ([], acc.2)
          (acc.1 ++ [(k, .obj members)], filed)
        | _ => (acc.1 ++ [kv], acc.2)
      else
        let (x, filed) := absolutize fuel scope v acc.2
        (acc.1 ++ [(k, x)], filed)
    let (fields, filed) := fields.foldl step ([], filed)
    let doc := Json.obj fields
    let filed := match own with
      | some u => filed.map fun (k, d) => if k == key u then (k, doc) else (k, d)
      | none => filed
    (doc, filed)
  | _ + 1, _, doc, filed => (doc, filed)

end SchemaRef

end Admissions
