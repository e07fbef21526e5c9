import Admissions.Schema.Node
import Admissions.Schema.Reference
import Admissions.Json.Read

namespace Admissions

/-- What reading a schema document keeps track of: the nodes so far and the node
set aside for each reference met. -/
structure SchemaReading where
  nodes : Array SchemaNode := #[]
  refs : List (String × Nat) := []

abbrev SchemaRead := StateT SchemaReading (Except String)

/-- What every step of reading sees: the draft and the documents references name. -/
structure ReadScope where
  draft : Draft
  documents : List (String × Json)

namespace SchemaRead

def refuse {α : Type} (msg : String) : SchemaRead α := throw msg

def ofExcept {α : Type} (r : Except String α) : SchemaRead α :=
  match r with
  | .ok a => pure a
  | .error e => throw e

def alloc : SchemaRead Nat := do
  let st ← get
  set { st with nodes := st.nodes.push {} }
  return st.nodes.size

def put (index : Nat) (n : SchemaNode) : SchemaRead Unit :=
  modify fun st => { st with nodes := st.nodes.set! index n }

def invalidType (expected given : String) : String :=
  "Invalid type. Expected: " ++ expected ++ ", given: " ++ given

/-- The refusal of a value that is not a schema. -/
def notSchema : String := "Expected: valid schema, given: Invalid JSON"

def number? : Json → Option Decimal
  | .num lit => Json.exactValue? lit
  | _ => none

/-- The count a keyword holds: an integer literal with neither a fraction nor an
exponent, within 64 bits. -/
def integer? : Json → Option Int
  | .num lit =>
    let digits := match lit.toList with
      | '-' :: rest => rest
      | cs => cs
    if digits.all Char.isDigit then
      let (m, _) := Json.literalParts lit
      if m < -Int.pow 2 63 || m ≥ Int.pow 2 63 then none else some m
    else none
  | _ => none

def count (m : String → Option Json) (key : String) : SchemaRead (Option Nat) :=
  match m key with
  | none => pure none
  | some v =>
    match integer? v with
    | none => refuse (key ++ " must be of an integer")
    | some i => if i < 0 then refuse (key ++ " must be greater than or equal to 0") else pure (some i.toNat)

/-- Checks that a least count is not above a most count. -/
def ordered (least most : Option Nat) (leastKey mostKey : String) : SchemaRead Unit :=
  match least, most with
  | some a, some b => if a > b then refuse (leastKey ++ " cannot be greater than " ++ mostKey) else pure ()
  | _, _ => pure ()

/-- Adds a kind named by `type`. -/
def addType (acc : List ValueKind) (name : String) : SchemaRead (List ValueKind) :=
  match ValueKind.ofName? name with
  | none => refuse ("has a primitive type that is NOT VALID -- given: /" ++ name ++
      "/ Expected valid values are:[array boolean integer number null object string]")
  | some k => if acc.contains k then refuse (name ++ " type is duplicated") else pure (acc ++ [k])

/-- Reads an exclusive bound, which under draft 4 is a flag on the plain bound and
in the mixed reading may be either; gives the plain and the exclusive bound, and
whether the exclusive bound is a number that does not read. -/
def exclusiveBound (draft : Draft) (key plainKey : String) (bound : Option Decimal) :
    Option Json → SchemaRead (Option Decimal × Option Decimal × Bool)
  | none => pure (bound, none, false)
  | some v =>
    let asFlag (b : Bool) : SchemaRead (Option Decimal × Option Decimal × Bool) :=
      if bound.isNone then refuse (key ++ " cannot be used without " ++ plainKey)
      else pure (if b then (none, bound, false) else (bound, none, false))
    let asNumber (lit : String) : SchemaRead (Option Decimal × Option Decimal × Bool) :=
      let x := Json.exactValue? lit
      pure (bound, x, x.isNone)
    match draft, v with
    | .draft4, .bool b => asFlag b
    | .draft4, _ => refuse (invalidType "boolean" key)
    | .mixed, .bool b => asFlag b
    | .mixed, .num lit => asNumber lit
    | .mixed, _ => refuse (invalidType "boolean/number" key)
    | _, .num lit => asNumber lit
    | _, _ => refuse (invalidType "number" key)

/-- Reads a schema value into the node at `index`, walking at most `fuel` levels. -/
def node (scope : ReadScope) : Nat → Json → Nat → SchemaRead Unit
  | 0, _, _ => refuse "schema nests too deeply"
  | fuel + 1, doc, index => do
    match doc with
    | .bool b =>
      if scope.draft.hasKeywordsOf 6 then put index { verdict := some b } else refuse notSchema
    | .obj _ _ =>
      let m := doc.member?
      -- reads a value that must be a schema into a new node
      let sub (v : Json) : SchemaRead Nat := do
        let i ← alloc
        node scope fuel v i
        pure i
      -- reads a keyword that holds a schema, or refuses with `msg`
      let subIf (key msg : String) : SchemaRead (Option Nat) :=
        match m key with
        | none => pure none
        | some v@(.obj _ _) | some v@(.bool _) => some <$> sub v
        | some _ => refuse msg
      -- reads a keyword that holds a list of schemas
      let subList (key : String) : SchemaRead (List Nat) :=
        match m key with
        | none => pure []
        | some (.arr xs _) => xs.mapM sub
        | some _ => refuse (key ++ " must be of an array")
      -- reads a keyword that holds a verdict or a schema
      let verdictOrSub (key : String) : SchemaRead (Option Subschema) :=
        match m key with
        | none => pure none
        | some (.bool b) => pure (some (.verdict b))
        | some v@(.obj _ _) => (some ∘ Subschema.node) <$> sub v
        | some _ => refuse (invalidType "boolean/valid schema" key)
      let idKey := match scope.draft with
        | .draft4 => "id"
        | .mixed => if (m "id").isSome then "id" else "$id"
        | _ => "$id"
      match m idKey with
      | some (.str s) => discard (ofExcept (Url.parse s))
      | some _ => refuse (invalidType "string" idKey)
      | none => pure ()
      match m "definitions" with
      | some (.obj defs _) =>
        for (_, d) in defs do
          match d with
          | .obj _ _ | .bool _ => discard (sub d)
          | _ => refuse (invalidType "array of schemas" "definitions")
      | some (.bool _) => pure ()
      | some _ => refuse (invalidType "array of schemas" "definitions")
      | none => pure ()
      for key in ["title", "description"] do
        match m key with
        | some (.str _) | none => pure ()
        | some _ => refuse (invalidType "string" key)
      let target ← match m "$ref" with
        | some (.str s) => do
          let ref ← ofExcept (Url.parse s)
          let k := SchemaRef.key ref
          match (← get).refs.lookup k with
          | some t => pure (some (t, false))
          | none =>
            let t ← alloc
            modify fun st => { st with refs := st.refs ++ [(k, t)] }
            let d ← ofExcept (SchemaRef.documentAt scope.documents ref)
            match d with
            | .obj _ _ | .bool _ => node scope fuel d t
            | _ => refuse "valid schema must be of type object"
            pure (some (t, true))
        | some _ => refuse (invalidType "string" "$ref")
        | none => pure none
      match target with
      | some (t, true) => put index { target := some t }
      | _ =>
      let types ← match m "type" with
        | none => pure []
        | some (.str t) => addType [] t
        | some (.arr ts _) => ts.foldlM (fun acc t => match t with
            | .str name => addType acc name
            | _ => refuse (invalidType "string/array of strings" "type")) []
        | some _ => refuse (invalidType "string/array of strings" "type")
      let properties ← match m "properties" with
        | none => pure []
        | some (.obj ps _) => ps.mapM fun (k, v) => do pure (k, ← sub v)
        | some _ => refuse "properties must be of type object"
      let additionalProperties ← verdictOrSub "additionalProperties"
      let patternProperties ← match m "patternProperties" with
        | none => pure []
        | some (.obj ps _) => ps.mapM fun (k, v) =>
          match (Pattern.parse k) with
          | .error _ => refuse ("Invalid regex pattern '" ++ k ++ "'")
          | .ok p => do pure (k, p, ← sub v)
        | some _ => refuse (invalidType "valid schema" "patternProperties")
      let propertyNames ← if scope.draft.hasKeywordsOf 6 then
          subIf "propertyNames" (invalidType "valid schema" "patternProperties")
        else pure none
      let dependencies ← match m "dependencies" with
        | none => pure []
        | some (.obj ds _) => ds.foldlM (fun acc (k, v) =>
          match v with
          | .arr names _ => do
            let keys ← names.mapM fun n => match n with
              | .str s => pure s
              | _ => refuse "dependency must be of type schema or array of strings"
            pure (if keys.isEmpty then acc else acc ++ [(k, Dependency.names keys)])
          | .obj _ _ | .bool _ => do pure (acc ++ [(k, Dependency.schema (← sub v))])
          | _ => refuse "dependency must be of type schema or array of strings") []
        | some _ => refuse "dependencies must be of type object"
      let items ← match m "items" with
        | none => pure none
        | some (.arr xs _) => do
          let is ← xs.mapM fun x => match x with
            | .obj _ _ | .bool _ => sub x
            | _ => refuse (invalidType "valid schema/array of schemas" "items")
          pure (some (ItemSchemas.positional is))
        | some v@(.obj _ _) | some v@(.bool _) => (some ∘ ItemSchemas.each) <$> sub v
        | some _ => refuse (invalidType "valid schema/array of schemas" "items")
      let additionalItems ← verdictOrSub "additionalItems"
      let multipleOf ← match m "multipleOf" with
        | none => pure none
        | some v =>
          match number? v with
          | none => refuse (invalidType "number" "multipleOf")
          | some d => if d.sign ≤ 0 then refuse "multipleOf must be strictly greater than 0" else pure (some d)
      let minimum ← match m "minimum" with
        | none => pure none
        | some v =>
          match number? v with
          | none => refuse "minimum must be of a number"
          | some d => pure (some d)
      let (minimum, exclusiveMinimum, brokenLow) ←
        exclusiveBound scope.draft "exclusiveMinimum" "minimum" minimum (m "exclusiveMinimum")
      let maximum ← match m "maximum" with
        | none => pure none
        | some v =>
          match number? v with
          | none => refuse "maximum must be of a number"
          | some d => pure (some d)
      let (maximum, exclusiveMaximum, brokenHigh) ←
        exclusiveBound scope.draft "exclusiveMaximum" "maximum" maximum (m "exclusiveMaximum")
      let minLength ← count m "minLength"
      let maxLength ← count m "maxLength"
      ordered minLength maxLength "minLength" "maxLength"
      let pattern ← match m "pattern" with
        | none => pure none
        | some (.str p) =>
          match Pattern.parse p with
          | .ok pat => pure (some (p, pat))
          | .error _ => refuse "pattern must be a valid regex"
        | some _ => refuse "pattern must be of a string"
      let format ← match m "format" with
        | none => pure ""
        | some (.str f) => pure f
        | some _ => refuse "format must be of type string"
      let minProperties ← count m "minProperties"
      let maxProperties ← count m "maxProperties"
      ordered minProperties maxProperties "minProperties" "maxProperties"
      let required ← match m "required" with
        | none => pure []
        | some (.arr xs _) => xs.foldlM (fun acc x => match x with
            | .str s => if acc.contains s then refuse "required items must be unique" else pure (acc ++ [s])
            | _ => refuse "required items must be string") []
        | some _ => refuse "required must be of an array"
      let minItems ← count m "minItems"
      let maxItems ← count m "maxItems"
      ordered minItems maxItems "minItems" "maxItems"
      let uniqueItems ← match m "uniqueItems" with
        | none => pure false
        | some (.bool b) => pure b
        | some _ => refuse "uniqueItems must be of a boolean"
      let contains ← if scope.draft.hasKeywordsOf 6 then
          match m "contains" with
          | none => pure none
          | some v => some <$> sub v
        else pure none
      let const ← if scope.draft.hasKeywordsOf 6 then
          match m "const" with
          | none => pure none
          | some v => some <$> ofExcept v.canonical
        else pure none
      let enum ← match m "enum" with
        | none => pure []
        | some (.arr xs _) => xs.foldlM (fun acc x => do
            let t ← ofExcept x.canonical
            if acc.contains t then refuse "enum items must be unique" else pure (acc ++ [t])) []
        | some _ => refuse "enum must be of an array"
      let oneOf ← subList "oneOf"
      let anyOf ← subList "anyOf"
      let allOf ← subList "allOf"
      let not ← subIf "not" "not must be of an object"
      let (ifThen, thenBranch, elseBranch) ← if scope.draft.hasKeywordsOf 7 then do
          let i ← subIf "if" "if must be of an object"
          let t ← subIf "then" "then must be of an object"
          let e ← subIf "else" "else must be of an object"
          pure (i, t, e)
        else pure (none, none, none)
      put index {
        target := target.map (·.1), types, properties, additionalProperties, patternProperties,
        propertyNames, dependencies, items, additionalItems, multipleOf, minimum,
        exclusiveMinimum, maximum, exclusiveMaximum, brokenBound := brokenLow || brokenHigh,
        minLength, maxLength, pattern, format,
        minProperties, maxProperties, required, minItems, maxItems, uniqueItems, contains,
        const, enum, oneOf, anyOf, allOf, not, ifThen, thenBranch, elseBranch }
    | _ => refuse notSchema

end SchemaRead

namespace CompiledSchema

/-- The draft a schema document names in `$schema`, if any. -/
def namedDraft (doc : Json) : Except String (Option Draft) :=
  match doc with
  | .bool _ => .ok none
  | .obj _ _ =>
    match doc.member? "$schema" with
    | none => .ok none
    | some (.str s) => (Url.parse s).map fun u => Draft.ofAddress u.toText
    | some _ => .error "$schema must be of type string"
  | _ => .error "schema is invalid"

def compile (doc : Json) : Except String CompiledSchema := do
  let doc := doc.collapse
  let draft := (← namedDraft doc).getD .mixed
  let (doc, filed) := SchemaRef.absolutize (doc.depth + 1) SchemaRef.root doc []
  let scope : ReadScope := { draft, documents := filed ++ [(SchemaRef.key SchemaRef.root, doc)] }
  let fuel := (doc.depth + 2) * (doc.size + 2)
  let ((), st) ← (SchemaRead.node scope fuel doc 0).run { nodes := #[{}] }
  return ⟨st.nodes⟩

/-- Reads a schema from the first JSON value of a text. -/
def ofText (text : String) : Except String CompiledSchema :=
  match Json.readFirst text with
  | .error e => .error e.message
  | .ok j => compile j

end CompiledSchema

end Admissions
