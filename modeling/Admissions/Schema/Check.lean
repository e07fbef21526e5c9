import Admissions.Schema.Read
import Admissions.Schema.Format

namespace Admissions

/-- What a value failed. -/
inductive SchemaRule where
  | required (property : String)
  | invalidType (expected given : String)
  | anyOf
  | oneOf
  | allOf
  | not
  | missingDependency (dependency : String)
  | const (allowed : String)
  | enum (allowed : String)
  | noAdditionalItems
  | minItems (n : Nat)
  | maxItems (n : Nat)
  | unique (i j : Nat)
  | contains
  | minProperties (n : Nat)
  | maxProperties (n : Nat)
  | additionalProperty (property : String)
  | propertyName (property : String)
  | minLength (n : Nat)
  | maxLength (n : Nat)
  | pattern (source : String)
  | format (name : String)
  | multipleOf (m : Decimal)
  | minimum (m : Decimal)
  | exclusiveMinimum (m : Decimal)
  | maximum (m : Decimal)
  | exclusiveMaximum (m : Decimal)
  | thenBranch
  | elseBranch
  | refused
  /-- The document is not JSON. -/
  | unreadable (reason : String)
  deriving Inhabited

/-- A rule that failed, at the place of the value it failed on. -/
structure SchemaViolation where
  path : List String
  rule : SchemaRule
  deriving Inhabited

namespace SchemaRule

def kind : SchemaRule → String
  | .required _ => "required"
  | .invalidType .. => "invalid_type"
  | .anyOf => "number_any_of"
  | .oneOf => "number_one_of"
  | .allOf => "number_all_of"
  | .not => "number_not"
  | .missingDependency _ => "missing_dependency"
  | .const _ => "const"
  | .enum _ => "enum"
  | .noAdditionalItems => "array_no_additional_items"
  | .minItems _ => "array_min_items"
  | .maxItems _ => "array_max_items"
  | .unique .. => "unique"
  | .contains => "contains"
  | .minProperties _ => "array_min_properties"
  | .maxProperties _ => "array_max_properties"
  | .additionalProperty _ => "additional_property_not_allowed"
  | .propertyName _ => "invalid_property_name"
  | .minLength _ => "string_gte"
  | .maxLength _ => "string_lte"
  | .pattern _ => "pattern"
  | .format _ => "format"
  | .multipleOf _ => "multiple_of"
  | .minimum _ => "number_gte"
  | .exclusiveMinimum _ => "number_gt"
  | .maximum _ => "number_lte"
  | .exclusiveMaximum _ => "number_lt"
  | .thenBranch => "condition_then"
  | .elseBranch => "condition_else"
  | .refused => "false"
  | .unreadable _ => "invalid_json"

def code (r : SchemaRule) : String :=
  match r.kind with
  | "required" => "REQUIRED_FIELD_MISSING"
  | "invalid_type" => "INVALID_TYPE"
  | "enum" => "INVALID_ENUM_VALUE"
  | "additional_property_not_allowed" => "EXTRA_FIELD"
  | "string_gte" | "array_min_items" => "MIN_LENGTH_VIOLATION"
  | "string_lte" | "array_max_items" => "MAX_LENGTH_VIOLATION"
  | "number_gte" | "number_gt" => "MINIMUM_VIOLATION"
  | "number_lte" | "number_lt" => "MAXIMUM_VIOLATION"
  | "pattern" | "format" => "PATTERN_MISMATCH"
  | other => Text.toUpper other

/-- The text of a failed rule on the value at `field`. -/
def message (field : String) : SchemaRule → String
  | .required p => p ++ " is required"
  | .invalidType e g => "Invalid type. Expected: " ++ e ++ ", given: " ++ g
  | .anyOf => "Must validate at least one schema (anyOf)"
  | .oneOf => "Must validate one and only one schema (oneOf)"
  | .allOf => "Must validate all the schemas (allOf)"
  | .not => "Must not validate the schema (not)"
  | .missingDependency d => "Has a dependency on " ++ d
  | .const a => field ++ " does not match: " ++ a
  | .enum a => field ++ " must be one of the following: " ++ a
  | .noAdditionalItems => "No additional items allowed on array"
  | .minItems n => "Array must have at least " ++ toString n ++ " items"
  | .maxItems n => "Array must have at most " ++ toString n ++ " items"
  | .unique i j => "array items[" ++ toString i ++ "," ++ toString j ++ "] must be unique"
  | .contains => "At least one of the items must match"
  | .minProperties n => "Must have at least " ++ toString n ++ " properties"
  | .maxProperties n => "Must have at most " ++ toString n ++ " properties"
  | .additionalProperty p => "Additional property " ++ p ++ " is not allowed"
  | .propertyName p => "Property name of \"" ++ p ++ "\" does not match"
  | .minLength n => "String length must be greater than or equal to " ++ toString n
  | .maxLength n => "String length must be less than or equal to " ++ toString n
  | .pattern p => "Does not match pattern '" ++ p ++ "'"
  | .format f => "Does not match format '" ++ f ++ "'"
  | .multipleOf m => "Must be a multiple of " ++ m.binaryText
  | .minimum m => "Must be greater than or equal to " ++ m.binaryText
  | .exclusiveMinimum m => "Must be greater than " ++ m.binaryText
  | .maximum m => "Must be less than or equal to " ++ m.binaryText
  | .exclusiveMaximum m => "Must be less than " ++ m.binaryText
  | .thenBranch => "Must validate \"then\" as \"if\" was valid"
  | .elseBranch => "Must validate \"else\" as \"if\" was not valid"
  | .refused => "False always fails validation"
  | .unreadable reason => reason

end SchemaRule

namespace SchemaViolation

def field (v : SchemaViolation) : String :=
  if v.path.isEmpty then "(root)" else ".".intercalate v.path

def code (v : SchemaViolation) : String := v.rule.code

def message (v : SchemaViolation) : String := v.rule.message v.field

end SchemaViolation

/-- The problems of a value under a schema, with its score, and whether the check
broke off: a number compared with a bound that is not there, or a value that has to
be written out for a comparison and cannot be. -/
structure SchemaOutcome where
  problems : List SchemaViolation := []
  score : Int := 0
  crashed : Bool := false
  deriving Inhabited

namespace SchemaOutcome

def valid (o : SchemaOutcome) : Bool := o.problems.isEmpty

def join (a b : SchemaOutcome) : SchemaOutcome :=
  ⟨a.problems ++ b.problems, a.score + b.score, a.crashed || b.crashed⟩

instance : Append SchemaOutcome := ⟨join⟩

def problem (path : List String) (r : SchemaRule) : SchemaOutcome := ⟨[⟨path, r⟩], -2, false⟩

def point : SchemaOutcome := ⟨[], 1, false⟩

def crash : SchemaOutcome := { crashed := true }

/-- Of the outcomes of checks whose verdict is used but whose problems are not,
only whether one broke off. -/
def breaks (os : List SchemaOutcome) : SchemaOutcome := if os.any (·.crashed) then crash else {}

/-- The outcomes of schemas tried in order, up to the first that passes. -/
def untilValid : List SchemaOutcome → List SchemaOutcome
  | [] => []
  | o :: rest => if o.valid then [o] else o :: untilValid rest

def all (os : List SchemaOutcome) : SchemaOutcome := os.foldl join {}

/-- The best of the outcomes that did not pass: the first of the highest score. -/
def best (os : List SchemaOutcome) : Option SchemaOutcome :=
  os.foldl (fun b o => match b with
    | none => some o
    | some b => if o.score > b.score then some o else some b) none

end SchemaOutcome

namespace CompiledSchema

open SchemaOutcome

def typesText (ts : List ValueKind) : String :=
  match ts with
  | [t] => t.name
  | _ => "[" ++ ",".intercalate (ts.map ValueKind.name) ++ "]"

def kindOf : Json → ValueKind
  | .null => .null
  | .bool _ => .boolean
  | .num lit => if Json.isWholeNumber (.num lit) then .integer else .number
  | .str _ => .string
  | .arr _ _ => .array
  | .obj _ _ => .object

/-- Whether a schema's kinds allow a value: a whole number passes as an integer. -/
def allows (ts : List ValueKind) (v : Json) : Bool :=
  ts.isEmpty ||
    match v with
    | .num _ => ts.contains .number || (Json.isWholeNumber v && ts.contains .integer)
    | _ => ts.contains (kindOf v)

/-- The pairs of positions that repeat an earlier element, each paired with the
latest position of the same element before it. -/
def repeats (texts : List String) : List (Nat × Nat) :=
  (texts.foldl (fun (acc : List (String × Nat) × List (Nat × Nat) × Nat) t =>
      let (seen, found, j) := acc
      let found := match seen.find? (·.1 == t) with
        | some (_, i) => found ++ [(i, j)]
        | none => found
      ((t, j) :: seen.filter (·.1 != t), found, j + 1))
    ([], [], 0)).2.1

/-- Checks a value against the node at place `i`, at `path` in the document,
walking at most `fuel` schemas deep. -/
def checkAt (s : CompiledSchema) : Nat → Nat → List String → Json → SchemaOutcome
  | 0, _, _, _ => {}
  | fuel + 1, i, path, v =>
    let n := s.node i
    let sub (j : Nat) (p : List String) (x : Json) : SchemaOutcome := checkAt s fuel j p x
    match n.verdict, n.target with
    | some true, _ => {}
    | some false, _ => problem path .refused
    | none, some t => sub t path v
    | none, none =>
    if !allows n.types v then problem path (.invalidType (typesText n.types) (kindOf v).name) else
    let here (t : Nat) := sub t path v
    -- the combinations of schemas
    let anyOf : SchemaOutcome :=
      if n.anyOf.isEmpty then {} else
      let results := untilValid (n.anyOf.map here)
      if results.any (·.valid) then breaks results
      else problem path .anyOf ++ (best results).getD {} ++ breaks results
    let oneOf : SchemaOutcome :=
      if n.oneOf.isEmpty then {} else
      let results := n.oneOf.map here
      let passed := (results.filter (·.valid)).length
      let beforePass := results.takeWhile (!·.valid)
      breaks results ++
      if passed = 1 then {}
      else if passed = 0 then problem path .oneOf ++ (best beforePass).getD {}
      else problem path .oneOf
    let allOf : SchemaOutcome :=
      if n.allOf.isEmpty then {} else
      let results := n.allOf.map here
      all results ++ if results.all (·.valid) then {} else problem path .allOf
    let not : SchemaOutcome :=
      match n.not with
      | some t => let o := here t; breaks [o] ++ if o.valid then problem path .not else {}
      | none => {}
    let dependencies : SchemaOutcome :=
      match v with
      | .obj fields _ =>
        all (fields.map fun (k, _) =>
          match n.dependencies.lookup k with
          | some (.names needs) =>
            all ((needs.filter fun d => !(fields.any (·.1 == d))).map fun d =>
              problem path (.missingDependency d))
          | some (.schema t) => here t
          | none => {})
      | _ => {}
    let condition : SchemaOutcome :=
      match n.ifThen with
      | none => {}
      | some c =>
        let test := here c
        breaks [test] ++
        if test.valid then
          match n.thenBranch with
          | some t => let o := here t; if o.valid then breaks [o] else problem path .thenBranch ++ o
          | none => {}
        else
          match n.elseBranch with
          | some t => let o := here t; if o.valid then breaks [o] else problem path .elseBranch ++ o
          | none => {}
    let combined := anyOf ++ oneOf ++ allOf ++ not ++ dependencies ++ condition ++ point
    -- the rules every value is checked against
    let common : SchemaOutcome :=
      match n.const.isSome || !n.enum.isEmpty, v.canonical with
      | true, .error _ => crash
      | _, written =>
        let text := written.toOption.getD ""
        (match n.const with
          | some c => if text == c then {} else problem path (.const c)
          | none => {}) ++
        (if n.enum.isEmpty || n.enum.contains text then {}
          else problem path (.enum (", ".intercalate n.enum))) ++ point
    let own : SchemaOutcome :=
      match v with
      | .num lit =>
        let bounded := n.multipleOf.isSome || n.maximum.isSome || n.exclusiveMaximum.isSome ||
          n.minimum.isSome || n.exclusiveMinimum.isSome || n.brokenBound
        -- a number never has the form of a string format
        let formatPart : SchemaOutcome :=
          if StringFormat.isKnown n.format then problem path (.format n.format) else {}
        match Json.exactValue? lit with
        | none => if bounded then crash else formatPart ++ point
        | some x =>
          if n.brokenBound then crash else
          (match n.multipleOf with
            | some m =>
              let e := min x.exponent m.exponent
              if (x.mantissaAt e) % (m.mantissaAt e) == 0 then {} else problem path (.multipleOf m)
            | none => {}) ++
          (match n.maximum with
            | some m => if Decimal.lt m x then problem path (.maximum m) else {}
            | none => {}) ++
          (match n.exclusiveMaximum with
            | some m => if Decimal.le m x then problem path (.exclusiveMaximum m) else {}
            | none => {}) ++
          (match n.minimum with
            | some m => if Decimal.lt x m then problem path (.minimum m) else {}
            | none => {}) ++
          (match n.exclusiveMinimum with
            | some m => if Decimal.le x m then problem path (.exclusiveMinimum m) else {}
            | none => {}) ++ formatPart ++ point
      | .str text =>
        let len := text.length
        (match n.minLength with
          | some m => if len < m then problem path (.minLength m) else {}
          | none => {}) ++
        (match n.maxLength with
          | some m => if len > m then problem path (.maxLength m) else {}
          | none => {}) ++
        (match n.pattern with
          | some (src, p) => if p.find text then {} else problem path (.pattern src)
          | none => {}) ++
        (if n.format.isEmpty || StringFormat.check n.format text then {}
          else problem path (.format n.format)) ++ point
      | .arr items _ =>
        let indexed := items.zipIdx
        let at_ (x : Json) (k : Nat) (t : Nat) := sub t (path ++ [toString k]) x
        let elements : SchemaOutcome :=
          match n.items with
          | some (.each t) => all (indexed.map fun (x, k) => at_ x k t)
          | some (.positional ts) =>
            if ts.isEmpty then {} else
            all ((indexed.zip ts).map fun ((x, k), t) => at_ x k t) ++
              if indexed.length ≤ ts.length then {} else
              match n.additionalItems with
              | some (.verdict false) => problem path .noAdditionalItems
              | some (.node t) => all ((indexed.drop ts.length).map fun (x, k) => at_ x k t)
              | _ => {}
          | none => {}
        let containsPart : SchemaOutcome :=
          match n.contains with
          | none => {}
          | some t =>
            let results := untilValid (indexed.map fun (x, k) => at_ x k t)
            if results.any (·.valid) then breaks results
            else problem path .contains ++ (best results).getD {} ++ breaks results
        elements ++
        (match n.minItems with
          | some m => if items.length < m then problem path (.minItems m) else {}
          | none => {}) ++
        (match n.maxItems with
          | some m => if items.length > m then problem path (.maxItems m) else {}
          | none => {}) ++
        (if !n.uniqueItems then {}
          else if items.any (fun x => (x.canonical).toOption.isNone) then crash
          else all ((repeats (items.map fun x => (x.canonical).toOption.getD "")).map fun (a, b) =>
            problem path (.unique a b))) ++
        containsPart ++ point
      | .obj fields _ =>
        let keys := fields.map (·.1)
        let objectPart : SchemaOutcome :=
          (match n.minProperties with
            | some m => if fields.length < m then problem path (.minProperties m) else {}
            | none => {}) ++
          (match n.maxProperties with
            | some m => if fields.length > m then problem path (.maxProperties m) else {}
            | none => {}) ++
          all (n.required.map fun r => if keys.contains r then point else problem path (.required r)) ++
          all (fields.map fun (k, x) =>
            let named := n.properties.any (·.1 == k)
            let matching := n.patternProperties.filter fun (_, p, _) => p.find k
            let byPattern :=
              if matching.isEmpty then {}
              else all (matching.map fun (_, _, t) => sub t (path ++ [k]) x) ++ point
            byPattern ++
              if named || !matching.isEmpty then {} else
              match n.additionalProperties with
              | some (.verdict false) => problem path (.additionalProperty k)
              | some (.node t) => sub t (path ++ [k]) x
              | _ => {}) ++
          (match n.propertyNames with
            | some t => all (keys.map fun k =>
                let o := sub t path (.str k)
                if o.valid then breaks [o] else problem path (.propertyName k) ++ o)
            | none => {}) ++ point
        let named : SchemaOutcome :=
          all (n.properties.map fun (k, t) =>
            match fields.lookup k with
            | some x => sub t (path ++ [k]) x
            | none => {})
        objectPart ++ named
      | _ => {}
    combined ++ own ++ common ++ point

/-- The bound on how deeply a check walks: every schema at every level of the
document. -/
def checkFuel (s : CompiledSchema) (v : Json) : Nat := (v.depth + 2) * (s.nodes.size + 2)

end CompiledSchema

/-- The outcome of checking a document: its problems in report order, and whether
the check broke off. -/
structure SchemaReport where
  problems : List SchemaViolation
  crashed : Bool := false
  deriving Inhabited

namespace SchemaReport

def valid (r : SchemaReport) : Bool := r.problems.isEmpty

/-- What a check that broke off reports: it reached for a value that is not there. -/
def crashText : String := "runtime error: invalid memory address or nil pointer dereference"

/-- A report of problems, listed by place, then code, then text. -/
def ofProblems (ps : List SchemaViolation) (crashed : Bool) : SchemaReport :=
  ⟨ps.mergeSort (fun a b =>
    if a.field != b.field then decide (a.field < b.field)
    else if a.code != b.code then decide (a.code < b.code)
    else decide (a.message ≤ b.message)), crashed⟩

/-- Each problem as `place: text`, in order of the texts. -/
def messages (r : SchemaReport) : List String :=
  (r.problems.map fun p => p.field ++ ": " ++ p.message).mergeSort fun a b => decide (a ≤ b)

/-- Whether a field, or a value inside it, has a problem. -/
def hasErrors (r : SchemaReport) (field : String) : Bool :=
  r.problems.any fun p => p.field == field || p.field.startsWith (field ++ ".")

end SchemaReport

namespace SchemaReport

def problemJson (p : SchemaViolation) : Json :=
  .obj [("field", .str p.field), ("message", .str p.message), ("code", .str p.code)]

def errorsJson (r : SchemaReport) : Json := .arr (r.problems.map problemJson)

end SchemaReport

namespace CompiledSchema

def validate (s : CompiledSchema) (v : Json) : SchemaReport :=
  let v := v.collapse
  let o := s.checkAt (s.checkFuel v) 0 [] v
  SchemaReport.ofProblems o.problems o.crashed

/-- Checks the first JSON value of a text; a text without one has a single
problem at the root. -/
def validateText (s : CompiledSchema) (text : String) : SchemaReport :=
  match Json.readFirst text with
  | .error e => { problems := [⟨[], .unreadable e.message⟩] }
  | .ok v => s.validate v

end CompiledSchema

end Admissions
