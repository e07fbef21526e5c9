import Admissions.Schema.Basic

namespace Admissions

/-- A keyword that takes either a plain verdict or a schema. -/
inductive Subschema where
  | verdict (ok : Bool)
  | node (index : Nat)
  deriving BEq, Repr, Inhabited

/-- What the presence of a member asks of its object: other members, or a schema
for the whole object. -/
inductive Dependency where
  | names (keys : List String)
  | schema (index : Nat)
  deriving BEq, Repr, Inhabited

/-- The schemas of the elements of an array: one for every element, or one per
position. -/
inductive ItemSchemas where
  | each (index : Nat)
  | positional (indices : List Nat)
  deriving BEq, Repr, Inhabited

/-- The keywords of one schema. A schema read from `true` or `false` carries only
its `verdict`, and one that refers to another carries its `target` and is checked
by that one alone. -/
structure SchemaNode where
  verdict : Option Bool := none
  target : Option Nat := none
  types : List ValueKind := []
  properties : List (String × Nat) := []
  additionalProperties : Option Subschema := none
  patternProperties : List (String × Pattern × Nat) := []
  propertyNames : Option Nat := none
  dependencies : List (String × Dependency) := []
  items : Option ItemSchemas := none
  additionalItems : Option Subschema := none
  multipleOf : Option Decimal := none
  minimum : Option Decimal := none
  exclusiveMinimum : Option Decimal := none
  maximum : Option Decimal := none
  exclusiveMaximum : Option Decimal := none
  /-- Whether an exclusive bound was written as a number that does not read: a
  number checked against the node then stops the whole check. -/
  brokenBound : Bool := false
  minLength : Option Nat := none
  maxLength : Option Nat := none
  /-- The pattern, with the text it was written as. -/
  pattern : Option (String × Pattern) := none
  /-- The format, empty for none. -/
  format : String := ""
  minProperties : Option Nat := none
  maxProperties : Option Nat := none
  required : List String := []
  minItems : Option Nat := none
  maxItems : Option Nat := none
  uniqueItems : Bool := false
  contains : Option Nat := none
  /-- The canonical text of the one allowed value. -/
  const : Option String := none
  /-- The canonical texts of the allowed values. -/
  enum : List String := []
  oneOf : List Nat := []
  anyOf : List Nat := []
  allOf : List Nat := []
  not : Option Nat := none
  ifThen : Option Nat := none
  thenBranch : Option Nat := none
  elseBranch : Option Nat := none
  deriving Inhabited

/-- A schema read from a document: its nodes, the root at place 0. -/
structure CompiledSchema where
  nodes : Array SchemaNode
  deriving Inhabited

namespace CompiledSchema

/-- The node at a place; a place past the end reads as the schema `true`. -/
def node (s : CompiledSchema) (i : Nat) : SchemaNode := s.nodes.getD i { verdict := some true }

end CompiledSchema

end Admissions
