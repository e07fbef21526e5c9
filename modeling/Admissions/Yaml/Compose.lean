import Admissions.Yaml.Parse
import Admissions.Yaml.Resolve

namespace Admissions

namespace Yaml

/-- The kinds of node. -/
inductive NodeKind where
  | document
  | sequence
  | mapping
  | scalar
  | alias
  deriving Repr, Inhabited, BEq, DecidableEq

/-- A node of the tree. -/
structure Node where
  kind : NodeKind
  tag : String := ""
  value : String := ""
  style : ScalarStyle := .plain
  line : Nat := 0
  /-- The node an alias points at. -/
  target : Nat := 0
  content : Array Nat := #[]
  deriving Repr, Inhabited

/-- The state of composing: the events read, the next event when it has been
looked at, the anchors so far and the nodes made. -/
structure Composer where
  reader : EventReader
  event : Option Event := none
  anchors : List (String × Nat) := []
  nodes : Array Node := #[]
  deriving Inhabited

abbrev Compose := StateT Composer (Except String)

namespace Compose

/-- The next event, read when needed. -/
def peek : Compose Event := do
  let c ← get
  match c.event with
  | some e => return e
  | none =>
    let (e, r) ← Parse.next c.reader
    set { c with reader := r, event := some e }
    return e

def expect : Compose Unit := do
  let e ← peek
  if e.kind == .streamEnd then throw "yaml: attempted to go past the end of stream; corrupted value?"
  modify fun c => { c with event := none }

/-- Adds a node made from the next event: its tag is the one written, or else the
default tag, or else what a scalar's text reads as. -/
def add (kind : NodeKind) (defaultTag tag value : String) (style : ScalarStyle) : Compose Nat := do
  let e ← peek
  let tag :=
    if tag != "" && tag != "!" then shortTag tag
    else if defaultTag != "" then defaultTag
    else if kind == .scalar then (readPlain "" value).1
    else ""
  let c ← get
  set { c with nodes := c.nodes.push { kind, tag, value, style, line := e.start.line + 1 } }
  return c.nodes.size

def anchor (name : Option String) (id : Nat) : Compose Unit :=
  match name with
  | some a => modify fun c => { c with anchors := (a, id) :: c.anchors.filter (·.1 != a) }
  | none => pure ()

def addChild (parent child : Nat) : Compose Unit :=
  modify fun c => { c with nodes := c.nodes.modify parent fun n => { n with content := n.content.push child } }

mutual

/-- The node whose first event is next. -/
def node : Nat → Compose Nat
  | 0 => throw "yaml: document nests too deeply"
  | fuel + 1 => do
    let e ← peek
    match e.kind with
    | .scalar name tag text style =>
      let defaultTag := if style == .plain then (if text == "<<" then "!!merge" else "") else "!!str"
      let id ← add .scalar defaultTag tag text style
      anchor name id
      expect
      return id
    | .alias name =>
      let id ← add .alias "" "" name .plain
      match (← get).anchors.find? (·.1 == name) with
      | some (_, target) =>
        modify fun c => { c with nodes := c.nodes.modify id fun n => { n with target } }
      | none => throw ("yaml: unknown anchor '" ++ name ++ "' referenced")
      expect
      return id
    | .mappingStart name tag _ =>
      let id ← add .mapping "!!map" tag "" .plain
      anchor name id
      expect
      children fuel id
      expect
      return id
    | .sequenceStart name tag _ =>
      let id ← add .sequence "!!seq" tag "" .plain
      anchor name id
      expect
      children fuel id
      expect
      return id
    | .documentStart =>
      let id ← add .document "" "" "" .plain
      expect
      let child ← node fuel
      addChild id child
      expect
      return id
    | _ => throw "yaml: unexpected event"

def children : Nat → Nat → Compose Unit
  | 0, _ => pure ()
  | fuel + 1, parent => do
    let e ← peek
    match e.kind with
    | .mappingEnd | .sequenceEnd | .nothing | .streamEnd => pure ()
    | _ =>
      let child ← node fuel
      addChild parent child
      children fuel parent

end

end Compose

/-- The nodes of the first document of a text and the place of the document
node; none when the text holds no document. -/
def composeFirst (text : String) : Except String (Option (Array Node × Nat)) :=
  let scanner := Scanner.ofText text
  let fuel := 8 * (scanner.input.size + 16)
  let run : Compose (Option Nat) := do
    Compose.expect
    let e ← Compose.peek
    match e.kind with
    | .documentStart => return some (← Compose.node fuel)
    | _ => return none
  match run.run { reader := { scanner } } with
  | .ok (some doc, c) => .ok (some (c.nodes, doc))
  | .ok (none, _) => .ok none
  | .error e => .error e

end Yaml

end Admissions
