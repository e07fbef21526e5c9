import Admissions.Yaml.Scan

namespace Admissions

namespace Yaml

/-- The kinds of event. -/
inductive EventKind where
  /-- No event: the stream has ended. -/
  | nothing
  | streamStart
  | streamEnd
  | documentStart
  | documentEnd
  | alias (name : String)
  | scalar (anchor : Option String) (tag text : String) (style : ScalarStyle)
  | sequenceStart (anchor : Option String) (tag : String) (flow : Bool)
  | sequenceEnd
  | mappingStart (anchor : Option String) (tag : String) (flow : Bool)
  | mappingEnd
  deriving Repr, Inhabited, BEq

/-- An event and the place it starts. -/
structure Event where
  kind : EventKind
  start : Mark
  deriving Repr, Inhabited

/-- The states of the reader. -/
inductive ParseState where
  | streamStart
  | implicitDocumentStart
  | documentStart
  | documentContent
  | documentEnd
  | blockNode
  | blockNodeOrIndentlessSequence
  | flowNode
  | blockSequenceFirstEntry
  | blockSequenceEntry
  | indentlessSequenceEntry
  | blockMappingFirstKey
  | blockMappingKey
  | blockMappingValue
  | flowSequenceFirstEntry
  | flowSequenceEntry
  | flowSequenceEntryMappingKey
  | flowSequenceEntryMappingValue
  | flowSequenceEntryMappingEnd
  | flowMappingFirstKey
  | flowMappingKey
  | flowMappingValue
  | flowMappingEmptyValue
  | finished
  deriving Repr, Inhabited, BEq

/-- The reader of events over its splitter. -/
structure EventReader where
  scanner : Scanner
  state : ParseState := .streamStart
  states : List ParseState := []
  /-- Where each open collection started, for reports. -/
  marks : List Mark := []
  /-- The tag handles of the document and their prefixes. -/
  tagDirectives : List (String × String) := []
  deriving Inhabited

/-- The handles every document knows. -/
def defaultTagDirectives : List (String × String) :=
  [("!", "!"), ("!!", "tag:yaml.org,2002:")]

/-- The report of a problem met while reading events: the context's line, else
the problem's, counted from zero. -/
def parseReport (context problem : Mark) (text : String) : String :=
  located (if context.line ≠ 0 then context.line else problem.line) text

abbrev Parse := StateT EventReader (Except String)

namespace Parse

def scan {α : Type} (m : Scan α) : Parse α := fun r => do
  let (a, s) ← m r.scanner
  return (a, { r with scanner := s })

def peek : Parse Token := scan Scan.peekToken

def skip : Parse Unit := scan Scan.skipToken

def fail {α : Type} (context problem : Mark) (text : String) : Parse α :=
  throw (parseReport context problem text)

def popState : Parse Unit := modify fun r =>
  match r.states with
  | s :: rest => { r with state := s, states := rest }
  | [] => r

/-- Enters a state, to return to `back` afterwards. -/
def pushState (back : ParseState) : Parse Unit := modify fun r => { r with states := back :: r.states }

def goTo (s : ParseState) : Parse Unit := modify fun r => { r with state := s }

def popMark : Parse Mark := do
  let r ← get
  match r.marks with
  | m :: rest =>
    set { r with marks := rest }
    return m
  | [] => return {}

def pushMark (m : Mark) : Parse Unit := modify fun r => { r with marks := m :: r.marks }

/-- An empty plain scalar. -/
def emptyScalar (m : Mark) : Event := ⟨.scalar none "" "" .plain, m⟩

/-- Adds a tag handle; one already known is refused unless `allowKnown`. -/
def appendTagDirective (handle pfx : String) (allowKnown : Bool) (m : Mark) : Parse Unit := do
  let r ← get
  if r.tagDirectives.any (·.1 == handle) then
    if allowKnown then return
    fail {} m "found duplicate %TAG directive"
  set { r with tagDirectives := r.tagDirectives ++ [(handle, pfx)] }

/-- Reads the directives before a document, then adds the known handles. -/
def processDirectives : Parse Unit := do
  let rec go (seenVersion : Bool) : Nat → Parse Token
    | 0 => peek
    | n + 1 => do
      let t ← peek
      match t.kind with
      | .versionDirective major minor =>
        if seenVersion then fail {} t.start "found duplicate %YAML directive"
        if major != 1 || minor != 1 then fail {} t.start "found incompatible YAML document"
        skip
        go true n
      | .tagDirective handle pfx =>
        appendTagDirective handle pfx false t.start
        skip
        go seenVersion n
      | _ => pure t
  let t ← go false ((← get).scanner.input.size + 8)
  for (handle, pfx) in defaultTagDirectives do
    appendTagDirective handle pfx true t.start

/-- Whether a token is a directive, a document start or the end of the stream. -/
def startsDocument (k : TokenKind) : Bool :=
  match k with
  | .versionDirective .. | .tagDirective .. | .documentStart | .streamEnd => true
  | _ => false

def streamStart : Parse Event := do
  let t ← peek
  if t.kind != .streamStart then fail {} t.start "did not find expected <stream-start>"
  goTo .implicitDocumentStart
  skip
  return ⟨.streamStart, t.start⟩

/-- The start of a document, which may be implicit only for the first; or the end
of the stream. -/
def documentStart (implicit : Bool) : Parse Event := do
  let rec dropEnds : Nat → Parse Token
    | 0 => peek
    | n + 1 => do
      let t ← peek
      if t.kind == .documentEnd then
        skip
        dropEnds n
      else pure t
  let t ← if implicit then peek else dropEnds ((← get).scanner.input.size + 8)
  if implicit && !startsDocument t.kind then
    processDirectives
    pushState .documentEnd
    goTo .blockNode
    return ⟨.documentStart, t.start⟩
  else if t.kind != .streamEnd then
    processDirectives
    let t' ← peek
    if t'.kind != .documentStart then fail {} t'.start "did not find expected <document start>"
    pushState .documentEnd
    goTo .documentContent
    skip
    return ⟨.documentStart, t.start⟩
  else
    goTo .finished
    skip
    return ⟨.streamEnd, t.start⟩

/-- What follows an explicit document start; nothing but an empty scalar when the
document ends at once. -/
def documentContent (node : Parse Event) : Parse Event := do
  let t ← peek
  match t.kind with
  | .versionDirective .. | .tagDirective .. | .documentStart | .documentEnd | .streamEnd =>
    popState
    return emptyScalar t.start
  | _ => node

/-- The end of a document, explicit with `...` or implicit. -/
def documentEnd : Parse Event := do
  let t ← peek
  if t.kind == .documentEnd then skip
  modify fun r => { r with tagDirectives := [] }
  goTo .documentStart
  return ⟨.documentEnd, t.start⟩

/-- A node: an alias, or a scalar or collection with an optional anchor and tag.
`block` admits block collections, and `indentless` a sequence whose entries stand
at the indentation of the mapping holding it. -/
def node (block indentless : Bool) : Parse Event := do
  let t ← peek
  if let .alias name := t.kind then
    popState
    skip
    return ⟨.alias name, t.start⟩
  let start := t.start
  -- an anchor and a tag, in either order
  let (anchor, tagged, t) ← do
    match t.kind with
    | .anchor a =>
      skip
      let t2 ← peek
      match t2.kind with
      | .tag h s =>
        skip
        pure (some a, some (h, s, t2.start), ← peek)
      | _ => pure (some a, none, t2)
    | .tag h s =>
      skip
      let t2 ← peek
      match t2.kind with
      | .anchor a =>
        skip
        pure (some a, some (h, s, t.start), ← peek)
      | _ => pure (none, some (h, s, t.start), t2)
    | _ => pure (none, none, t)
  let tag ← match tagged with
    | none => pure ""
    | some (handle, suffix, tagMark) =>
      if handle.isEmpty then pure suffix
      else
        match (← get).tagDirectives.find? (·.1 == handle) with
        | some (_, pfx) => pure (pfx ++ suffix)
        | none => fail start tagMark "found undefined tag handle"
  if indentless && t.kind == .blockEntry then
    goTo .indentlessSequenceEntry
    return ⟨.sequenceStart anchor tag false, start⟩
  match t.kind with
  | .scalar text style =>
    popState
    skip
    return ⟨.scalar anchor tag text style, start⟩
  | .flowSequenceStart =>
    goTo .flowSequenceFirstEntry
    return ⟨.sequenceStart anchor tag true, start⟩
  | .flowMappingStart =>
    goTo .flowMappingFirstKey
    return ⟨.mappingStart anchor tag true, start⟩
  | .blockSequenceStart =>
    if block then
      goTo .blockSequenceFirstEntry
      return ⟨.sequenceStart anchor tag false, start⟩
  | .blockMappingStart =>
    if block then
      goTo .blockMappingFirstKey
      return ⟨.mappingStart anchor tag false, start⟩
  | _ => pure ()
  if anchor.isSome || !tag.isEmpty then
    popState
    return ⟨.scalar anchor tag "" .plain, start⟩
  fail start t.start "did not find expected node content"

/-- An entry of a block sequence, or its end. -/
def blockSequenceEntry (first : Bool) : Parse Event := do
  if first then
    pushMark (← peek).start
    skip
  let t ← peek
  match t.kind with
  | .blockEntry =>
    skip
    let t2 ← peek
    if t2.kind != .blockEntry && t2.kind != .blockEnd then
      pushState .blockSequenceEntry
      node true false
    else
      goTo .blockSequenceEntry
      return emptyScalar t.stop
  | .blockEnd =>
    popState
    let _ ← popMark
    skip
    return ⟨.sequenceEnd, t.start⟩
  | _ =>
    let context ← popMark
    fail context t.start "did not find expected '-' indicator"

/-- An entry of a sequence at its mapping's indentation, or its end. -/
def indentlessSequenceEntry : Parse Event := do
  let t ← peek
  if t.kind == .blockEntry then
    skip
    let t2 ← peek
    if t2.kind != .blockEntry && t2.kind != .key && t2.kind != .value && t2.kind != .blockEnd then
      pushState .indentlessSequenceEntry
      node true false
    else
      goTo .indentlessSequenceEntry
      return emptyScalar t.stop
  else
    popState
    return ⟨.sequenceEnd, t.start⟩

/-- A key of a block mapping, or its end. -/
def blockMappingKey (first : Bool) : Parse Event := do
  if first then
    pushMark (← peek).start
    skip
  let t ← peek
  match t.kind with
  | .key =>
    skip
    let t2 ← peek
    if t2.kind != .key && t2.kind != .value && t2.kind != .blockEnd then
      pushState .blockMappingValue
      node true true
    else
      goTo .blockMappingValue
      return emptyScalar t.stop
  | .blockEnd =>
    popState
    let _ ← popMark
    skip
    return ⟨.mappingEnd, t.start⟩
  | _ =>
    let context ← popMark
    fail context t.start "did not find expected key"

/-- A value of a block mapping; empty when the `:` is missing. -/
def blockMappingValue : Parse Event := do
  let t ← peek
  if t.kind == .value then
    skip
    let t2 ← peek
    if t2.kind != .key && t2.kind != .value && t2.kind != .blockEnd then
      pushState .blockMappingKey
      node true true
    else
      goTo .blockMappingKey
      return emptyScalar t.stop
  else
    goTo .blockMappingKey
    return emptyScalar t.start

/-- An entry of a flow sequence, or its end; an entry written as a key opens a
mapping of one pair. -/
def flowSequenceEntry (first : Bool) : Parse Event := do
  if first then
    pushMark (← peek).start
    skip
  let t ← peek
  if t.kind != .flowSequenceEnd then
    let t ← if !first then
        if t.kind == .flowEntry then do
          skip
          peek
        else do
          let context ← popMark
          fail context t.start "did not find expected ',' or ']'"
      else pure t
    if t.kind == .key then
      goTo .flowSequenceEntryMappingKey
      skip
      return ⟨.mappingStart none "" true, t.start⟩
    else if t.kind != .flowSequenceEnd then
      pushState .flowSequenceEntry
      return (← node false false)
    else
      popState
      let _ ← popMark
      skip
      return ⟨.sequenceEnd, t.start⟩
  popState
  let _ ← popMark
  skip
  return ⟨.sequenceEnd, t.start⟩

def flowSequenceEntryMappingKey : Parse Event := do
  let t ← peek
  if t.kind != .value && t.kind != .flowEntry && t.kind != .flowSequenceEnd then
    pushState .flowSequenceEntryMappingValue
    node false false
  else
    skip
    goTo .flowSequenceEntryMappingValue
    return emptyScalar t.stop

def flowSequenceEntryMappingValue : Parse Event := do
  let t ← peek
  if t.kind == .value then
    skip
    let t2 ← peek
    if t2.kind != .flowEntry && t2.kind != .flowSequenceEnd then
      pushState .flowSequenceEntryMappingEnd
      return (← node false false)
  goTo .flowSequenceEntryMappingEnd
  return emptyScalar t.start

def flowSequenceEntryMappingEnd : Parse Event := do
  let t ← peek
  goTo .flowSequenceEntry
  return ⟨.mappingEnd, t.start⟩

/-- A key of a flow mapping, or its end. -/
def flowMappingKey (first : Bool) : Parse Event := do
  if first then
    pushMark (← peek).start
    skip
  let t ← peek
  if t.kind != .flowMappingEnd then
    let t ← if !first then
        if t.kind == .flowEntry then do
          skip
          peek
        else do
          let context ← popMark
          fail context t.start "did not find expected ',' or '\x7d'"
      else pure t
    if t.kind == .key then
      skip
      let t2 ← peek
      if t2.kind != .value && t2.kind != .flowEntry && t2.kind != .flowMappingEnd then
        pushState .flowMappingValue
        return (← node false false)
      else
        goTo .flowMappingValue
        return emptyScalar t2.start
    else if t.kind != .flowMappingEnd then
      pushState .flowMappingEmptyValue
      return (← node false false)
    else
      popState
      let _ ← popMark
      skip
      return ⟨.mappingEnd, t.start⟩
  popState
  let _ ← popMark
  skip
  return ⟨.mappingEnd, t.start⟩

/-- A value of a flow mapping; empty when the `:` is missing. -/
def flowMappingValue (empty : Bool) : Parse Event := do
  let t ← peek
  if empty then
    goTo .flowMappingKey
    return emptyScalar t.start
  if t.kind == .value then
    skip
    let t2 ← peek
    if t2.kind != .flowEntry && t2.kind != .flowMappingEnd then
      pushState .flowMappingKey
      return (← node false false)
    goTo .flowMappingKey
    return emptyScalar t2.start
  goTo .flowMappingKey
  return emptyScalar t.start

/-- The next event; nothing once the stream has ended. -/
def next : Parse Event := do
  let r ← get
  if r.scanner.ended then return ⟨.nothing, {}⟩
  match r.state with
  | .finished => return ⟨.nothing, {}⟩
  | .streamStart => streamStart
  | .implicitDocumentStart => documentStart true
  | .documentStart => documentStart false
  | .documentContent => documentContent (node true false)
  | .documentEnd => documentEnd
  | .blockNode => node true false
  | .blockNodeOrIndentlessSequence => node true true
  | .flowNode => node false false
  | .blockSequenceFirstEntry => blockSequenceEntry true
  | .blockSequenceEntry => blockSequenceEntry false
  | .indentlessSequenceEntry => indentlessSequenceEntry
  | .blockMappingFirstKey => blockMappingKey true
  | .blockMappingKey => blockMappingKey false
  | .blockMappingValue => blockMappingValue
  | .flowSequenceFirstEntry => flowSequenceEntry true
  | .flowSequenceEntry => flowSequenceEntry false
  | .flowSequenceEntryMappingKey => flowSequenceEntryMappingKey
  | .flowSequenceEntryMappingValue => flowSequenceEntryMappingValue
  | .flowSequenceEntryMappingEnd => flowSequenceEntryMappingEnd
  | .flowMappingFirstKey => flowMappingKey true
  | .flowMappingKey => flowMappingKey false
  | .flowMappingValue => flowMappingValue false
  | .flowMappingEmptyValue => flowMappingValue true

end Parse

end Yaml

end Admissions
