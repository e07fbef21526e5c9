import Admissions.Text.Bytes

namespace Admissions

namespace Yaml

/-- A place in the text: the characters before it, and its line and column, all
counted from zero. -/
structure Mark where
  index : Nat := 0
  line : Nat := 0
  column : Nat := 0
  deriving Repr, Inhabited, BEq

/-- How a scalar is written. -/
inductive ScalarStyle where
  | plain
  | singleQuoted
  | doubleQuoted
  | literal
  | folded
  deriving Repr, Inhabited, BEq, DecidableEq

/-- The kinds of token. -/
inductive TokenKind where
  | streamStart
  | streamEnd
  | versionDirective (major minor : Nat)
  | tagDirective (handle pfx : String)
  | documentStart
  | documentEnd
  | blockSequenceStart
  | blockMappingStart
  | blockEnd
  | flowSequenceStart
  | flowSequenceEnd
  | flowMappingStart
  | flowMappingEnd
  | blockEntry
  | flowEntry
  | key
  | value
  | alias (name : String)
  | anchor (name : String)
  | tag (handle suffix : String)
  | scalar (text : String) (style : ScalarStyle)
  deriving Repr, Inhabited, BEq

/-- A token and where it starts and stops. -/
structure Token where
  kind : TokenKind
  start : Mark
  stop : Mark
  deriving Repr, Inhabited

/-- The report of a refused text naming a line, when it is not zero. -/
def located (line : Nat) (text : String) : String :=
  "yaml: " ++ (if line = 0 then "" else "line " ++ toString line ++ ": ") ++ text

/-- The report of a problem met while splitting: the context's line, else the
problem's, counted from one. -/
def scanReport (context problem : Mark) (text : String) : String :=
  located (if context.line ≠ 0 then context.line + 1
    else if problem.line ≠ 0 then problem.line + 1 else 0) text

def readerReport : String := "yaml: control characters are not allowed"

def isBreakChar (c : Char) : Bool :=
  c = '\r' || c = '\n' || c = '\u0085' || c = '\u2028' || c = '\u2029'

def isEnd (c : Char) : Bool := c = '\x00'

/-- A line break or the end. -/
def isBreakOrEnd (c : Char) : Bool := isBreakChar c || isEnd c

/-- A space or a tab. -/
def isBlankChar (c : Char) : Bool := c = ' ' || c = '\t'

/-- A blank, a line break or the end. -/
def isBlankOrEnd (c : Char) : Bool := isBlankChar c || isBreakOrEnd c

/-- A letter, a digit, `_` or `-`. -/
def isWordChar (c : Char) : Bool :=
  ('0' ≤ c && c ≤ '9') || ('A' ≤ c && c ≤ 'Z') || ('a' ≤ c && c ≤ 'z') || c = '_' || c = '-'

def isDigitChar (c : Char) : Bool := '0' ≤ c && c ≤ '9'

def isHexChar (c : Char) : Bool :=
  isDigitChar c || ('A' ≤ c && c ≤ 'F') || ('a' ≤ c && c ≤ 'f')

def hexValue (c : Char) : Nat :=
  if isDigitChar c then c.toNat - 48
  else if 'A' ≤ c && c ≤ 'F' then c.toNat - 55
  else c.toNat - 87

/-- A printable character in the narrow sense anchors use: a line feed, printable
ASCII, or a character of the basic plane from U+00A0 that is neither a surrogate
nor a byte order mark nor a non-character. -/
def isPrintableChar (c : Char) : Bool :=
  let n := c.toNat
  n = 0x0A || (0x20 ≤ n && n ≤ 0x7E) || (0xA0 ≤ n && n ≤ 0xD7FF) ||
    (0xE000 ≤ n && n ≤ 0xFFFD && n ≠ 0xFEFF)

/-- A bracket or comma of flow collections. -/
def isFlowIndicator (c : Char) : Bool :=
  c = '[' || c = ']' || c = '\x7b' || c = '\x7d' || c = ','

/-- A character of an anchor's or alias's name. -/
def isAnchorChar (c : Char) : Bool :=
  isPrintableChar c && !isBlankOrEnd c && !isFlowIndicator c

def backquote : Char := Char.ofNat 96

def endsAnchor (c : Char) : Bool :=
  isBlankOrEnd c || c = '?' || c = ':' || c = ',' || c = ']' || c = '\x7d' || c = '%' ||
    c = '@' || c = backquote

/-- A character of a tag's URI; `wide` admits `,`, `[` and `]` too. -/
def isUriChar (wide : Bool) (c : Char) : Bool :=
  isWordChar c || ";/?:@&=+$.%!~*'()".toList.contains c || (wide && (c = ',' || c = '[' || c = ']'))

def isIndicatorChar (c : Char) : Bool :=
  "-?:,[]\x7b\x7d#&*!|>'\"%@".toList.contains c || c = backquote

/-- A place where a key may start. -/
structure SimpleKey where
  possible : Bool := false
  required : Bool := false
  tokenNumber : Nat := 0
  mark : Mark := {}
  deriving Repr, Inhabited

/-- The state of the splitter. -/
structure Scanner where
  input : Array Char
  /-- How many characters the reader hands out before the chunk it refuses. -/
  readable : Nat
  pos : Nat := 0
  mark : Mark := {}
  started : Bool := false
  /-- Whether the end-of-stream token has been handed out. -/
  ended : Bool := false
  flowLevel : Nat := 0
  /-- Tokens not yet handed out. -/
  queue : List Token := []
  /-- How many tokens have been handed out. -/
  parsed : Nat := 0
  available : Bool := false
  indent : Int := -1
  indents : List Int := []
  keyAllowed : Bool := false
  /-- The possible key of each flow level. -/
  keys : Array SimpleKey := #[]
  /-- The flow level of the possible key at a token number. -/
  keysByToken : List (Nat × Nat) := []
  /-- Line breaks passed since the last character that is not blank. -/
  newlines : Nat := 0
  deriving Inhabited

/-- The character `k` places ahead; the end of the text reads as NUL. -/
def Scanner.charAt (s : Scanner) (k : Nat) : Char := s.input.getD (s.pos + k) '\x00'

def Scanner.level (s : Scanner) : Nat := s.keys.size - 1

abbrev Scan := StateT Scanner (Except String)

namespace Scan

/-- The character `k` places ahead. -/
def peekAt (k : Nat) : Scan Char := do return (← get).charAt k

def here : Scan Mark := do return (← get).mark

def budget : Scan Nat := do return (← get).input.size + 8

/-- Refuses the text: a problem with the place of its context. -/
def fail {α : Type} (context : Mark) (text : String) : Scan α := do
  throw (scanReport context (← get).mark text)

/-- Makes sure `n` characters ahead can be read. -/
def cache (n : Nat) : Scan Unit := do
  let s ← get
  if s.pos + n > s.readable then throw readerReport

def skip : Scan Unit := modify fun s =>
  { s with pos := s.pos + 1,
           mark := { s.mark with index := s.mark.index + 1, column := s.mark.column + 1 },
           newlines := if isBlankChar (s.charAt 0) then s.newlines else 0 }

/-- Passes one line break; a carriage return and line feed count as one. -/
def skipLine : Scan Unit := modify fun s =>
  if s.charAt 0 = '\r' && s.charAt 1 = '\n' then
    { s with pos := s.pos + 2, mark := ⟨s.mark.index + 2, s.mark.line + 1, 0⟩,
             newlines := s.newlines + 1 }
  else if isBreakChar (s.charAt 0) then
    { s with pos := s.pos + 1, mark := ⟨s.mark.index + 1, s.mark.line + 1, 0⟩,
             newlines := s.newlines + 1 }
  else s

def read : Scan Char := do
  let c ← peekAt 0
  skip
  return c

/-- Passes one line break, giving it as it is kept in a scalar: a line feed, or
the line or paragraph separator itself. -/
def readLine : Scan String := do
  let c ← peekAt 0
  if isBreakChar c then
    skipLine
    return (if c = '\u2028' || c = '\u2029' then String.singleton c else "\n")
  else return ""

/-- Passes characters while they pass a test, reading each one after the other. -/
def readWhile (p : Char → Bool) : Nat → String → Scan String
  | 0, acc => pure acc
  | n + 1, acc => do
    let c ← peekAt 0
    if p c then
      skip
      cache 1
      readWhile p n (acc.push c)
    else pure acc

def skipBlanks : Nat → Scan Unit
  | 0 => pure ()
  | n + 1 => do
    if isBlankChar (← peekAt 0) then
      skip
      cache 1
      skipBlanks n
    else pure ()

/-- Passes characters up to a line break or the end. -/
def skipToBreak : Nat → Scan Unit
  | 0 => pure ()
  | n + 1 => do
    if isBreakOrEnd (← peekAt 0) then pure ()
    else
      skip
      cache 1
      skipToBreak n

/-- Passes characters up to a place `k` characters ahead, line breaks as lines. -/
def advance (target : Nat) : Nat → Scan Unit
  | 0 => pure ()
  | n + 1 => do
    let s ← get
    if s.pos ≥ target then pure ()
    else
      cache 2
      if isBreakOrEnd (s.charAt 0) then skipLine else skip
      advance target n

def append (t : Token) : Scan Unit := modify fun s => { s with queue := s.queue ++ [t] }

/-- Inserts into a list at a position, or at the end when the list is shorter. -/
def insertAt {α : Type} : Nat → α → List α → List α
  | 0, a, l => a :: l
  | _, a, [] => [a]
  | n + 1, a, x :: l => x :: insertAt n a l

/-- The map from token numbers to key levels without a token number. -/
def forgetToken (n : Nat) (m : List (Nat × Nat)) : List (Nat × Nat) := m.filter (·.1 != n)

/-- Forgets the possible key of the current flow level; one the indentation
requires is refused. -/
def removeSimpleKey : Scan Unit := do
  let s ← get
  let i := s.level
  let k := s.keys.getD i {}
  if k.possible then
    if k.required then fail k.mark "could not find expected ':'"
    set { s with keys := s.keys.modify i (fun k => { k with possible := false }),
                 keysByToken := forgetToken k.tokenNumber s.keysByToken }

/-- Remembers that a key may start here, when one is allowed. -/
def saveSimpleKey : Scan Unit := do
  let s ← get
  if s.keyAllowed then
    let key : SimpleKey :=
      { possible := true, required := s.flowLevel == 0 && s.indent == (s.mark.column : Int),
        tokenNumber := s.parsed + s.queue.length, mark := s.mark }
    removeSimpleKey
    modify fun s =>
      let i := s.level
      { s with keys := s.keys.modify i (fun _ => key),
               keysByToken := (key.tokenNumber, i) :: forgetToken key.tokenNumber s.keysByToken }

/-- Whether the possible key of a level is still possible: not when the text has
moved to another line or more than 1024 characters on. A key the indentation
requires and that is no longer possible is refused. -/
def keyIsValid (level : Nat) : Scan Bool := do
  let s ← get
  let k := s.keys.getD level {}
  if !k.possible then return false
  if k.mark.line < s.mark.line || k.mark.index + 1024 < s.mark.index then
    if k.required then fail k.mark "could not find expected ':'"
    set { s with keys := s.keys.modify level fun k => { k with possible := false } }
    return false
  return true

def increaseFlowLevel : Scan Unit := do
  modify fun s => { s with keys := s.keys.push { mark := s.mark }, flowLevel := s.flowLevel + 1 }
  let s ← get
  if s.flowLevel > 10000 then
    fail (s.keys.getD s.level {}).mark "exceeded max depth of 10000"

def decreaseFlowLevel : Scan Unit := modify fun s =>
  if s.flowLevel > 0 then
    let last := s.keys.getD s.level {}
    { s with flowLevel := s.flowLevel - 1, keysByToken := forgetToken last.tokenNumber s.keysByToken,
             keys := s.keys.pop }
  else s

/-- Opens a block collection when `column` is deeper than the current
indentation: its token goes at the end of the queue, or before the token numbered
`number`. -/
def rollIndent (column : Int) (number : Option Nat) (kind : TokenKind) (m : Mark) : Scan Unit := do
  let s ← get
  if s.flowLevel > 0 then return
  if s.indent < column then
    set { s with indents := s.indent :: s.indents, indent := column }
    if s.indents.length + 1 > 10000 then
      fail (s.keys.getD s.level {}).mark "exceeded max depth of 10000"
    let t : Token := ⟨kind, m, m⟩
    match number with
    | none => append t
    | some n => modify fun s => { s with queue := insertAt (n - s.parsed) t s.queue }

/-- Closes the block collections deeper than `column`. -/
def unrollLoop (column : Int) (m : Mark) : Nat → Scan Unit
  | 0 => pure ()
  | n + 1 => do
    let s ← get
    if s.indent > column then
      match s.indents with
      | top :: rest =>
        set { s with queue := s.queue ++ [(⟨.blockEnd, m, m⟩ : Token)], indent := top, indents := rest }
        unrollLoop column m n
      | [] => pure ()
    else pure ()

/-- Closes the block collections deeper than `column`; their ends are placed just
before `scanMark`. -/
def unrollIndent (column : Int) (scanMark : Mark) : Scan Unit := do
  let s ← get
  if s.flowLevel > 0 then return
  unrollLoop column { scanMark with index := scanMark.index - 1 } (s.indents.length + 1)

/-- The first place from `k` on, within 512 characters, that holds neither a blank
nor a line break, when it holds a comment: blank lines may stand between. A closing
bracket inside a flow collection, or the end, stops the search. -/
def commentAhead (s : Scanner) : Nat → Nat → Option Nat
  | 0, _ => none
  | n + 1, k =>
    if k ≥ 512 then none else
    let c := s.charAt k
    if isBlankChar c then commentAhead s n (k + 1)
    else if s.flowLevel > 0 && (c = ']' || c = '\x7d') then none
    else if isBreakChar c then commentAhead s n (k + 1)
    else if c = '#' then some k
    else none

/-- Passes a comment, and with it any later comment that only blank lines or
blanks separate from it. -/
def skipComments : Nat → Scan Unit
  | 0 => pure ()
  | n + 1 => do
    skipToBreak (← budget)
    let s ← get
    match commentAhead s (s.input.size + 8) 1 with
    | some k =>
      advance (s.pos + k) (← budget)
      skipComments n
    | none => pure ()

/-- Passes blanks, comments and line breaks up to the next token. Tabs are passed
only inside flow collections or where no key may start. -/
def scanToNextToken : Nat → Scan Unit
  | 0 => pure ()
  | n + 1 => do
    cache 1
    let s ← get
    if s.mark.column == 0 && s.charAt 0 = '\uFEFF' then skip
    cache 1
    let rec eat : Nat → Scan Unit
      | 0 => pure ()
      | m + 1 => do
        let s ← get
        let c := s.charAt 0
        if c = ' ' || ((s.flowLevel > 0 || !s.keyAllowed) && c = '\t') then
          skip
          cache 1
          eat m
        else pure ()
    eat (← budget)
    if (← peekAt 0) = '#' then skipComments (← budget)
    if isBreakChar (← peekAt 0) then
      cache 2
      skipLine
      modify fun s => if s.flowLevel == 0 then { s with keyAllowed := true } else s
      scanToNextToken n
    else pure ()

def skipLineComment : Scan Unit := do
  let s ← get
  if s.newlines > 0 then return
  let rec find : Nat → Nat → Option Nat
    | 0, _ => none
    | n + 1, k =>
      if k ≥ 512 then none
      else if isBlankChar (s.charAt k) then find n (k + 1)
      else if s.charAt k = '#' then some k
      else none
  match find 513 0 with
  | some k =>
    advance (s.pos + k) (← budget)
    skipToBreak (← budget)
  | none => pure ()

/-! ### Directives -/

def scanDirectiveName (start : Mark) : Scan String := do
  cache 1
  let name ← readWhile isWordChar (← budget) ""
  if name.isEmpty then fail start "could not find expected directive name"
  if !isBlankOrEnd (← peekAt 0) then fail start "found unexpected non-alphabetical character"
  return name

/-- One number of a version: one or two digits. -/
def scanVersionNumber (start : Mark) : Scan Nat := do
  cache 1
  let rec digits : Nat → Nat → Nat → Scan (Nat × Nat)
    | 0, v, len => pure (v, len)
    | n + 1, v, len => do
      let c ← peekAt 0
      if isDigitChar c then
        if len + 1 > 2 then fail start "found extremely long version number"
        skip
        cache 1
        digits n (v * 10 + (c.toNat - 48)) (len + 1)
      else pure (v, len)
  let (v, len) ← digits 4 0 0
  if len == 0 then fail start "did not find expected version number"
  return v

/-- The version of a `%YAML` directive. -/
def scanVersion (start : Mark) : Scan (Nat × Nat) := do
  cache 1
  skipBlanks (← budget)
  let major ← scanVersionNumber start
  if (← peekAt 0) != '.' then fail start "did not find expected digit or '.' character"
  skip
  let minor ← scanVersionNumber start
  return (major, minor)

/-- A tag handle: `!`, `!!` or `!word!`. Inside a `%TAG` directive a handle must
end with `!`. -/
def scanTagHandle (directive : Bool) (start : Mark) : Scan String := do
  cache 1
  if (← peekAt 0) != '!' then fail start "did not find expected '!'"
  let first ← read
  cache 1
  let s ← readWhile isWordChar (← budget) (String.singleton first)
  if (← peekAt 0) = '!' then
    let c ← read
    return s.push c
  else
    if directive && s != "!" then fail start "did not find expected '!'"
    return s

/-- One character written as `%`-escaped UTF-8 bytes. -/
def scanUriEscapes (start : Mark) : Scan Char := do
  let rec bytes : Nat → Nat → List Nat → Scan (List Nat)
    | 0, _, acc => pure acc
    | n + 1, width, acc => do
      cache 3
      let s ← get
      if !(s.charAt 0 = '%' && isHexChar (s.charAt 1) && isHexChar (s.charAt 2)) then
        fail start "did not find URI escaped octet"
      let octet := hexValue (s.charAt 1) * 16 + hexValue (s.charAt 2)
      let width ←
        if acc.isEmpty then
          let w := if octet < 0x80 then 1 else if octet / 32 = 6 then 2
            else if octet / 16 = 14 then 3 else if octet / 8 = 30 then 4 else 0
          if w == 0 then fail start "found an incorrect leading UTF-8 octet"
          pure w
        else
          if octet / 64 != 2 then fail start "found an incorrect trailing UTF-8 octet"
          pure width
      skip
      skip
      skip
      if acc.length + 1 ≥ width then pure (acc ++ [octet]) else bytes n width (acc ++ [octet])
  let bs ← bytes 4 0 []
  return ((Text.decodeUtf8 bs).toList.headD '\uFFFD')

/-- The URI of a tag, after `head` without its leading `!`. -/
def scanTagUri (wide : Bool) (head : String) (start : Mark) : Scan String := do
  cache 1
  let rec go : Nat → String → Bool → Scan (String × Bool)
    | 0, acc, seen => pure (acc, seen)
    | n + 1, acc, seen => do
      let c ← peekAt 0
      if isUriChar wide c then
        let c ← if c = '%' then scanUriEscapes start else read
        let acc := acc.push c
        cache 1
        go n acc true
      else pure (acc, seen)
  let (uri, seen) ← go (← budget) (String.ofList (head.toList.drop 1)) (head.length > 0)
  if !seen then fail start "did not find expected tag URI"
  return uri

/-- The handle and prefix of a `%TAG` directive. -/
def scanTagDirective (start : Mark) : Scan (String × String) := do
  cache 1
  skipBlanks (← budget)
  let handle ← scanTagHandle true start
  cache 1
  if !isBlankChar (← peekAt 0) then fail start "did not find expected whitespace"
  skipBlanks (← budget)
  let pfx ← scanTagUri true "" start
  cache 1
  if !isBlankOrEnd (← peekAt 0) then fail start "did not find expected whitespace or line break"
  return (handle, pfx)

def scanDirective : Scan Token := do
  let start ← here
  skip
  let name ← scanDirectiveName start
  let token ←
    if name == "YAML" then do
      let (major, minor) ← scanVersion start
      pure (⟨.versionDirective major minor, start, ← here⟩ : Token)
    else if name == "TAG" then do
      let (handle, pfx) ← scanTagDirective start
      pure (⟨.tagDirective handle pfx, start, ← here⟩ : Token)
    else fail start "found unknown directive name"
  cache 1
  skipBlanks (← budget)
  if (← peekAt 0) = '#' then skipToBreak (← budget)
  if !isBreakOrEnd (← peekAt 0) then fail start "did not find expected comment or line break"
  if isBreakChar (← peekAt 0) then
    cache 2
    skipLine
  return token

/-! ### Anchors and tags -/

/-- An anchor `&name` or an alias `*name`. -/
def scanAnchor (isAlias : Bool) : Scan Token := do
  let start ← here
  skip
  cache 1
  let name ← readWhile isAnchorChar (← budget) ""
  let stop ← here
  if name.isEmpty || !endsAnchor (← peekAt 0) then
    fail start "did not find expected alphabetic or numeric character"
  return ⟨if isAlias then .alias name else .anchor name, start, stop⟩

/-- A tag: `!<uri>`, `!handle!suffix`, `!suffix` or `!` alone. -/
def scanTag : Scan Token := do
  let start ← here
  cache 2
  let (handle, suffix) ←
    if (← peekAt 1) = '<' then do
      skip
      skip
      let suffix ← scanTagUri true "" start
      if (← peekAt 0) != '>' then fail start "did not find the expected '>'"
      skip
      pure ("", suffix)
    else do
      let handle ← scanTagHandle false start
      if handle.length > 1 && handle.endsWith "!" then
        pure (handle, ← scanTagUri false "" start)
      else
        let suffix ← scanTagUri false handle start
        if suffix.isEmpty then pure ("", "!") else pure ("!", suffix)
  cache 1
  let c ← peekAt 0
  if !isBlankOrEnd c then
    if (← get).flowLevel == 0 || c != ',' then
      fail start "did not find expected whitespace or line break"
  return ⟨.tag handle suffix, start, ← here⟩

/-! ### Block scalars -/

/-- Passes spaces of indentation, up to column `limit` when it is not zero. -/
def indentSpaces (limit : Nat) : Nat → Scan Unit
  | 0 => pure ()
  | n + 1 => do
    cache 1
    let s ← get
    if (limit == 0 || s.mark.column < limit) && s.charAt 0 = ' ' then
      skip
      indentSpaces limit n
    else pure ()

/-- Passes the indentation and empty lines before a line of a block scalar,
keeping the line breaks; with no indentation given, the deepest indentation of
those lines (at least one more than the enclosing block) becomes the scalar's.
Gives the indentation, the breaks and the place after the last break. -/
def blockBreaks (start : Mark) (indent : Nat) : Nat → Nat → String → Mark → Scan (Nat × String × Mark)
  | 0, _, breaks, stop => pure (indent, breaks, stop)
  | n + 1, deepest, breaks, stop => do
    indentSpaces indent (← budget)
    let s ← get
    let deepest := max deepest s.mark.column
    if (indent == 0 || s.mark.column < indent) && s.charAt 0 = '\t' then
      fail start "found a tab character where an indentation space is expected"
    if isBreakChar (s.charAt 0) then
      cache 2
      let b ← readLine
      blockBreaks start indent n deepest (breaks ++ b) (← here)
    else if indent == 0 then
      let i : Int := max (max (deepest : Int) (s.indent + 1)) 1
      pure (i.toNat, breaks, stop)
    else pure (indent, breaks, stop)

/-- A literal (`|`) or folded (`>`) scalar: its header, with an optional
indentation digit and chomping sign, then its lines. -/
def scanBlockScalar (literal : Bool) : Scan Token := do
  let start ← here
  skip
  cache 1
  let (chomping, increment) ← do
    let c ← peekAt 0
    if c = '+' || c = '-' then
      let chomping : Int := if c = '+' then 1 else -1
      skip
      cache 1
      let d ← peekAt 0
      if isDigitChar d then
        if d = '0' then fail start "found an indentation indicator equal to 0"
        skip
        pure (chomping, d.toNat - 48)
      else pure (chomping, 0)
    else if isDigitChar c then
      if c = '0' then fail start "found an indentation indicator equal to 0"
      skip
      cache 1
      let d ← peekAt 0
      if d = '+' || d = '-' then
        skip
        pure ((if d = '+' then 1 else -1 : Int), c.toNat - 48)
      else pure (0, c.toNat - 48)
    else pure (0, 0)
  cache 1
  skipBlanks (← budget)
  if (← peekAt 0) = '#' then
    skipLineComment
    skipToBreak (← budget)
  if !isBreakOrEnd (← peekAt 0) then fail start "did not find expected comment or line break"
  if isBreakChar (← peekAt 0) then
    cache 2
    skipLine
  let s ← get
  let indent : Nat :=
    if increment > 0 then (if s.indent ≥ 0 then (s.indent + increment).toNat else increment) else 0
  let (indent, trailing, stop) ← blockBreaks start indent (← budget) 0 "" (← here)
  cache 1
  let rec body (text leading trailing : String) (leadingBlank : Bool) (stop : Mark) :
      Nat → Scan (String × String × String × Mark)
    | 0 => pure (text, leading, trailing, stop)
    | n + 1 => do
      let s ← get
      if s.mark.column == indent && !isEnd (s.charAt 0) then
        let trailingBlank := isBlankChar (s.charAt 0)
        let text :=
          if !literal && !leadingBlank && !trailingBlank && leading.startsWith "\n" then
            (if trailing.isEmpty then text.push ' ' else text)
          else text ++ leading
        let text := text ++ trailing
        let leadingBlank := isBlankChar (s.charAt 0)
        let rec line (acc : String) : Nat → Scan String
          | 0 => pure acc
          | m + 1 => do
            if isBreakOrEnd (← peekAt 0) then pure acc
            else
              let c ← read
              cache 1
              line (acc.push c) m
        let text ← line text (← budget)
        cache 2
        let leading ← readLine
        let (_, trailing, stop) ← blockBreaks start indent (← budget) 0 "" (← here)
        body text leading trailing leadingBlank stop n
      else pure (text, leading, trailing, stop)
  let (text, leading, trailing, stop) ← body "" "" trailing false stop (← budget)
  let text := if chomping != -1 then text ++ leading else text
  let text := if chomping == 1 then text ++ trailing else text
  return ⟨.scalar text (if literal then .literal else .folded), start, stop⟩

/-! ### Quoted scalars -/

/-- Whether the text at the current place starts a document marker `---` or
`...` at the start of a line. -/
def atDocumentMarker : Scan Bool := do
  let s ← get
  return s.mark.column == 0 &&
    ((s.charAt 0 = '-' && s.charAt 1 = '-' && s.charAt 2 = '-') ||
     (s.charAt 0 = '.' && s.charAt 1 = '.' && s.charAt 2 = '.')) &&
    isBlankOrEnd (s.charAt 3)

/-- The character a one-letter escape of a double-quoted scalar stands for. -/
def simpleEscape : Char → Option String
  | '0' => some "\x00"
  | 'a' => some "\x07"
  | 'b' => some "\x08"
  | 't' => some "\t"
  | '\t' => some "\t"
  | 'n' => some "\n"
  | 'v' => some "\x0b"
  | 'f' => some "\x0c"
  | 'r' => some "\r"
  | 'e' => some "\x1b"
  | ' ' => some " "
  | '"' => some "\""
  | '\'' => some "'"
  | '\\' => some "\\"
  | 'N' => some "\u0085"
  | '_' => some "\u00A0"
  | 'L' => some "\u2028"
  | 'P' => some "\u2029"
  | _ => none

/-- The characters of one line of a quoted scalar up to a blank, a line break or
the closing quote; whether it ended in an escaped line break. -/
def quotedRun (single : Bool) (start : Mark) : Nat → String → Scan (String × Bool)
  | 0, acc => pure (acc, false)
  | n + 1, acc => do
    let s ← get
    let c := s.charAt 0
    if isBlankOrEnd c then pure (acc, false)
    else if single && c = '\'' && s.charAt 1 = '\'' then
      skip
      skip
      cache 2
      quotedRun single start n (acc.push '\'')
    else if single && c = '\'' then pure (acc, false)
    else if !single && c = '"' then pure (acc, false)
    else if !single && c = '\\' && isBreakChar (s.charAt 1) then
      cache 3
      skip
      skipLine
      pure (acc, true)
    else if !single && c = '\\' then
      let e := s.charAt 1
      let width : Nat := if e = 'x' then 2 else if e = 'u' then 4 else if e = 'U' then 8 else 0
      match simpleEscape e, width with
      | none, 0 => fail start "found unknown escape character"
      | some t, _ =>
        skip
        skip
        cache 2
        quotedRun single start n (acc ++ t)
      | none, w =>
        skip
        skip
        cache w
        let s ← get
        let digits := (List.range w).map s.charAt
        if !digits.all isHexChar then fail start "did not find expected hexdecimal number"
        let value := digits.foldl (fun v d => v * 16 + hexValue d) 0
        if (0xD800 ≤ value && value ≤ 0xDFFF) || value > 0x10FFFF then
          fail start "found invalid Unicode character escape code"
        for _ in List.range w do skip
        cache 2
        quotedRun single start n (acc.push (Char.ofNat value))
    else
      skip
      cache 2
      quotedRun single start n (acc.push c)

def quotedSpace (leadingBlanks : Bool) (spaces leading trailing : String) :
    Nat → Scan (Bool × String × String × String)
  | 0 => pure (leadingBlanks, spaces, leading, trailing)
  | n + 1 => do
    let c ← peekAt 0
    if isBlankChar c then
      if !leadingBlanks then
        skip
        cache 1
        quotedSpace leadingBlanks (spaces.push c) leading trailing n
      else
        skip
        cache 1
        quotedSpace leadingBlanks spaces leading trailing n
    else if isBreakChar c then
      cache 2
      if !leadingBlanks then
        let b ← readLine
        cache 1
        quotedSpace true "" b trailing n
      else
        let b ← readLine
        cache 1
        quotedSpace true spaces leading (trailing ++ b) n
    else pure (leadingBlanks, spaces, leading, trailing)

/-- Joins what stands between two runs of a quoted or plain scalar: blanks are
kept, a single line break becomes a space, and further line breaks are kept. -/
def fold (leadingBlanks : Bool) (spaces leading trailing : String) : String :=
  if leadingBlanks then
    if leading.startsWith "\n" then (if trailing.isEmpty then " " else trailing)
    else leading ++ trailing
  else spaces

/-- A single- or double-quoted scalar. -/
def scanFlowScalar (single : Bool) : Scan Token := do
  let start ← here
  skip
  let rec go : Nat → String → Scan String
    | 0, acc => pure acc
    | n + 1, acc => do
      cache 4
      if ← atDocumentMarker then fail start "found unexpected document indicator"
      if isEnd (← peekAt 0) then fail start "found unexpected end of stream"
      let (acc, escapedBreak) ← quotedRun single start (← budget) acc
      cache 1
      let c ← peekAt 0
      if (single && c = '\'') || (!single && c = '"') then pure acc
      else
        let (lb, spaces, leading, trailing) ← quotedSpace escapedBreak "" "" "" (← budget)
        go n (acc ++ fold lb spaces leading trailing)
  let text ← go (← budget) ""
  skip
  return ⟨.scalar text (if single then .singleQuoted else .doubleQuoted), start, ← here⟩

/-! ### Plain scalars -/

/-- A plain scalar: runs of characters up to `: `, a comment, a flow indicator
inside a flow collection, a document marker, or a line indented no deeper than
the enclosing block. -/
def scanPlainScalar : Scan Token := do
  let start ← here
  let s0 ← get
  let indent : Int := s0.indent + 1
  let rec run (acc pending : String) (stop : Mark) : Nat → Scan (String × String × Mark)
    | 0 => pure (acc, pending, stop)
    | n + 1 => do
      let s ← get
      let c := s.charAt 0
      if isBlankOrEnd c then pure (acc, pending, stop)
      else if (c = ':' && isBlankOrEnd (s.charAt 1)) ||
          (s.flowLevel > 0 && (c = ',' || c = '?' || c = '[' || c = ']' || c = '\x7b' || c = '\x7d')) then
        pure (acc, pending, stop)
      else
        let acc := acc ++ pending
        skip
        let stop ← here
        cache 2
        run (acc.push c) "" stop n
  let rec space (leadingBlanks : Bool) (spaces leading trailing : String) :
      Nat → Scan (Bool × String × String × String)
    | 0 => pure (leadingBlanks, spaces, leading, trailing)
    | n + 1 => do
      let s ← get
      let c := s.charAt 0
      if isBlankChar c then
        if leadingBlanks && (s.mark.column : Int) < indent && c = '\t' then
          fail start "found a tab character that violates indentation"
        skip
        cache 1
        if !leadingBlanks then space leadingBlanks (spaces.push c) leading trailing n
        else space leadingBlanks spaces leading trailing n
      else if isBreakChar c then
        cache 2
        let b ← readLine
        cache 1
        if !leadingBlanks then space true "" b trailing n
        else space true spaces leading (trailing ++ b) n
      else pure (leadingBlanks, spaces, leading, trailing)
  let rec go (acc : String) (lb : Bool) (spaces leading trailing : String) (stop : Mark) :
      Nat → Scan (String × Mark × Bool)
    | 0 => pure (acc, stop, lb)
    | n + 1 => do
      cache 4
      if ← atDocumentMarker then return (acc, stop, lb)
      if (← peekAt 0) = '#' then return (acc, stop, lb)
      let before := (← get).pos
      let (acc', _, stop') ← run acc (fold lb spaces leading trailing) stop (← budget)
      let moved := (← get).pos != before
      let (acc, lb, spaces, leading, trailing, stop) :=
        if moved then (acc', false, "", "", "", stop') else (acc, lb, spaces, leading, trailing, stop)
      let c ← peekAt 0
      if !(isBlankChar c || isBreakChar c) then return (acc, stop, lb)
      cache 1
      let (lb, spaces, leading, trailing) ← space lb spaces leading trailing (← budget)
      let s ← get
      if s.flowLevel == 0 && (s.mark.column : Int) < indent then return (acc, stop, lb)
      go acc lb spaces leading trailing stop n
  let (text, stop, lb) ← go "" false "" "" "" start (← budget)
  if lb then modify fun s => { s with keyAllowed := true }
  return ⟨.scalar text .plain, start, stop⟩

/-! ### Fetching tokens -/

def fetchStreamStart : Scan Unit := modify fun s =>
  { s with indent := -1, keys := s.keys.push {}, keysByToken := [], keyAllowed := true,
           started := true, queue := s.queue ++ [⟨.streamStart, s.mark, s.mark⟩] }

/-- The token at the end of the stream, after closing every block. -/
def fetchStreamEnd : Scan Unit := do
  modify fun s =>
    if s.mark.column != 0 then { s with mark := { s.mark with column := 0, line := s.mark.line + 1 } }
    else s
  unrollIndent (-1) (← here)
  removeSimpleKey
  modify fun s => { s with keyAllowed := false, queue := s.queue ++ [⟨.streamEnd, s.mark, s.mark⟩] }

/-- A directive, after closing every block. -/
def fetchDirective : Scan Unit := do
  unrollIndent (-1) (← here)
  removeSimpleKey
  modify fun s => { s with keyAllowed := false }
  append (← scanDirective)

/-- A document marker, after closing every block. -/
def fetchDocumentIndicator (kind : TokenKind) : Scan Unit := do
  unrollIndent (-1) (← here)
  removeSimpleKey
  modify fun s => { s with keyAllowed := false }
  let start ← here
  skip
  skip
  skip
  append ⟨kind, start, ← here⟩

def single (kind : TokenKind) : Scan Unit := do
  let start ← here
  skip
  append ⟨kind, start, ← here⟩

def fetchFlowCollectionStart (kind : TokenKind) : Scan Unit := do
  saveSimpleKey
  increaseFlowLevel
  modify fun s => { s with keyAllowed := true }
  single kind

def fetchFlowCollectionEnd (kind : TokenKind) : Scan Unit := do
  removeSimpleKey
  decreaseFlowLevel
  modify fun s => { s with keyAllowed := false }
  single kind

def fetchFlowEntry : Scan Unit := do
  removeSimpleKey
  modify fun s => { s with keyAllowed := true }
  single .flowEntry

/-- A block sequence entry `-`. -/
def fetchBlockEntry : Scan Unit := do
  let s ← get
  if s.flowLevel == 0 then
    if !s.keyAllowed then fail s.mark "block sequence entries are not allowed in this context"
    rollIndent s.mark.column none .blockSequenceStart s.mark
  removeSimpleKey
  modify fun s => { s with keyAllowed := true }
  single .blockEntry

/-- An explicit key indicator `?`. -/
def fetchKey : Scan Unit := do
  let s ← get
  if s.flowLevel == 0 then
    if !s.keyAllowed then fail s.mark "mapping keys are not allowed in this context"
    rollIndent s.mark.column none .blockMappingStart s.mark
  removeSimpleKey
  modify fun s => { s with keyAllowed := s.flowLevel == 0 }
  single .key

/-- A value indicator `:`; when a key was possible before it, the key's tokens go
in at the key's place. -/
def fetchValue : Scan Unit := do
  let level := (← get).level
  if ← keyIsValid level then
    let s ← get
    let k := s.keys.getD level {}
    modify fun s => { s with queue := insertAt (k.tokenNumber - s.parsed) ⟨.key, k.mark, k.mark⟩ s.queue }
    rollIndent k.mark.column (some k.tokenNumber) .blockMappingStart k.mark
    modify fun s =>
      { s with keys := s.keys.modify level (fun k => { k with possible := false }),
               keysByToken := forgetToken k.tokenNumber s.keysByToken,
               keyAllowed := false }
  else
    let s ← get
    if s.flowLevel == 0 then
      if !s.keyAllowed then fail s.mark "mapping values are not allowed in this context"
      rollIndent s.mark.column none .blockMappingStart s.mark
    modify fun s => { s with keyAllowed := s.flowLevel == 0 }
  single .value

/-- An anchor or alias, which may start a key. -/
def fetchAnchor (isAlias : Bool) : Scan Unit := do
  saveSimpleKey
  modify fun s => { s with keyAllowed := false }
  append (← scanAnchor isAlias)

def fetchTag : Scan Unit := do
  saveSimpleKey
  modify fun s => { s with keyAllowed := false }
  append (← scanTag)

def fetchBlockScalar (literal : Bool) : Scan Unit := do
  removeSimpleKey
  modify fun s => { s with keyAllowed := true }
  append (← scanBlockScalar literal)

def fetchFlowScalar (single : Bool) : Scan Unit := do
  saveSimpleKey
  modify fun s => { s with keyAllowed := false }
  append (← scanFlowScalar single)

def fetchPlainScalar : Scan Unit := do
  saveSimpleKey
  modify fun s => { s with keyAllowed := false }
  append (← scanPlainScalar)

/-- A token that is not a marker of the stream, a directive or a document. -/
def fetchContentToken : Scan Unit := do
  let s ← get
  let c := s.charAt 0
  let next := s.charAt 1
  if c = '[' then fetchFlowCollectionStart .flowSequenceStart
  else if c = '\x7b' then fetchFlowCollectionStart .flowMappingStart
  else if c = ']' then fetchFlowCollectionEnd .flowSequenceEnd
  else if c = '\x7d' then fetchFlowCollectionEnd .flowMappingEnd
  else if c = ',' then fetchFlowEntry
  else if c = '-' && isBlankOrEnd next then fetchBlockEntry
  else if c = '?' && (s.flowLevel > 0 || isBlankOrEnd next) then fetchKey
  else if c = ':' && (s.flowLevel > 0 || isBlankOrEnd next) then fetchValue
  else if c = '*' then fetchAnchor true
  else if c = '&' then fetchAnchor false
  else if c = '!' then fetchTag
  else if c = '|' && s.flowLevel == 0 then fetchBlockScalar true
  else if c = '>' && s.flowLevel == 0 then fetchBlockScalar false
  else if c = '\'' then fetchFlowScalar true
  else if c = '"' then fetchFlowScalar false
  else if !(isBlankOrEnd c || isIndicatorChar c) || (c = '-' && !isBlankChar next) ||
      (s.flowLevel == 0 && (c = '?' || c = ':') && !isBlankOrEnd next) then
    fetchPlainScalar
  else fail s.mark "found character that cannot start any token"

def fetchNextToken : Scan Unit := do
  cache 1
  if !(← get).started then
    fetchStreamStart
    return
  let scanMark ← here
  scanToNextToken (← budget)
  unrollIndent (← here).column scanMark
  cache 4
  let s ← get
  let c := s.charAt 0
  let marker (d : Char) : Bool :=
    s.mark.column == 0 && c = d && s.charAt 1 = d && s.charAt 2 = d && isBlankOrEnd (s.charAt 3)
  if isEnd c then fetchStreamEnd
  else if s.mark.column == 0 && c = '%' then fetchDirective
  else if marker '-' then fetchDocumentIndicator .documentStart
  else if marker '.' then fetchDocumentIndicator .documentEnd
  else
    fetchContentToken
    let s ← get
    if !(s.queue.getLast?.map (·.kind == .blockEntry)).getD false then skipLineComment

/-- Reads tokens until three are queued, and further while the first queued token
may still turn out to be a key. -/
def fetchMoreTokens : Nat → Scan Unit
  | 0 => modify fun s => { s with available := true }
  | n + 1 => do
    let s ← get
    if s.queue.length > 2 then
      match (s.keysByToken.find? (·.1 == s.parsed)).map (·.2) with
      | none =>
        modify fun s => { s with available := true }
        return
      | some level =>
        if !(← keyIsValid level) then
          modify fun s => { s with available := true }
          return
    fetchNextToken
    fetchMoreTokens n

/-- The next token, read when needed. -/
def peekToken : Scan Token := do
  if !(← get).available then fetchMoreTokens ((← budget) + 4096)
  return ((← get).queue.head?.getD ⟨.streamEnd, (← here), (← here)⟩)

def skipToken : Scan Unit := modify fun s =>
  match s.queue with
  | t :: rest =>
    { s with available := false, parsed := s.parsed + 1, ended := t.kind == .streamEnd, queue := rest }
  | [] => { s with available := false }

end Scan

/-- The characters a reader hands out before the chunk of 512 bytes that holds
the first control character, the byte order mark at the start not counted. -/
def readableChars (text : String) : Nat :=
  let cs := text.toList
  let (bom, cs) := match cs with
    | '\uFEFF' :: rest => (3, rest)
    | _ => (0, cs)
  let refused (c : Char) : Bool :=
    let n := c.toNat
    !(n = 0x09 || n = 0x0A || n = 0x0D || (0x20 ≤ n && n ≤ 0x7E) || n = 0x85 ||
      (0xA0 ≤ n && n ≤ 0xD7FF) || (0xE000 ≤ n && n ≤ 0xFFFD) || 0x10000 ≤ n)
  -- each character's index and the byte just past it
  let ends := (cs.foldl (fun (acc : List Nat × Nat) c =>
      let e := acc.2 + (String.singleton c).utf8ByteSize
      (e :: acc.1, e)) ([], bom)).1.reverse
  match cs.findIdx? refused with
  | none => cs.length + 4096
  | some i =>
    let lastByte := (ends.getD i 1) - 1
    let chunkStart := lastByte / 512 * 512
    (ends.filter (· ≤ chunkStart)).length

/-- A splitter at the start of a text; an empty text reads as one line break. -/
def Scanner.ofText (text : String) : Scanner :=
  let text := if text.isEmpty then "\n" else text
  let cs := match text.toList with
    | '\uFEFF' :: rest => rest
    | l => l
  { input := cs.toArray, readable := readableChars text }

end Yaml

end Admissions
