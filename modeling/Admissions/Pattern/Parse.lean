import Admissions.Pattern.Tree

namespace Admissions

/-- The flags that change how a pattern's parts read. -/
structure PatternFlags where
  caseless : Bool := false
  multiline : Bool := false
  dotAll : Bool := false
  ungreedy : Bool := false
  deriving Inhabited

/-- An entry of the reader's stack: a part read, an open group (capturing or not,
with the flags to restore when it closes), or the bar after finished alternatives. -/
inductive StackEntry where
  | part (re : Regex)
  | opening (capturing : Bool) (saved : PatternFlags)
  | bar
  deriving Inhabited

namespace PatternSyntax

def hexValue (c : Char) : Option Nat :=
  if '0' ≤ c && c ≤ '9' then some (c.toNat - 48)
  else if 'a' ≤ c && c ≤ 'f' then some (c.toNat - 87)
  else if 'A' ≤ c && c ≤ 'F' then some (c.toNat - 55)
  else none

def isOctal (c : Char) : Bool := '0' ≤ c && c ≤ '7'

/-- Whether a character is an ASCII letter or digit. -/
def isAsciiAlnum (c : Char) : Bool := c.toNat < 128 && c.isAlphanum

def hexBraced (acc : Nat) (count : Nat) : List Char → Except String (Nat × List Char)
  | [] => .error "invalid escape sequence"
  | '\x7d' :: rest => if count = 0 then .error "invalid escape sequence" else .ok (acc, rest)
  | c :: rest =>
    match hexValue c with
    | some d =>
      let v := acc * 16 + d
      if v > CharRanges.maxCode then .error "invalid escape sequence" else hexBraced v (count + 1) rest
    | none => .error "invalid escape sequence"

/-- Up to `n` more octal digits after a value. -/
def octalMore (acc : Nat) : Nat → List Char → Nat × List Char
  | 0, cs => (acc, cs)
  | n + 1, c :: rest => if isOctal c then octalMore (acc * 8 + (c.toNat - 48)) n rest else (acc, c :: rest)
  | _ + 1, [] => (acc, [])

/-- The character an escape stands for, read after its backslash. -/
def escapeChar : List Char → Except String (Nat × List Char)
  | [] => .error "trailing backslash at end of expression"
  | c :: rest =>
    if '1' ≤ c && c ≤ '7' then
      match rest with
      | d :: _ => if isOctal d then .ok (octalMore (c.toNat - 48) 2 rest) else .error "invalid escape sequence"
      | [] => .error "invalid escape sequence"
    else if c = '0' then .ok (octalMore 0 2 rest)
    else if c = 'x' then
      match rest with
      | [] => .error "invalid escape sequence"
      | '\x7b' :: more => hexBraced 0 0 more
      | a :: b :: more =>
        match hexValue a, hexValue b with
        | some x, some y => .ok (x * 16 + y, more)
        | _, _ => .error "invalid escape sequence"
      | [_] => .error "invalid escape sequence"
    else match c with
      | 'a' => .ok (7, rest)
      | 'f' => .ok (12, rest)
      | 'n' => .ok (10, rest)
      | 'r' => .ok (13, rest)
      | 't' => .ok (9, rest)
      | 'v' => .ok (11, rest)
      | _ => if c.toNat < 128 && !isAsciiAlnum c then .ok (c.toNat, rest)
        else .error "invalid escape sequence"

/-- A named set as a class item: closed under case folding when `folded`, then
complemented when `negated`. -/
def itemSet (set : CharRanges) (negated folded : Bool) : CharRanges :=
  let set := if folded then set.foldClosed else set
  if negated then set.complement else set

/-- Reads the name of a Unicode class after `\p` or `\P` (`negated` for `\P`):
one character, or a braced name, which may begin with `^` to complement. -/
def unicodeClass (negated folded : Bool) : List Char → Except String (CharRanges × List Char)
  | [] => .error "invalid character class range"
  | c :: rest =>
    let named : Except String (String × List Char) :=
      if c = '\x7b' then
        match rest.findIdx? (· = '\x7d') with
        | some i => .ok (String.ofList (rest.take i), rest.drop (i + 1))
        | none => .error "invalid character class range"
      else .ok (String.ofList [c], rest)
    match named with
    | .error e => .error e
    | .ok (name, after) =>
      let (negated, name) :=
        if name.startsWith "^" then (!negated, String.ofList (name.toList.drop 1)) else (negated, name)
      match CharClass.unicodeNamed name with
      | some (set, folds) => .ok (itemSet set negated (folded && folds), after)
      | none => .error "invalid character class range"

/-- The set an escape `\d`, `\s`, `\w` or its complement names. -/
def escapeClass (folded : Bool) (c : Char) : Option CharRanges :=
  (CharClass.escapeNamed c).map fun (set, negated) => itemSet set negated folded

/-- A character of a bracket class: an escape or the character itself. -/
def classChar : List Char → Except String (Nat × List Char)
  | [] => .error "missing closing ]"
  | '\\' :: rest => escapeChar rest
  | c :: rest => .ok (c.toNat, rest)

/-- The position of the first `:]` in a text. -/
def closingColon : List Char → Nat → Option Nat
  | ':' :: ']' :: _, i => some i
  | _ :: rest, i => closingColon rest (i + 1)
  | [], _ => none

/-- Reads a character or a range `lo-hi` of a bracket class. -/
def rangeItem (folded : Bool) (cs : List Char) : Except String (CharRanges × List Char) :=
  let item (lo hi : Nat) : CharRanges := itemSet (CharRanges.ofList [(lo, hi)]) false folded
  match classChar cs with
  | .error e => .error e
  | .ok (lo, after) =>
    match after with
    | '-' :: next :: more =>
      if next = ']' then .ok (item lo lo, after)
      else
        match classChar (next :: more) with
        | .error e => .error e
        | .ok (hi, rest) =>
          if hi < lo then .error "invalid character class range"
          else .ok (item lo hi, rest)
    | _ => .ok (item lo lo, after)

/-- Reads a bracket name, `[:name:]` or `[:^name:]`, when the text starts with one. -/
def bracketName (folded : Bool) (cs : List Char) : Option (Except String (CharRanges × List Char)) :=
  match cs with
  | '[' :: ':' :: more@(_ :: _) =>
    (closingColon more 0).map fun i =>
      let inner := more.take i
      let after := more.drop (i + 2)
      let (negated, name) := match inner with
        | '^' :: n => (true, n)
        | n => (false, n)
      match CharClass.bracketNamed (String.ofList name) with
      | some set => .ok (itemSet set negated folded, after)
      | none => .error "invalid character class range"
  | _ => none

/-- Reads one item of a bracket class: a bracket name, a Unicode class, an escape
class, or a character or range. -/
def classItem (folded : Bool) (cs : List Char) : Except String (CharRanges × List Char) :=
  match bracketName folded cs with
  | some r => r
  | none =>
    match cs with
    | '\\' :: 'p' :: more => unicodeClass false folded more
    | '\\' :: 'P' :: more => unicodeClass true folded more
    | '\\' :: c :: more =>
      match escapeClass folded c with
      | some set => .ok (set, more)
      | none => rangeItem folded cs
    | _ => rangeItem folded cs

/-- Reads the items of a bracket class up to its closing bracket, adding them to
`acc`. The first item may be a closing bracket, which then stands for itself. -/
def classItems (folded : Bool) (first : Bool) (acc : CharRanges) :
    Nat → List Char → Except String (CharRanges × List Char)
  | 0, _ => .error "missing closing ]"
  | fuel + 1, cs =>
    match cs with
    | [] => .error "missing closing ]"
    | ']' :: rest =>
      if !first then .ok (acc, rest)
      else classItems folded false (acc.union (itemSet (CharRanges.single 93) false folded)) fuel rest
    | _ =>
      match classItem folded cs with
      | .error e => .error e
      | .ok (set, after) => classItems folded false (acc.union set) fuel after

/-- Reads a bracket class after its `[`: the set it holds and the rest. -/
def bracketClass (folded : Bool) (cs : List Char) : Except String (CharRanges × List Char) :=
  let (negated, body) := match cs with
    | '^' :: more => (true, more)
    | more => (false, more)
  match classItems folded true CharRanges.empty (body.length + 1) body with
  | .error e => .error e
  | .ok (set, after) => .ok (if negated then set.complement else set, after)

/-- Digits of a count: a number without a leading zero. -/
def countDigits (cs : List Char) : Option (Nat × List Char) :=
  let ds := cs.takeWhile Char.isDigit
  match ds with
  | [] => none
  | '0' :: _ :: _ => none
  | _ => some (ds.foldl (fun n d => n * 10 + (d.toNat - 48)) 0, cs.drop ds.length)

/-- Reads a counted repetition after its opening brace: the least count, the most
(none for no limit) and the rest; none when the brace does not open one. -/
def readCount (cs : List Char) : Option ((Nat × Option Nat) × List Char) :=
  match countDigits cs with
  | none => none
  | some (n, rest) =>
    match rest with
    | '\x7d' :: after => some ((n, some n), after)
    | ',' :: '\x7d' :: after => some ((n, none), after)
    | ',' :: more =>
      match countDigits more with
      | some (m, '\x7d' :: after) => some ((n, some m), after)
      | _ => none
    | _ => none

def isNameChar (c : Char) : Bool := isAsciiAlnum c || c = '_'

/-- Reads the flags of a flag group after `(?`: the flags after it, whether a body
follows (`:`) or not (`)`), and the rest. -/
def readFlags (flags : PatternFlags) (on sawFlag : Bool) :
    List Char → Except String (PatternFlags × Bool × List Char)
  | [] => .error "missing closing )"
  | c :: rest =>
    match c with
    | 'i' => readFlags { flags with caseless := on } on true rest
    | 'm' => readFlags { flags with multiline := on } on true rest
    | 's' => readFlags { flags with dotAll := on } on true rest
    | 'U' => readFlags { flags with ungreedy := on } on true rest
    | '-' => if on then readFlags flags false false rest else .error "invalid or unsupported Perl syntax"
    | ':' | ')' =>
      if !on && !sawFlag then .error "invalid or unsupported Perl syntax"
      else .ok (flags, c = ':', rest)
    | _ => .error "invalid or unsupported Perl syntax"

/-- The text after the `>` of a named group, when the text after `(?` opens one:
`P<name>` or `<name>`; `none` when it does not open one. -/
def groupName (rest : List Char) : Option (Except String (List Char)) :=
  let start : Option (List Char) :=
    match rest with
    | 'P' :: '<' :: more => if rest.length > 2 then some more else none
    | '<' :: more => if rest.length > 1 then some more else none
    | _ => none
  start.map fun body =>
    match body.findIdx? (· = '>') with
    | none => .error "invalid named capture"
    | some i =>
      let name := body.take i
      if name.isEmpty || !name.all isNameChar then .error "invalid named capture"
      else .ok (body.drop (i + 1))

/-- The text of `\Q…\E` after `\Q`: the literal text and what follows `\E`. -/
def quotedText : List Char → List Char × List Char
  | [] => ([], [])
  | '\\' :: 'E' :: rest => ([], rest)
  | c :: rest => let (lit, after) := quotedText rest; (c :: lit, after)

end PatternSyntax

namespace PatternStack

open Regex

/-- Joins the two parts on top of the stack when both are literals that fold alike. -/
def joinLiterals : List StackEntry → List StackEntry
  | .part (.literal a f) :: .part (.literal b g) :: rest =>
    if f == g then .part (.literal (b ++ a) f) :: rest
    else .part (.literal a f) :: .part (.literal b g) :: rest
  | stack => stack

/-- Pushes a part: the literals below it joined first, and a class of one character
taken as a literal. A part larger or higher than the limits is refused. -/
def push (re : Regex) (stack : List StackEntry) : Except String (List StackEntry) :=
  let re := asLiteral re
  if re.size > maxSize then .error "expression too large"
  else if re.height > maxHeight then .error "expression nests too deeply"
  else .ok (.part re :: joinLiterals stack)

/-- Pushes a marker, the literals below it joined first. -/
def mark (e : StackEntry) (stack : List StackEntry) : List StackEntry := e :: joinLiterals stack

/-- The parts on top of the stack, down to the first marker: the parts, top first,
and the stack below them. -/
def takeParts : List StackEntry → List Regex × List StackEntry
  | .part re :: rest => let (ps, below) := takeParts rest; (re :: ps, below)
  | stack => ([], stack)

def concat (stack : List StackEntry) : Except String (List StackEntry) :=
  let (parts, below) := takeParts (joinLiterals stack)
  match parts with
  | [] => push .emptyMatch below
  | _ => push (collapseConcat parts.reverse) below

/-- Turns the branches above the nearest marker into one alternation, the last
branch cleaned. -/
def alternate (fuel : Nat) (stack : List StackEntry) : Except String (List StackEntry) :=
  let (parts, below) := takeParts stack
  match parts with
  | [] => push .noMatch below
  | last :: earlier => push (collapseAlt fuel ((cleanAlt last :: earlier).reverse)) below

/-- Moves the sequence on top below the bar under it, merging it into the branch
below the bar when both read one character; none when no bar is under it. -/
def swapBar : List StackEntry → Option (List StackEntry)
  | .part re1 :: .bar :: .part re3 :: rest =>
    if isCharLike re1 && isCharLike re3 then
      let merged := if charRank re3 < charRank re1 then mergeChars re1 re3 else mergeChars re3 re1
      some (.bar :: .part merged :: rest)
    else some (.bar :: .part re1 :: .part (cleanAlt re3) :: rest)
  | .part re1 :: .bar :: rest => some (.bar :: .part re1 :: rest)
  | _ => none

/-- Reads a `|`: the sequence read so far becomes a finished branch. -/
def verticalBar (stack : List StackEntry) : Except String (List StackEntry) := do
  let stack ← concat stack
  match swapBar stack with
  | some s => pure s
  | none => pure (mark .bar stack)

/-- Closes the branches above the nearest marker into one part: the last sequence
is finished, its bar dropped, and the branches made an alternation. -/
def finish (fuel : Nat) (stack : List StackEntry) : Except String (List StackEntry) := do
  let stack ← concat stack
  let stack := match swapBar stack with
    | some (.bar :: s) => s
    | _ => stack
  alternate fuel stack

/-- Applies a repetition to the part on top: `make` builds the repeated node, which
is checked against the size and height limits. A counted repetition of two or more
is checked against the copy limit. -/
def repeatTop (make : Regex → Regex) (counted : Bool) (least : Nat) (most : Option Nat)
    (stack : List StackEntry) : Except String (List StackEntry) :=
  match stack with
  | .part sub :: rest =>
    let re := make sub
    if re.size > maxSize then .error "expression too large"
    else if re.height > maxHeight then .error "expression nests too deeply"
    else if counted && (least ≥ 2 || most.getD 0 ≥ 2) && !re.copiesWithin 1000 then
      .error "invalid repeat count"
    else .ok (.part re :: rest)
  | _ => .error "missing argument to repetition operator"

end PatternStack

namespace PatternSyntax

open PatternStack

/-- What the reader holds between steps: its stack, the flags in force, and whether
the last thing read was a repetition. -/
structure ReadState where
  stack : List StackEntry := []
  flags : PatternFlags := {}
  repeated : Bool := false

/-- A literal character under the flags: under case folding, the least character it
folds together with. -/
def literalOf (flags : PatternFlags) (c : Nat) : Regex :=
  if flags.caseless then .literal [CharRanges.leastFold c] true
  else .literal [c] false

def pushLiterals (flags : PatternFlags) : List Char → List StackEntry → Except String (List StackEntry)
  | [], stack => .ok stack
  | c :: rest, stack => do
    let stack ← push (literalOf flags c.toNat) stack
    pushLiterals flags rest stack

/-- Reads a repetition operator: `least` to `most` copies made by `make`, a trailing
`?` making it lazy. -/
def repetition (st : ReadState) (make : Bool → Regex → Regex) (counted : Bool) (least : Nat)
    (most : Option Nat) (cs : List Char) : Except String (ReadState × List Char) :=
  let (lazyMark, rest) := match cs with
    | '?' :: more => (true, more)
    | more => (false, more)
  if st.repeated then .error "invalid nested repetition operator"
  else do
    let stack ← repeatTop (make (st.flags.ungreedy != lazyMark)) counted least most st.stack
    pure ({ st with stack, repeated := true }, rest)

/-- Reads one step of a pattern: one token, with what it does to the stack. -/
def step (fuel : Nat) (st : ReadState) (cs : List Char) : Except String (ReadState × List Char) :=
  let flags := st.flags
  let plain (stack : List StackEntry) : ReadState := { st with stack, repeated := false }
  let pushPart (re : Regex) (rest : List Char) : Except String (ReadState × List Char) :=
    (push re st.stack).map fun stack => (plain stack, rest)
  match cs with
  | [] => .ok (st, [])
  | '(' :: '?' :: rest =>
    match groupName rest with
    | some (.error e) => .error e
    | some (.ok body) => .ok (plain (mark (.opening true flags) st.stack), body)
    | none =>
      match readFlags flags true false rest with
      | .error e => .error e
      | .ok (flags', false, after) => .ok ({ plain st.stack with flags := flags' }, after)
      | .ok (flags', true, after) =>
        .ok ({ plain (mark (.opening false flags) st.stack) with flags := flags' }, after)
  | '(' :: rest => .ok (plain (mark (.opening true flags) st.stack), rest)
  | '|' :: rest => (verticalBar st.stack).map fun stack => (plain stack, rest)
  | ')' :: rest => do
    let stack ← finish fuel st.stack
    match stack with
    | .part inner :: .opening capturing saved :: below =>
      let stack ← push (if capturing then .capture inner else inner) below
      pure ({ stack, flags := saved, repeated := false }, rest)
    | _ => .error "unexpected )"
  | '^' :: rest => pushPart (.anchor (if flags.multiline then .lineStart else .textStart)) rest
  | '$' :: rest => pushPart (.anchor (if flags.multiline then .lineEnd else .textEnd)) rest
  | '.' :: rest => pushPart (if flags.dotAll then .anyChar else .anyCharNotNL) rest
  | '[' :: rest => do
    let (set, after) ← bracketClass flags.caseless rest
    pushPart (.charClass set) after
  | '*' :: rest => repetition st .star false 0 none rest
  | '+' :: rest => repetition st .plus false 1 none rest
  | '?' :: rest => repetition st .quest false 0 (some 1) rest
  | '\x7b' :: rest =>
    match readCount rest with
    | none => pushPart (literalOf flags 123) rest
    | some ((least, most), after) =>
      if least > 1000 || most.getD 0 > 1000 || (match most with | some m => decide (m < least) | none => false) then
        .error "invalid repeat count"
      else repetition st (fun lazy sub => .counted least most lazy sub) true least most after
  | '\\' :: 'A' :: rest => pushPart (.anchor .textStart) rest
  | '\\' :: 'z' :: rest => pushPart (.anchor .textEnd) rest
  | '\\' :: 'b' :: rest => pushPart (.anchor .wordBoundary) rest
  | '\\' :: 'B' :: rest => pushPart (.anchor .notWordBoundary) rest
  | '\\' :: 'C' :: _ => .error "invalid escape sequence"
  | '\\' :: 'Q' :: rest =>
    let (lit, after) := quotedText rest
    (pushLiterals flags lit st.stack).map fun stack => (plain stack, after)
  | '\\' :: 'p' :: rest => do
    let (set, after) ← unicodeClass false flags.caseless rest
    pushPart (.charClass set) after
  | '\\' :: 'P' :: rest => do
    let (set, after) ← unicodeClass true flags.caseless rest
    pushPart (.charClass set) after
  | '\\' :: rest =>
    match rest with
    | c :: more =>
      match escapeClass flags.caseless c with
      | some set => pushPart (.charClass set) more
      | none => do
        let (v, after) ← escapeChar rest
        pushPart (literalOf flags v) after
    | [] => .error "trailing backslash at end of expression"
  | c :: rest => pushPart (literalOf flags c.toNat) rest

/-- Reads the tokens of a pattern one step at a time; every step takes at least one
character, so `fuel` of the text's length suffices. -/
def steps (collapseFuel : Nat) : Nat → ReadState → List Char → Except String ReadState
  | 0, st, _ => .ok st
  | _ + 1, st, [] => .ok st
  | fuel + 1, st, cs@(_ :: _) => do
    let (st, rest) ← step collapseFuel st cs
    steps collapseFuel fuel st rest

end PatternSyntax

namespace Regex

/-- Reads a pattern into its parse tree, or says why it is not one. -/
def parse (s : String) : Except String Regex := do
  let cs := s.toList
  let collapseFuel := cs.length + 2
  let st ← PatternSyntax.steps collapseFuel (cs.length + 1) {} cs
  let stack ← PatternStack.finish collapseFuel st.stack
  match stack with
  | [.part re] => pure re
  | _ => .error "missing closing )"

end Regex

end Admissions
