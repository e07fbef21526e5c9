import Admissions.Json.Write

namespace Admissions

/-- Where the reader stood when it met a character it could not take. -/
inductive SyntaxPlace where
  | beginValue
  | beginKey
  | afterKey
  | afterMember
  | afterElement
  | afterTop
  | inString
  | inEscape
  | inUnicodeEscape
  | inNumber
  | afterPoint
  | inExponent
  | inLiteral (word : String) (expecting : Char)
  deriving Repr, BEq

/-- Why a JSON text was refused. -/
inductive SyntaxError where
  | unexpectedEnd
  | invalidChar (c : Char) (place : SyntaxPlace)
  deriving Repr, BEq

namespace SyntaxPlace

def describe : SyntaxPlace → String
  | .beginValue => "looking for beginning of value"
  | .beginKey => "looking for beginning of object key string"
  | .afterKey => "after object key"
  | .afterMember => "after object key:value pair"
  | .afterElement => "after array element"
  | .afterTop => "after top-level value"
  | .inString => "in string literal"
  | .inEscape => "in string escape code"
  | .inUnicodeEscape => "in \\u hexadecimal character escape"
  | .inNumber => "in numeric literal"
  | .afterPoint => "after decimal point in numeric literal"
  | .inExponent => "in exponent of numeric literal"
  | .inLiteral word c => "in literal " ++ word ++ " (expecting '" ++ c.toString ++ "')"

end SyntaxPlace

/-- The first byte of a character's UTF-8 encoding. A report names the byte at
which reading stopped, read as the character of that code. -/
def Char.leadByte (c : Char) : Nat :=
  let v := c.toNat
  if v < 0x80 then v
  else if v < 0x800 then 0xC0 + v / 0x40
  else if v < 0x10000 then 0xE0 + v / 0x1000
  else 0xF0 + v / 0x40000

/-- A byte in single quotes, with the escapes of a quoted string for those that
do not print. -/
def quoteByte (b : Nat) : String :=
  let body :=
    if b = 0x27 then "\\'"
    else if b = 0x22 then "\""
    else if b = 0x5C then "\\\\"
    else if b = 7 then "\\a"
    else if b = 8 then "\\b"
    else if b = 0xC then "\\f"
    else if b = 0xA then "\\n"
    else if b = 0xD then "\\r"
    else if b = 9 then "\\t"
    else if b = 0xB then "\\v"
    else if b < 0x20 ∨ b = 0x7F then "\\x" ++ hexDigits 2 b
    else if (0x80 ≤ b ∧ b ≤ 0xA0) ∨ b = 0xAD then "\\u" ++ hexDigits 4 b
    else (Char.ofNat b).toString
  "'" ++ body ++ "'"

namespace SyntaxError

def message : SyntaxError → String
  | .unexpectedEnd => "unexpected end of JSON input"
  | .invalidChar c place =>
    "invalid character " ++ quoteByte (Char.leadByte c) ++ " " ++ place.describe

end SyntaxError

namespace Json

def isBlank (c : Char) : Bool := c = ' ' || c = '\t' || c = '\n' || c = '\r'

def skipBlank : List Char → List Char
  | c :: cs => if isBlank c then skipBlank cs else c :: cs
  | [] => []

def hexValue (c : Char) : Option Nat :=
  if '0' ≤ c ∧ c ≤ '9' then some (c.toNat - '0'.toNat)
  else if 'a' ≤ c ∧ c ≤ 'f' then some (c.toNat - 'a'.toNat + 10)
  else if 'A' ≤ c ∧ c ≤ 'F' then some (c.toNat - 'A'.toNat + 10)
  else none

/-- The value of four hexadecimal digits at the front, or the report on the
first character among them that is not one. -/
def readHex4 (cs : List Char) : Except SyntaxError Nat :=
  match (cs.take 4).find? (fun c => (hexValue c).isNone) with
  | some bad => .error (.invalidChar bad .inUnicodeEscape)
  | none =>
    if cs.length < 4 then .error .unexpectedEnd
    else .ok ((cs.take 4).foldl (fun acc c => acc * 16 + (hexValue c).getD 0) 0)

/-- The character of a `\u` escape whose four digits are `code`, and how many
characters after those digits it also takes. A high surrogate followed by an
escaped low surrogate makes one character; a surrogate alone is U+FFFD. -/
def surrogatePair (code : Nat) (after : List Char) : Char × Nat :=
  if 0xD800 ≤ code ∧ code < 0xDC00 then
    match after with
    | '\\' :: 'u' :: more =>
      match readHex4 more with
      | .ok low =>
        if 0xDC00 ≤ low ∧ low < 0xE000 then
          (Char.ofNat (0x10000 + (code - 0xD800) * 0x400 + (low - 0xDC00)), 6)
        else (Char.ofNat 0xFFFD, 0)
      | .error _ => (Char.ofNat 0xFFFD, 0)
    | _ => (Char.ofNat 0xFFFD, 0)
  else if 0xDC00 ≤ code ∧ code < 0xE000 then (Char.ofNat 0xFFFD, 0)
  else (Char.ofNat code, 0)

/-- The character that an escape letter stands for, other than `u`. -/
def escaped : Char → Option Char
  | '"' => some '"'
  | '\\' => some '\\'
  | '/' => some '/'
  | 'b' => some '\x08'
  | 'f' => some '\x0c'
  | 'n' => some '\n'
  | 'r' => some '\r'
  | 't' => some '\t'
  | _ => none

/-- The body of a string after its opening quote, up to and past the closing one.
Control characters must be escaped. -/
def readString (acc : List Char) : List Char → Except SyntaxError (String × List Char)
  | [] => .error .unexpectedEnd
  | '"' :: rest => .ok (String.ofList acc.reverse, rest)
  | '\\' :: [] => .error .unexpectedEnd
  | '\\' :: e :: more =>
    if e = 'u' then
      match readHex4 more with
      | .error err => .error err
      | .ok code =>
        let (c, extra) := surrogatePair code (more.drop 4)
        readString (c :: acc) (more.drop (4 + extra))
    else
      match escaped e with
      | some c => readString (c :: acc) more
      | none => .error (.invalidChar e .inEscape)
  | c :: rest =>
    if c.toNat < 0x20 then .error (.invalidChar c .inString)
    else readString (c :: acc) rest
termination_by cs => cs.length
decreasing_by all_goals simp only [List.length_cons, List.length_drop]; omega

def spanDigits (cs : List Char) : List Char × List Char :=
  (cs.takeWhile Char.isDigit, cs.dropWhile Char.isDigit)

/-- Reads an optional fraction at the front: the point with its digits, and what
follows them. -/
def readFraction (cs : List Char) : Except SyntaxError (List Char × List Char) :=
  match cs with
  | '.' :: rest =>
    match rest with
    | [] => .error .unexpectedEnd
    | d :: _ =>
      if d.isDigit then
        let (ds, after) := spanDigits rest
        pure ('.' :: ds, after)
      else .error (.invalidChar d .afterPoint)
  | _ => pure ([], cs)

/-- The sign of an exponent, if one is written, and the rest. -/
def exponentSign (cs : List Char) : List Char × List Char :=
  match cs with
  | '+' :: more => (['+'], more)
  | '-' :: more => (['-'], more)
  | _ => ([], cs)

/-- Reads an optional exponent after the fraction `frac`. Returns the characters
of the number after its integer part, and what follows them. -/
def readExponent (frac cs : List Char) : Except SyntaxError (List Char × List Char) :=
  match cs with
  | e :: rest =>
    if e = 'e' ∨ e = 'E' then
      let (sign, body) := exponentSign rest
      match body with
      | [] => .error .unexpectedEnd
      | d :: _ =>
        if d.isDigit then
          let (ds, after) := spanDigits body
          pure (frac ++ e :: sign ++ ds, after)
        else .error (.invalidChar d .inExponent)
    else pure (frac, cs)
  | [] => pure (frac, cs)

/-- Reads the rest of a number whose integer part has been read: an optional
fraction, then an optional exponent. Returns the characters of the literal. -/
def readNumberTail (cs : List Char) : Except SyntaxError (List Char × List Char) := do
  let (frac, afterFrac) ← readFraction cs
  readExponent frac afterFrac

/-- The minus of a number, if one is written, and the rest. -/
def numberSign (cs : List Char) : List Char × List Char :=
  match cs with
  | '-' :: rest => (['-'], rest)
  | _ => ([], cs)

/-- Reads a number at the front: the literal text and what follows it. -/
def readNumber (cs : List Char) : Except SyntaxError (String × List Char) := do
  let (sign, body) := numberSign cs
  match body with
  | [] => .error .unexpectedEnd
  | '0' :: rest =>
    let (tail, after) ← readNumberTail rest
    pure (String.ofList (sign ++ '0' :: tail), after)
  | d :: _ =>
    if d.isDigit then
      let (ds, rest) := spanDigits body
      let (tail, after) ← readNumberTail rest
      pure (String.ofList (sign ++ ds ++ tail), after)
    else .error (.invalidChar d .inNumber)

/-- Reads the letters of `true`, `false` or `null` after their first letter. -/
def readWord (word : String) : List Char → List Char → Except SyntaxError (List Char)
  | [], rest => .ok rest
  | _ :: _, [] => .error .unexpectedEnd
  | w :: ws, c :: rest =>
    if c = w then readWord word ws rest else .error (.invalidChar c (.inLiteral word w))

/-- A value read from `whole` with `after` left over: an array or object keeps the
text it spans (see `writtenAs`). -/
def readFrom (whole : List Char) : Json × List Char → Json × List Char
  | (v, after) => (v.writtenAs (String.ofList (whole.take (whole.length - after.length))), after)

mutual

/-- Reads one value after blanks. `fuel` bounds the depth of calls; every call
takes at least one character, so the length of the text plus one suffices. -/
def readValue : Nat → List Char → Except SyntaxError (Json × List Char)
  | 0, _ => .error .unexpectedEnd
  | fuel + 1, cs =>
    match skipBlank cs with
    | [] => .error .unexpectedEnd
    | c :: rest =>
      if c = '{' then
        Except.map (readFrom (c :: rest)) <|
          match skipBlank rest with
          | [] => .error .unexpectedEnd
          | '}' :: after => .ok (.obj [], after)
          | '"' :: _ => readMembers fuel [] (skipBlank rest)
          | d :: _ => .error (.invalidChar d .beginKey)
      else if c = '[' then
        Except.map (readFrom (c :: rest)) <|
          match skipBlank rest with
          | [] => .error .unexpectedEnd
          | ']' :: after => .ok (.arr [], after)
          | _ => readElements fuel [] rest
      else if c = '"' then
        match readString [] rest with
        | .ok (s, after) => .ok (.str s, after)
        | .error e => .error e
      else if c = '-' ∨ c.isDigit then
        match readNumber (c :: rest) with
        | .ok (lit, after) => .ok (.num lit, after)
        | .error e => .error e
      else if c = 't' then
        (readWord "true" ['r', 'u', 'e'] rest).map fun after => (.bool true, after)
      else if c = 'f' then
        (readWord "false" ['a', 'l', 's', 'e'] rest).map fun after => (.bool false, after)
      else if c = 'n' then
        (readWord "null" ['u', 'l', 'l'] rest).map fun after => (.null, after)
      else .error (.invalidChar c .beginValue)

/-- Reads array elements, each followed by `,` or the closing `]`. -/
def readElements : Nat → List Json → List Char → Except SyntaxError (Json × List Char)
  | 0, _, _ => .error .unexpectedEnd
  | fuel + 1, acc, cs =>
    match readValue fuel cs with
    | .error e => .error e
    | .ok (v, after) =>
      match skipBlank after with
      | [] => .error .unexpectedEnd
      | ',' :: more => readElements fuel (v :: acc) more
      | ']' :: more => .ok (.arr (v :: acc).reverse, more)
      | d :: _ => .error (.invalidChar d .afterElement)

/-- Reads object members from a key's opening quote: key, `:`, value, then `,`
and the next key's quote, or the closing `}`. -/
def readMembers : Nat → List (String × Json) → List Char → Except SyntaxError (Json × List Char)
  | 0, _, _ => .error .unexpectedEnd
  | fuel + 1, acc, cs =>
    match cs with
    | '"' :: rest =>
      match readString [] rest with
      | .error e => .error e
      | .ok (key, afterKey) =>
        match skipBlank afterKey with
        | [] => .error .unexpectedEnd
        | ':' :: afterColon =>
          match readValue fuel afterColon with
          | .error e => .error e
          | .ok (v, after) =>
            match skipBlank after with
            | [] => .error .unexpectedEnd
            | ',' :: more =>
              match skipBlank more with
              | [] => .error .unexpectedEnd
              | '"' :: _ => readMembers fuel ((key, v) :: acc) (skipBlank more)
              | d :: _ => .error (.invalidChar d .beginKey)
            | '}' :: more => .ok (.obj ((key, v) :: acc).reverse, more)
            | d :: _ => .error (.invalidChar d .afterMember)
        | d :: _ => .error (.invalidChar d .afterKey)
    | [] => .error .unexpectedEnd
    | d :: _ => .error (.invalidChar d .beginKey)

end

/-- Reads a whole text as one JSON value with nothing but blanks after it. -/
def parseChars (cs : List Char) : Except SyntaxError Json :=
  match readValue (cs.length + 1) cs with
  | .error e => .error e
  | .ok (v, rest) =>
    match skipBlank rest with
    | [] => .ok v
    | d :: _ => .error (.invalidChar d .afterTop)

def parse (s : String) : Except SyntaxError Json := parseChars s.toList

end Json

/-- Why a stream of JSON values gave no first value. -/
inductive StreamError where
  /-- Nothing but blanks. -/
  | noValue
  /-- The first value was cut off. -/
  | truncated
  | malformed (e : SyntaxError)
  deriving Repr, BEq

def StreamError.message : StreamError → String
  | .noValue => "EOF"
  | .truncated => "unexpected EOF"
  | .malformed e => e.message

namespace Json

/-- Reads the first value of a stream of JSON values; what follows it is not read. -/
def readFirst (s : String) : Except StreamError Json :=
  let cs := s.toList
  if (skipBlank cs).isEmpty then .error .noValue
  else
    match readValue (cs.length + 1) cs with
    | .ok (v, _) => .ok v
    | .error .unexpectedEnd => .error .truncated
    | .error e => .error (.malformed e)

end Json

end Admissions
