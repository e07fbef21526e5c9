import Admissions.Text.Bytes

namespace Admissions

/-- The part of a URL a text is escaped for or read from. -/
inductive UrlPart where
  | path
  | pathSegment
  | host
  | zone
  | userPassword
  | queryComponent
  | fragment
  deriving BEq, DecidableEq, Repr

namespace UrlPart

def bytesOf (s : String) : List Nat := s.toList.map Char.toNat

/-- Whether a byte is an ASCII letter or digit. -/
def isAlnum (b : Nat) : Bool :=
  (0x61 ≤ b && b ≤ 0x7A) || (0x41 ≤ b && b ≤ 0x5A) || (0x30 ≤ b && b ≤ 0x39)

def mustEscape (part : UrlPart) (b : Nat) : Bool :=
  if isAlnum b then false
  else if (part == .host || part == .zone) && (bytesOf "!$&'()*+,;=:[]<>\"").contains b then false
  else if (bytesOf "-_.~").contains b then false
  else if (bytesOf "$&+,/:;=?@").contains b then
    match part with
    | .path => b = 0x3F
    | .pathSegment => (bytesOf "/;,?").contains b
    | .userPassword => (bytesOf "@/?:").contains b
    | .queryComponent => true
    | .fragment => false
    | .host | .zone => true
  else if part == .fragment && (bytesOf "!()*").contains b then false
  else true

end UrlPart

namespace Url

def hexUpper (n : Nat) : Char := Char.ofNat (if n < 10 then 48 + n else 55 + n)

def hexByte (b : Nat) : Option Nat :=
  if 0x30 ≤ b && b ≤ 0x39 then some (b - 0x30)
  else if 0x61 ≤ b && b ≤ 0x66 then some (b - 0x61 + 10)
  else if 0x41 ≤ b && b ≤ 0x46 then some (b - 0x41 + 10)
  else none

/-- A text escaped for a part; a space in a query component becomes `+`. -/
def escape (s : String) (part : UrlPart) : String :=
  String.ofList ((Text.utf8Bytes s).flatMap fun b =>
    if part.mustEscape b then
      if b = 0x20 && part == .queryComponent then ['+']
      else ['%', hexUpper (b / 16), hexUpper (b % 16)]
    else [Char.ofNat b])

/-- The refusal of a malformed escape, quoting up to three bytes from its `%`. -/
def escapeError (bs : List Nat) : String := "invalid URL escape " ++ Text.quoteBytes (bs.take 3)

def checkEscapes (part : UrlPart) : Nat → List Nat → Except String Unit
  | 0, _ => .ok ()
  | _ + 1, [] => .ok ()
  | fuel + 1, b :: rest =>
    if b = 0x25 then
      match rest with
      | h1 :: h2 :: after =>
        match hexByte h1, hexByte h2 with
        | some v1, some v2 =>
          let isPercent := v1 = 2 && v2 = 5
          if part == .host && v1 < 8 && !isPercent then .error (escapeError (b :: rest))
          else if part == .zone && !isPercent && v1 * 16 + v2 != 0x20 &&
              UrlPart.host.mustEscape (v1 * 16 + v2) then .error (escapeError (b :: rest))
          else checkEscapes part fuel after
        | _, _ => .error (escapeError (b :: rest))
      | _ => .error (escapeError (b :: rest))
    else if (part == .host || part == .zone) && b < 0x80 && part.mustEscape b then
      .error ("invalid character " ++ Text.quoteBytes [b] ++ " in host name")
    else checkEscapes part fuel rest

def decodeEscapes (part : UrlPart) : Nat → List Nat → List Nat
  | 0, _ => []
  | _ + 1, [] => []
  | fuel + 1, b :: rest =>
    if b = 0x25 then
      match rest with
      | h1 :: h2 :: after =>
        match hexByte h1, hexByte h2 with
        | some v1, some v2 => (v1 * 16 + v2) :: decodeEscapes part fuel after
        | _, _ => b :: decodeEscapes part fuel rest
      | _ => b :: decodeEscapes part fuel rest
    else if b = 0x2B then (if part == .queryComponent then 0x20 else 0x2B) :: decodeEscapes part fuel rest
    else b :: decodeEscapes part fuel rest

/-- Reads an escaped text of a part: the text it stands for, its bytes read as
UTF-8, or why it is malformed. -/
def unescape (s : String) (part : UrlPart) : Except String String :=
  let bs := Text.utf8Bytes s
  match checkEscapes part bs.length bs with
  | .error e => .error e
  | .ok () => .ok (Text.decodeUtf8 (decodeEscapes part bs.length bs))

/-- Whether a text is already escaped as a part would be: it holds only characters
the part lets stand, the sub-delimiters, `:`, `@`, brackets and `%`. -/
def isEscaped (s : String) (part : UrlPart) : Bool :=
  (Text.utf8Bytes s).all fun b =>
    (UrlPart.bytesOf "!$&'()*+,;=:@[]%").contains b || !part.mustEscape b

end Url

end Admissions
