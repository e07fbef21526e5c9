import Admissions.Json.Basic

namespace Admissions

namespace Json

def escapeChars : List Char → List Char
  | [] => []
  | c :: cs =>
    let head : List Char :=
      if c = '"' then ['\\', '"']
      else if c = '\\' then ['\\', '\\']
      else if c = '\n' then ['\\', 'n']
      else if c = '\r' then ['\\', 'r']
      else if c = '\t' then ['\\', 't']
      else if c = '\x08' then ['\\', 'b']
      else if c = '\x0c' then ['\\', 'f']
      else if c.toNat < 0x20 then ('\\' :: 'u' :: (hexDigits 4 c.toNat).toList)
      else [c]
    head ++ escapeChars cs

def quote (s : String) : String := "\"" ++ String.ofList (escapeChars s.toList) ++ "\""

mutual

def render : Json → String
  | .null => "null"
  | .bool true => "true"
  | .bool false => "false"
  | .num lit => lit
  | .str s => quote s
  | .arr items _ => "[" ++ renderItems items ++ "]"
  | .obj fields _ => "\x7b" ++ renderFields fields ++ "\x7d"

def renderItems : List Json → String
  | [] => ""
  | [x] => render x
  | x :: xs => render x ++ "," ++ renderItems xs

def renderFields : List (String × Json) → String
  | [] => ""
  | [(k, v)] => quote k ++ ":" ++ render v
  | (k, v) :: rest => quote k ++ ":" ++ render v ++ "," ++ renderFields rest

end

/-- The text of a value as it was written: an array's or object's text as read, else
its compact text. -/
def source : Json → String
  | .arr _ (some text) | .obj _ (some text) => text
  | j => render j

/-- An array or object read from `text`, which keeps that text where it is not its
compact text; other values are their text already. -/
def writtenAs (text : String) : Json → Json
  | .arr items _ => .arr items (if text = render (.arr items) then none else some text)
  | .obj fields _ => .obj fields (if text = render (.obj fields) then none else some text)
  | other => other

end Json

end Admissions
