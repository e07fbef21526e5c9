import Admissions.Json.Read
import Admissions.Text.Case

namespace Admissions

namespace Text

/-- Characters that print: graphic characters and the ASCII space. Controls,
format characters, separators other than the space, surrogates, private use and
non-characters do not. -/
def isPrintable (c : Char) : Bool :=
  let v := c.toNat
  if v < 0x20 then false
  else if v < 0x7F then true
  else inPrintableRanges v

def quoteChar (c : Char) : List Char :=
  if c = '"' then ['\\', '"']
  else if c = '\\' then ['\\', '\\']
  else if isPrintable c then [c]
  else if c = '\x07' then ['\\', 'a']
  else if c = '\x08' then ['\\', 'b']
  else if c = '\x0c' then ['\\', 'f']
  else if c = '\n' then ['\\', 'n']
  else if c = '\r' then ['\\', 'r']
  else if c = '\t' then ['\\', 't']
  else if c = '\x0b' then ['\\', 'v']
  else if c.toNat < 0x20 ∨ c.toNat = 0x7F then ('\\' :: 'x' :: (hexDigits 2 c.toNat).toList)
  else if c.toNat < 0x10000 then ('\\' :: 'u' :: (hexDigits 4 c.toNat).toList)
  else ('\\' :: 'U' :: (hexDigits 8 c.toNat).toList)

def quote (s : String) : String :=
  String.ofList ('"' :: (s.toList.flatMap quoteChar ++ ['"']))

/-- A character between single quotes, escaped so that it reads back: as inside
double quotes, except that the single quote is escaped and the double quote is not. -/
def quoteRune (c : Char) : String :=
  let inner := if c = '\'' then ['\\', '\''] else if c = '"' then ['"'] else quoteChar c
  String.ofList ('\'' :: inner ++ ['\''])

/-- Whether a text may stand between backquotes as it is: it holds no control
character but the tab, no backquote, no DEL and no byte-order mark. -/
def canBackquote (s : String) : Bool :=
  s.toList.all fun c =>
    (c.toNat ≥ 0x20 || c = '\t') && c.toNat ≠ 96 && c.toNat ≠ 0x7F && c.toNat ≠ 0xFEFF

/-- A text between backquotes when it may stand there as it is, else between
double quotes with escapes. -/
def quoteRaw (s : String) : String :=
  if canBackquote s then String.ofList (Char.ofNat 96 :: s.toList ++ [Char.ofNat 96]) else quote s

def isSpace (c : Char) : Bool :=
  let v := c.toNat
  v = 0x20 ∨ (0x09 ≤ v ∧ v ≤ 0x0D) ∨ v = 0x85 ∨ v = 0xA0 ∨ v = 0x1680 ∨
    (0x2000 ≤ v ∧ v ≤ 0x200A) ∨ v = 0x2028 ∨ v = 0x2029 ∨ v = 0x202F ∨ v = 0x205F ∨
    v = 0x3000

def trimSpace (s : String) : String :=
  String.ofList ((s.toList.dropWhile isSpace).reverse.dropWhile isSpace).reverse

/-- Lower case of an ASCII letter; other characters stay. -/
def lowerChar (c : Char) : Char :=
  if 'A' ≤ c ∧ c ≤ 'Z' then Char.ofNat (c.toNat + 32) else c

/-- Whether `pre` begins `s`. -/
def startsWith (s pre : String) : Bool := pre.toList.isPrefixOf s.toList

/-- Whether `part` occurs in `s`. -/
def contains (s part : String) : Bool :=
  let p := part.toList
  let rec go : List Char → Bool
    | [] => p.isEmpty
    | c :: cs => p.isPrefixOf (c :: cs) || go cs
  go s.toList

def join (sep : String) : List String → String
  | [] => ""
  | [x] => x
  | x :: xs => x ++ sep ++ join sep xs

def ofInt (i : Int) : String := if i < 0 then "-" ++ toString i.natAbs else toString i.natAbs

end Text

end Admissions
