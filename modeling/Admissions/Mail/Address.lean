import Admissions.Text.Base64
import Admissions.Url.Ip

namespace Admissions

namespace MailAddress

/-- A visible character: printable ASCII other than the space, or any character
beyond ASCII. -/
def isVisible (c : Char) : Bool := ('!' ≤ c && c ≤ '~') || c.toNat ≥ 128

/-- A blank: a space or a tab. -/
def isBlank (c : Char) : Bool := c = ' ' || c = '\t'

/-- A character that may stand in an atom: a visible character other than the
special ones; the dot only where `dot` allows it. -/
def isAtomChar (dot : Bool) (c : Char) : Bool :=
  if c = '.' then dot
  else if "()<>[]:;@\\,\"".toList.contains c then false
  else isVisible c

def isQuotedChar (c : Char) : Bool := isVisible c && c ≠ '\\' && c ≠ '"'

def isLiteralChar (c : Char) : Bool := isVisible c && c ≠ '[' && c ≠ ']' && c ≠ '\\'

def skipBlank (cs : List Char) : List Char := cs.dropWhile isBlank

/-- Reads a comment after its `(`: its text, without the closing parenthesis, and
the rest; `none` when it is not closed. A backslash makes the character after it
plain text. -/
def comment (depth : Nat) (acc : List Char) : List Char → Option (List Char × List Char)
  | [] => none
  | '\\' :: c :: rest => comment depth (acc ++ [c]) rest
  | '(' :: rest => comment (depth + 1) (acc ++ ['(']) rest
  | ')' :: rest =>
    if depth ≤ 1 then some (acc, rest) else comment (depth - 1) (acc ++ [')']) rest
  | c :: rest => comment depth (acc ++ [c]) rest

/-- Skips blanks and comments; `none` when a comment is not closed. -/
def skipComments : Nat → List Char → Option (List Char)
  | 0, cs => some (skipBlank cs)
  | fuel + 1, cs =>
    match skipBlank cs with
    | '(' :: rest =>
      match comment 1 [] rest with
      | some (_, after) => skipComments fuel after
      | none => none
    | rest => some rest

/-- Skips blanks and comments, with room for every comment of the text. -/
def skipCfws (cs : List Char) : Option (List Char) := skipComments cs.length cs

/-- Reads a quoted string after its opening quote: its text and the rest. After a
backslash only a visible character or a blank may stand. -/
def quoted : List Char → Option (List Char × List Char)
  | [] => none
  | '"' :: rest => some ([], rest)
  | '\\' :: c :: rest =>
    if isVisible c || isBlank c then (quoted rest).map fun (s, r) => (c :: s, r) else none
  | c :: rest =>
    if isQuotedChar c || isBlank c then (quoted rest).map fun (s, r) => (c :: s, r) else none

/-- Reads an atom (a dot-atom when `dot`); unless `loose`, a dot may neither start
nor end it and two dots may not stand together. -/
def atom (dot loose : Bool) (cs : List Char) : Option (List Char × List Char) :=
  let a := cs.takeWhile (isAtomChar dot)
  if a.isEmpty then none
  else if !loose && (a.head? == some '.' || a.getLast? == some '.' ||
      (a.zip a.tail).any fun (x, y) => x = '.' && y = '.') then none
  else some (a, cs.drop a.length)

/-- Reads a domain literal after its `[`: it must be closed and hold an IP
address, perhaps after `IPv6:`. -/
def domainLiteral (cs : List Char) : Option (List Char) :=
  let body := cs.takeWhile fun c => c ≠ ']'
  match cs.drop body.length with
  | ']' :: rest =>
    let text := String.ofList body
    let address := if text.startsWith "IPv6:" then String.ofList (body.drop 5) else text
    if body.all isLiteralChar && IpAddress.isPlain address then some rest else none
  | _ => none

/-- Reads `local@domain`. -/
def addrSpec (cs : List Char) : Option (List Char) := do
  let cs := skipBlank cs
  let afterLocal ← match cs with
    | [] => none
    | '"' :: rest => do
      let (body, r) ← quoted rest
      if body.isEmpty then none else some r
    | _ => (atom true false cs).map (·.2)
  match afterLocal with
  | '@' :: rest =>
    match skipBlank rest with
    | [] => none
    | '[' :: more => domainLiteral more
    | more => (atom true false more).map (·.2)
  | _ => none

end MailAddress

namespace EncodedWord

def hexDigit (c : Char) : Option Nat :=
  if '0' ≤ c && c ≤ '9' then some (c.toNat - 48)
  else if 'A' ≤ c && c ≤ 'F' then some (c.toNat - 55)
  else if 'a' ≤ c && c ≤ 'f' then some (c.toNat - 87)
  else none

/-- Whether a Q-encoded text decodes: `=` must lead two hexadecimal digits, and
every other character must be printable ASCII or a blank or line break. -/
def qDecodes : List Char → Bool
  | [] => true
  | '=' :: a :: b :: rest => (hexDigit a).isSome && (hexDigit b).isSome && qDecodes rest
  | '=' :: _ => false
  | c :: rest => ((' ' ≤ c && c ≤ '~') || c = '\n' || c = '\r' || c = '\t') && qDecodes rest

def decodes (encoding : Char) (text : List Char) : Bool :=
  if encoding = 'B' || encoding = 'b' then (Base64.decode? (String.ofList text)).isSome
  else if encoding = 'Q' || encoding = 'q' then qDecodes text
  else false

/-- A character set name compared without regard to case. -/
def foldName (s : List Char) : List Char :=
  s.map fun c => if c = 'ſ' then 's' else if c.toNat < 128 then c.toLower else c

/-- Whether a character set is one read without a converter. -/
def knownCharset (name : List Char) : Bool :=
  let n := foldName name
  n == "utf-8".toList || n == "iso-8859-1".toList || n == "us-ascii".toList

/-- Whether a word is an encoded word that decodes but names a character set that
cannot be read. -/
def refused (word : List Char) : Bool :=
  let text := String.ofList word
  if text.utf8ByteSize < 8 || !text.startsWith "=?" || !text.endsWith "?=" ||
      (word.filter (· = '?')).length ≠ 4 then false
  else
    let inner := (word.drop 2).dropLast.dropLast
    let charset := inner.takeWhile (· ≠ '?')
    let afterCharset := inner.drop (charset.length + 1)
    let encoding := afterCharset.takeWhile (· ≠ '?')
    let body := afterCharset.drop (encoding.length + 1)
    match encoding with
    | [e] => !charset.isEmpty && decodes e body && !knownCharset charset
    | _ => false

end EncodedWord

namespace MailAddress

/-- Reads the words of a display name; `none` when it has none or a comment
between its words is not closed. -/
def phrase : Nat → Nat → List Char → Option (List Char)
  | 0, words, cs => if words = 0 then none else some cs
  | fuel + 1, words, cs =>
    let between := if words = 0 then some cs else skipCfws cs
    match between with
    | none => none
    | some cs =>
      let cs := skipBlank cs
      let word : Option (List Char × List Char × Bool) :=
        match cs with
        | [] => none
        | '"' :: rest => (quoted rest).map fun (w, r) => (w, r, false)
        | _ => (atom true true cs).map fun (w, r) => (w, r, EncodedWord.refused w)
      match word with
      | some (_, rest, false) => phrase fuel (words + 1) rest
      | some (_, rest, true) => if words = 0 then none else some rest
      | none => if words = 0 then none else some cs

/-- Reads a comment that serves as a display name after an address: its words must
not be refused encoded words. -/
def nameComment (cs : List Char) : Option (List Char) :=
  match cs with
  | '(' :: rest =>
    match comment 1 [] rest with
    | some (text, after) =>
      let words := (text.splitOn ' ').flatMap fun w => w.splitOn '\t'
      if words.any EncodedWord.refused then none else some after
    | none => none
  | _ => none

/-- Reads one address: the number of mailboxes it holds and the rest. A display
name followed by a colon starts a group, whose members `group` reads; where groups
may not stand, `group` refuses everything. -/
def address (group : List Char → Option (Nat × List Char)) (cs : List Char) :
    Option (Nat × List Char) :=
  let cs := skipBlank cs
  if cs.isEmpty then none else
  match addrSpec cs with
  | some rest =>
    match skipBlank rest with
    | '(' :: more => (nameComment ('(' :: more)).map fun r => (1, r)
    | _ => some (1, rest)
  | none =>
    let afterName := if cs.head? == some '<' then some cs else phrase cs.length 0 cs
    match afterName.map skipBlank with
    | none => none
    | some (':' :: rest) => group rest
    | some ('<' :: rest) =>
      match addrSpec rest with
      | some ('>' :: after) => some (1, after)
      | _ => none
    | some _ => none

/-- Reads the mailboxes of a group after its colon, up to its semicolon and the
comments after it: how many there are and the rest. A group may be empty but may
not nest. -/
def members : Nat → Nat → List Char → Option (Nat × List Char)
  | 0, _, _ => none
  | fuel + 1, count, cs =>
    let cs := skipBlank cs
    match cs with
    | ';' :: rest => if count = 0 then (skipCfws rest).map fun r => (0, r) else none
    | _ =>
      match address (fun _ => none) cs with
      | none => none
      | some (n, rest) =>
        match skipCfws rest with
        | some (';' :: after) => (skipCfws after).map fun r => (count + n, r)
        | some (',' :: after) => members fuel (count + n) after
        | _ => none

def isSingle (s : String) : Bool :=
  let cs := s.toList
  match address (members cs.length 0) cs with
  | some (1, rest) => skipCfws rest == some []
  | _ => false

end MailAddress

end Admissions
