import Admissions.Decimal.Double
import Admissions.Text.Numeral
import Admissions.Text.Bytes
import Admissions.Text.Base64

namespace Admissions

namespace Yaml

def longTagPrefix : String := "tag:yaml.org,2002:"

/-- A tag written short: the standard prefix becomes `!!`. -/
def shortTag (tag : String) : String :=
  if tag.startsWith longTagPrefix then "!!" ++ String.ofList (tag.toList.drop longTagPrefix.length)
  else tag

/-- What a scalar stands for. -/
inductive Resolved where
  | null
  | bool (b : Bool)
  | int (i : Int)
  | uint (n : Nat)
  | float (x : Double)
  | text (s : String)
  | timestamp
  deriving Repr, Inhabited

/-- One or two digits. -/
def someDigits : List Char → Option (Nat × List Char)
  | a :: b :: rest =>
    if a.isDigit then
      if b.isDigit then some ((a.toNat - 48) * 10 + (b.toNat - 48), rest) else some (a.toNat - 48, b :: rest)
    else none
  | [a] => if a.isDigit then some (a.toNat - 48, []) else none
  | [] => none

def twoDigits : List Char → Option Nat
  | [a, b] => if a.isDigit && b.isDigit then some ((a.toNat - 48) * 10 + (b.toNat - 48)) else none
  | _ => none

def daysIn (month : Nat) (year : Nat) : Nat :=
  if month = 2 then (if year % 4 = 0 && (year % 100 ≠ 0 || year % 400 = 0) then 29 else 28)
  else if month = 4 || month = 6 || month = 9 || month = 11 then 30
  else 31

/-- A date `year-month-day` with one or two digits for the month and the day:
the year, month, day and the rest. -/
def readDate (cs : List Char) : Option (Nat × Nat × Nat × List Char) := do
  let y := cs.take 4
  guard (y.length = 4 && y.all Char.isDigit)
  let year := y.foldl (fun n c => n * 10 + (c.toNat - 48)) 0
  let rest ← match cs.drop 4 with
    | '-' :: r => some r
    | _ => none
  let (month, rest) ← someDigits rest
  guard (1 ≤ month && month ≤ 12)
  let rest ← match rest with
    | '-' :: r => some r
    | _ => none
  let (day, rest) ← someDigits rest
  return (year, month, day, rest)

/-- A time `hour:minute:second` with one or two digits each, and an optional
fraction of any number of digits. -/
def readClock (cs : List Char) : Option (List Char) := do
  let (h, rest) ← someDigits cs
  guard (h < 24)
  let rest ← match rest with
    | ':' :: r => some r
    | _ => none
  let (m, rest) ← someDigits rest
  guard (m < 60)
  let rest ← match rest with
    | ':' :: r => some r
    | _ => none
  let (s, rest) ← someDigits rest
  guard (s < 60)
  match rest with
  | p :: d :: more =>
    if (p = '.' || p = ',') && d.isDigit then some (more.dropWhile Char.isDigit) else some rest
  | _ => some rest

/-- An offset: `Z`, or a sign, two digits of hours (up to 24), `:` and two digits
of minutes (up to 60). -/
def readOffset (cs : List Char) : Option (List Char) :=
  match cs with
  | 'Z' :: rest => some rest
  | _ =>
    if cs.length < 6 || cs[3]? != some ':' then none else
    match twoDigits ((cs.drop 1).take 2), twoDigits ((cs.drop 4).take 2) with
    | some h, some m =>
      if h > 24 || m > 60 then none
      else if cs.head? = some '+' || cs.head? = some '-' then some (cs.drop 6) else none
    | _, _ => none

/-- Whether a text is a timestamp: a date, alone, or followed by `T` or `t` and a
time with an offset, or by spaces and a time without one; the day must exist in
its month. -/
def isTimestamp (s : String) : Bool :=
  let cs := s.toList
  let digits := (cs.takeWhile Char.isDigit).length
  if digits ≠ 4 || cs.length = 4 || cs[4]? != some '-' then false else
  match readDate cs with
  | none => false
  | some (year, month, day, rest) =>
    let valid := 1 ≤ day && day ≤ daysIn month year
    let timed (sep : Char) : Bool :=
      match rest with
      | c :: more =>
        c = sep && ((readClock more).bind readOffset == some [])
      | [] => false
    let spaced : Bool :=
      match rest with
      | ' ' :: more => readClock (more.dropWhile (· = ' ')) == some []
      | _ => false
    valid && (timed 'T' || timed 't' || spaced || rest.isEmpty)

/-- The sign, digits and exponent of a decimal literal that has already been
checked, as an exact decimal. -/
def decimalOf (cs : List Char) : Decimal :=
  let (neg, cs) := match cs with
    | '-' :: rest => (true, rest)
    | '+' :: rest => (false, rest)
    | _ => (false, cs)
  let (body, exp) := match cs.findIdx? (fun c => c = 'e' || c = 'E') with
    | some i =>
      let e := cs.drop (i + 1)
      let (eneg, ds) := match e with
        | '-' :: rest => (true, rest)
        | '+' :: rest => (false, rest)
        | _ => (false, e)
      let v : Int := (ds.foldl (fun (n : Nat) (c : Char) => n * 10 + (c.toNat - 48)) 0 : Nat)
      (cs.take i, if eneg then -v else v)
    | none => (cs, 0)
  let (whole, frac) := match body.findIdx? (· = '.') with
    | some i => (body.take i, body.drop (i + 1))
    | none => (body, [])
  let m : Nat := (whole ++ frac).foldl (fun (n : Nat) (c : Char) => n * 10 + (c.toNat - 48)) 0
  ⟨if neg then -(m : Int) else m, exp - frac.length⟩

/-- Whether a text is a decimal float: `[-+]?(\.[0-9]+|[0-9]+(\.[0-9]*)?)([eE][-+]?[0-9]+)?`. -/
def isDecimalFloat (cs : List Char) : Bool :=
  let cs := match cs with
    | '-' :: rest => rest
    | '+' :: rest => rest
    | _ => cs
  let count (xs : List Char) : Nat := (xs.takeWhile Char.isDigit).length
  let exponentOk (xs : List Char) : Bool :=
    match xs with
    | [] => true
    | e :: rest =>
      (e = 'e' || e = 'E') &&
        (let rest := match rest with
          | '-' :: r => r
          | '+' :: r => r
          | _ => rest
         count rest > 0 && count rest = rest.length)
  match cs with
  | '.' :: rest =>
    let n := count rest
    n > 0 && exponentOk (rest.drop n)
  | _ =>
    let n := count cs
    if n = 0 then false
    else
      match cs.drop n with
      | '.' :: rest => exponentOk (rest.drop (count rest))
      | rest => exponentOk rest

/-- Whether the underscores of a decimal literal each stand between digits. -/
def underscoresBetweenDigits (cs : List Char) : Bool :=
  let cs := match cs with
    | '-' :: rest => rest
    | '+' :: rest => rest
    | _ => cs
  let last := cs.foldl (fun (saw : Char) c =>
    if saw = 'x' then saw
    else if c.isDigit then '0'
    else if c = '_' then (if saw = '0' then '_' else 'x')
    else if saw = '_' then 'x'
    else '!') '^'
  last ≠ '_' && last ≠ 'x'

/-- The double a decimal literal reads as; `none` when it is not one or is too
large for a double. -/
def readFloat (cs : List Char) : Option Double :=
  let cs := if cs.contains '_' && underscoresBetweenDigits cs then cs.filter (· ≠ '_') else cs
  if isDecimalFloat cs then Double.ofDecimal? (decimalOf cs) (cs.head? == some '-') else none

def lookupPlain (s : String) : Option (String × Resolved) :=
  match s with
  | "true" | "True" | "TRUE" => some ("!!bool", .bool true)
  | "false" | "False" | "FALSE" => some ("!!bool", .bool false)
  | "" | "~" | "null" | "Null" | "NULL" => some ("!!null", .null)
  | ".nan" | ".NaN" | ".NAN" => some ("!!float", .float .nan)
  | ".inf" | ".Inf" | ".INF" | "+.inf" | "+.Inf" | "+.INF" => some ("!!float", .float (.infinity false))
  | "-.inf" | "-.Inf" | "-.INF" => some ("!!float", .float (.infinity true))
  | "<<" => some ("!!merge", .text "<<")
  | _ => none

/-- How a text's first character decides what to try: a sign, a digit, a letter
that may start a looked-up text, a point, or none. -/
def hint (s : String) : Option Char :=
  match s.toList with
  | [] => some 'N'
  | c :: _ =>
    if c = '+' || c = '-' then some 'S'
    else if c.isDigit then some 'D'
    else if "yYnNtTfFoO~".toList.contains c then some 'M'
    else if c = '.' then some '.'
    else none

def isResolvable (tag : String) : Bool :=
  tag == "" || tag == "!!str" || tag == "!!bool" || tag == "!!int" || tag == "!!float" ||
    tag == "!!null" || tag == "!!timestamp"

/-- What an untagged or kind-tagged text reads as, with the tag of its kind. -/
def readPlain (tag s : String) : String × Resolved :=
  match hint s with
  | none => ("!!str", .text s)
  | some h =>
    if tag == "!!str" || tag == "!!binary" then ("!!str", .text s) else
    match lookupPlain s with
    | some r => r
    | none =>
      if h = '.' then
        match readFloat s.toList with
        | some x => ("!!float", .float x)
        | none => ("!!str", .text s)
      else if h = 'D' || h = 'S' then
        if (tag == "" || tag == "!!timestamp") && isTimestamp s then ("!!timestamp", .timestamp) else
        let plain := s.toList.filter (· ≠ '_')
        match Numeral.readInt 64 plain with
        | .ok i => ("!!int", .int i)
        | .error _ =>
          match Numeral.readNat (Nat.pow 2 64 - 1) plain with
          | .ok n => ("!!int", .uint n)
          | .error _ =>
            if isDecimalFloat plain then
              match Double.ofDecimal? (decimalOf plain) (plain.head? == some '-') with
              | some x => ("!!float", .float x)
              | none => ("!!str", .text s)
            else ("!!str", .text s)
      else ("!!str", .text s)

/-- What a scalar with a tag stands for, and the tag of its kind; refused when the
tag asks for a kind the text does not read as. -/
def resolve (tag s : String) : Except String (String × Resolved) :=
  let tag := shortTag tag
  if !isResolvable tag then .ok (tag, .text s) else
  let (rtag, out) := readPlain tag s
  if tag == "" || tag == rtag || tag == "!!str" || tag == "!!binary" then .ok (rtag, out)
  else
    match tag, out with
    | "!!float", .int i => .ok ("!!float", .float (Double.ofInt i))
    | _, _ =>
      .error ("yaml: cannot decode " ++ shortTag rtag ++ " " ++ String.singleton (Char.ofNat 96) ++ s ++
        String.singleton (Char.ofNat 96) ++ " as a " ++ tag)

end Yaml

end Admissions
