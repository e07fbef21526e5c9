import Admissions.Time.Instant
import Admissions.Json.Read

namespace Admissions

/-- One element of a time layout. -/
inductive LayoutPart where
  | year
  | month
  | day
  | hour
  | minute
  | second
  | fraction
  | zone
  | literal (text : String)
  deriving Repr, BEq

namespace LayoutPart

def spelling : LayoutPart → String
  | .year => "2006"
  | .month => "01"
  | .day => "02"
  | .hour => "15"
  | .minute => "04"
  | .second => "05"
  | .fraction => ".999999999"
  | .zone => "Z07:00"
  | .literal t => t

end LayoutPart

abbrev TimeLayout := List LayoutPart

namespace TimeLayout

/-- Seconds without a fraction in the layout. -/
def rfc3339 : TimeLayout :=
  [.year, .literal "-", .month, .literal "-", .day, .literal "T", .hour, .literal ":", .minute,
    .literal ":", .second, .zone]

def rfc3339Nano : TimeLayout :=
  [.year, .literal "-", .month, .literal "-", .day, .literal "T", .hour, .literal ":", .minute,
    .literal ":", .second, .fraction, .zone]

def spelling (l : TimeLayout) : String := String.join (l.map LayoutPart.spelling)

end TimeLayout

/-- A text in double quotes; characters outside printable ASCII are written as
the `\x` escapes of their UTF-8 bytes. -/
def quoteTimeText (s : String) : String :=
  let byteEscapes (c : Char) : List Char :=
    (String.singleton c).toUTF8.toList.flatMap fun b => '\\' :: 'x' :: (hexDigits 2 b.toNat).toList
  let body := s.toList.flatMap fun c =>
    if c.toNat ≥ 0x80 ∨ c.toNat < 0x20 then byteEscapes c
    else if c = '"' ∨ c = '\\' then ['\\', c]
    else [c]
  String.ofList ('"' :: body ++ ['"'])

/-- Why a time text was refused. -/
inductive TimeTextError where
  /-- The rest of the text does not start with the element. -/
  | cannotParse (value layout rest element : String)
  /-- A field was read but lies outside its range. -/
  | outOfRange (value what : String)
  /-- Text is left over after the layout. -/
  | extraText (value rest : String)
  deriving Repr, BEq

namespace TimeTextError

def message : TimeTextError → String
  | .cannotParse value layout rest element =>
    "parsing time " ++ quoteTimeText value ++ " as " ++ quoteTimeText layout ++ ": cannot parse " ++
      quoteTimeText rest ++ " as " ++ quoteTimeText element
  | .outOfRange value what => "parsing time " ++ quoteTimeText value ++ ": " ++ what ++ " out of range"
  | .extraText value rest => "parsing time " ++ quoteTimeText value ++ ": extra text: " ++ quoteTimeText rest

end TimeTextError

/-- Fields read so far. -/
structure TimeFields where
  year : Int := 1
  month : Nat := 1
  day : Nat := 1
  hour : Nat := 0
  minute : Nat := 0
  second : Nat := 0
  nanos : Nat := 0
  offset : Int := 0

namespace TimeFields

/-- One or two digits (`fixed`: exactly two). -/
def number (cs : List Char) (fixed : Bool) : Option (Nat × List Char) :=
  match cs with
  | a :: b :: rest =>
    if a.isDigit then
      if b.isDigit then some ((a.toNat - 48) * 10 + (b.toNat - 48), rest)
      else if fixed then none else some (a.toNat - 48, b :: rest)
    else none
  | [a] => if a.isDigit ∧ !fixed then some (a.toNat - 48, []) else none
  | [] => none

/-- Nanoseconds of a fraction: at most nine digits count. -/
def fractionNanos (digits : List Char) : Nat :=
  let kept := digits.take 9
  let n := kept.foldl (fun acc c => acc * 10 + (c.toNat - 48)) 0
  n * Nat.pow 10 (9 - kept.length)

/-- Whether the text starts with a point or comma and a digit. -/
def startsFraction : List Char → Bool
  | p :: d :: _ => (p = '.' ∨ p = ',') && d.isDigit
  | _ => false

/-- A problem met on one element: out of range (with its name), or no fit. -/
inductive Miss where
  | range (what : String)
  | bad

/-- Reads one element; `next` is the element after it in the layout. -/
def readPart (f : TimeFields) (part : LayoutPart) (next : Option LayoutPart) (cs : List Char) :
    Except Miss (TimeFields × List Char) :=
  match part with
  | .literal t =>
    if t.toList.isPrefixOf cs then .ok (f, cs.drop t.length) else .error .bad
  | .year =>
    let p := cs.take 4
    if p.length = 4 ∧ p.all Char.isDigit then
      .ok ({ f with year := p.foldl (fun acc c => acc * 10 + (c.toNat - 48)) 0 }, cs.drop 4)
    else .error .bad
  | .month =>
    match number cs true with
    | some (m, rest) => if m = 0 ∨ 12 < m then .error (.range "month") else .ok ({ f with month := m }, rest)
    | none => .error .bad
  | .day =>
    match number cs true with
    | some (d, rest) => .ok ({ f with day := d }, rest)
    | none => .error .bad
  | .hour =>
    match number cs false with
    | some (h, rest) => if 24 ≤ h then .error (.range "hour") else .ok ({ f with hour := h }, rest)
    | none => .error .bad
  | .minute =>
    match number cs true with
    | some (m, rest) => if 60 ≤ m then .error (.range "minute") else .ok ({ f with minute := m }, rest)
    | none => .error .bad
  | .second =>
    match number cs true with
    | some (s, rest) =>
      if 60 ≤ s then .error (.range "second")
      else if startsFraction rest ∧ next != some .fraction then
        let digits := (rest.drop 1).takeWhile Char.isDigit
        .ok ({ f with second := s, nanos := fractionNanos digits }, rest.drop (1 + digits.length))
      else .ok ({ f with second := s }, rest)
    | none => .error .bad
  | .fraction =>
    if startsFraction cs then
      let digits := (cs.drop 1).takeWhile Char.isDigit
      .ok ({ f with nanos := fractionNanos digits }, cs.drop (1 + digits.length))
    else .ok (f, cs)
  | .zone =>
    match cs with
    | 'Z' :: rest => .ok ({ f with offset := 0 }, rest)
    | _ =>
      if cs.length < 6 then .error .bad
      else if cs[3]? != some ':' then .error .bad
      else
        -- the hour, then the minute when the hour reads; a field that does not read is 0
        let hh := number ((cs.drop 1).take 2) true
        let mm := if hh.isSome then number ((cs.drop 4).take 2) true else none
        let h := (hh.map (·.1)).getD 0
        let m := (mm.map (·.1)).getD 0
        if m > 60 then .error (.range "time zone offset minute")
        else if h > 24 then .error (.range "time zone offset hour")
        else if hh.isNone || mm.isNone then .error .bad
        else
          let off : Int := (h * 60 + m) * 60
          match cs.head? with
          | some '+' => .ok ({ f with offset := off }, cs.drop 6)
          | some '-' => .ok ({ f with offset := -off }, cs.drop 6)
          | _ => .error .bad

end TimeFields

namespace Instant

def readLayout (value layoutText : String) :
    TimeLayout → TimeFields → List Char → Except TimeTextError TimeFields
  | [], f, [] => .ok f
  | [], _, rest => .error (.extraText value (String.ofList rest))
  | part :: parts, f, cs =>
    match f.readPart part parts.head? cs with
    | .ok (f', rest) => readLayout value layoutText parts f' rest
    | .error (.range what) => .error (.outOfRange value what)
    | .error .bad => .error (.cannotParse value layoutText (String.ofList cs) part.spelling)

def parseWith (layout : TimeLayout) (value : String) : Except TimeTextError Instant := do
  let f ← readLayout value layout.spelling layout {} value.toList
  if f.day < 1 ∨ f.day > daysIn f.month f.year then .error (.outOfRange value "day")
  else pure (ofCivil ⟨f.year, f.month, f.day, f.hour, f.minute, f.second⟩ f.nanos f.offset)

/-- Reads an RFC 3339 time; a fraction of a second is accepted. -/
def parse (value : String) : Except TimeTextError Instant := parseWith TimeLayout.rfc3339 value

/-- Reads an RFC 3339 time with the fractional layout. -/
def parseNano (value : String) : Except TimeTextError Instant :=
  parseWith TimeLayout.rfc3339Nano value

def padded (width n : Nat) : String :=
  let ds := Nat.toDigits 10 n
  String.ofList (List.replicate (width - ds.length) '0' ++ ds)

/-- The offset: `Z` for UTC, otherwise a sign and hours and minutes. -/
def zoneText (offset : Int) : String :=
  if offset = 0 then "Z"
  else
    let a := offset.natAbs / 60
    (if offset < 0 then "-" else "+") ++ padded 2 (a / 60) ++ ":" ++ padded 2 (a % 60)

/-- Date and time to the second, without the offset. -/
def wallText (t : Instant) : String :=
  let c := t.civil
  let year := if c.year < 0 then "-" ++ padded 4 c.year.natAbs else padded 4 c.year.toNat
  year ++ "-" ++ padded 2 c.month ++ "-" ++ padded 2 c.day ++ "T" ++ padded 2 c.hour ++ ":" ++
    padded 2 c.minute ++ ":" ++ padded 2 c.second

/-- RFC 3339 to the second. -/
def format (t : Instant) : String := t.wallText ++ zoneText t.offset

/-- RFC 3339 with the fraction of a second, trailing zeros dropped. -/
def formatNano (t : Instant) : String :=
  let frac :=
    if t.nanos = 0 then ""
    else
      let ds := (padded 9 t.nanos).toList
      "." ++ String.ofList (ds.reverse.dropWhile (· = '0')).reverse
  t.wallText ++ frac ++ zoneText t.offset

/-- RFC 3339 with the fraction of a second as a JSON encoder writes a time, which
refuses a year outside 0 to 9999 and an offset of 24 hours or more, since RFC 3339
cannot write them. -/
def strictText (t : Instant) : Except String String :=
  let c := t.civil
  if c.year < 0 || c.year > 9999 then .error "year outside of range [0,9999]"
  else if t.offset.natAbs / 3600 ≥ 24 then .error "timezone hour outside of range [0,23]"
  else .ok t.formatNano

end Instant

end Admissions
