import Admissions.Time.Text
import Admissions.Pattern.Machine
import Admissions.Url.Basic
import Admissions.Mail.Address

namespace Admissions

namespace StringFormat

/-- A date, as `2006-01-02`. -/
def dateLayout : TimeLayout := [.year, .literal "-", .month, .literal "-", .day]

/-- A time of day, as `15:04:05`. -/
def timeLayout : TimeLayout := [.hour, .literal ":", .minute, .literal ":", .second]

def reads (layout : TimeLayout) (s : String) : Bool :=
  match Instant.parseWith layout s with
  | .ok _ => true
  | .error _ => false

/-- Whether a text is a host name: labels of ASCII letters, digits and hyphens,
each of 1 to 63 characters that neither starts nor ends with a hyphen. -/
def isHostname (s : String) : Bool :=
  s.utf8ByteSize < 256 && (s.splitOn ".").all fun label =>
    let cs := label.toList
    let inner (c : Char) := (c.isAlphanum && c.toNat < 128) || c = '-'
    !cs.isEmpty && cs.length ≤ 63 && cs.all inner && cs.head? != some '-' && cs.getLast? != some '-'

/-- Whether a text is lowercase hexadecimal digits in groups of 8, 4, 4, 4 and 12. -/
def isUuid (s : String) : Bool :=
  let groups := s.splitOn "-"
  groups.map String.length == [8, 4, 4, 4, 12] &&
    groups.all fun g => g.toList.all fun c => c.isDigit || ('a' ≤ c && c ≤ 'f')

/-- Whether every `~` of a text is followed by `0` or `1`. -/
def tildesEscaped : List Char → Bool
  | [] => true
  | '~' :: '0' :: rest => tildesEscaped rest
  | '~' :: '1' :: rest => tildesEscaped rest
  | '~' :: _ => false
  | _ :: rest => tildesEscaped rest

/-- Whether a text is a JSON pointer: empty, or tokens each led by `/`. -/
def isJsonPointer (s : String) : Bool :=
  (s.isEmpty || s.startsWith "/") && tildesEscaped s.toList

/-- Whether a text is a relative JSON pointer: a number without leading zeros, then
`#` or a JSON pointer. -/
def isRelativePointer (s : String) : Bool :=
  let cs := s.toList
  let digits := cs.takeWhile Char.isDigit
  let rest := String.ofList (cs.drop digits.length)
  !digits.isEmpty && (digits.length = 1 || digits.head? != some '0') &&
    (rest == "#" || isJsonPointer rest)

/-- Whether every `{` of a path is closed by a later `}`. -/
def bracesClosed : List Char → Bool
  | [] => true
  | '\x7b' :: rest =>
    match rest.findIdx? (· = '\x7d') with
    | some i => bracesClosed (rest.drop (i + 1))
    | none => false
  | _ :: rest => bracesClosed rest
termination_by cs => cs.length
decreasing_by all_goals simp only [List.length_drop, List.length_cons]; omega

/-- The formats with a rule of their own; any other format accepts everything. -/
def known : List String :=
  ["email", "idn-email", "date-time", "date", "time", "hostname", "ipv4", "ipv6", "uri", "iri",
    "uri-reference", "iri-reference", "uri-template", "uuid", "regex", "json-pointer",
    "relative-json-pointer"]

def isKnown (format : String) : Bool := known.contains format

def check (format s : String) : Bool :=
  let url := Url.parse s
  let noBackslash := !s.toList.contains '\\'
  match format with
  | "email" | "idn-email" => MailAddress.isSingle s
  | "date-time" =>
    reads timeLayout s || reads (timeLayout ++ [.zone]) s || reads dateLayout s ||
      reads TimeLayout.rfc3339 s || reads TimeLayout.rfc3339Nano s
  | "date" => reads dateLayout s
  | "time" => reads (timeLayout ++ [.fraction, .zone]) s || reads timeLayout s
  | "hostname" => isHostname s
  | "ipv4" => IpAddress.isPlain s && s.toList.contains '.'
  | "ipv6" => IpAddress.isPlain s && s.toList.contains ':'
  | "uri" | "iri" =>
    match url with
    | .ok u => u.scheme != "" && noBackslash
    | .error _ => false
  | "uri-reference" | "iri-reference" => url.toOption.isSome && noBackslash
  | "uri-template" =>
    match url with
    | .ok u => noBackslash && bracesClosed u.path.toList
    | .error _ => false
  | "uuid" => isUuid s
  | "regex" => s.isEmpty || (Regex.parse s).toOption.isSome
  | "json-pointer" => isJsonPointer s
  | "relative-json-pointer" => isRelativePointer s
  | _ => true

end StringFormat

end Admissions
