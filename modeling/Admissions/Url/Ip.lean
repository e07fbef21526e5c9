import Admissions.Text.Quote

namespace Admissions

/-- An IP address read from text: its bytes (four or sixteen), whether it was
written as an IPv4 address, and its zone. -/
structure IpAddress where
  bytes : List Nat
  isV4 : Bool
  zone : String
  deriving BEq, Repr

namespace IpAddress

/-- The refusal of a text, with the place it concerns when there is one. -/
def refusal (input msg : String) (rest : List Char) : String :=
  "ParseAddr(" ++ Text.quote input ++ "): " ++ msg ++
    (if rest.isEmpty then "" else " (at " ++ Text.quote (String.ofList rest) ++ ")")

def hexDigit (c : Char) : Option Nat :=
  if '0' ≤ c && c ≤ '9' then some (c.toNat - 48)
  else if 'a' ≤ c && c ≤ 'f' then some (c.toNat - 87)
  else if 'A' ≤ c && c ≤ 'F' then some (c.toNat - 55)
  else none

/-- Reads the four fields of an IPv4 address from `s`, a part of `input`; `digits`
counts the digits of the field being read. -/
def v4Fields (input : String) (val digits : Nat) (fields : List Nat) :
    List Char → Except String (List Nat)
  | [] =>
    if fields.length < 3 then .error (refusal input "IPv4 address too short" [])
    else .ok (fields ++ [val])
  | c :: rest =>
    if c.isDigit then
      if digits = 1 && val = 0 then .error (refusal input "IPv4 field has octet with leading zero" [])
      else
        let v := val * 10 + (c.toNat - 48)
        if v > 255 then .error (refusal input "IPv4 field has value >255" [])
        else v4Fields input v (digits + 1) fields rest
    else if c = '.' then
      if digits = 0 || rest.isEmpty then
        .error (refusal input "IPv4 field must have at least one digit" (c :: rest))
      else if fields.length = 3 then .error (refusal input "IPv4 address too long" [])
      else v4Fields input 0 0 (fields ++ [val]) rest
    else .error (refusal input "unexpected character" (c :: rest))

/-- Reads the hexadecimal digits of a group: its value, how many digits, and the
rest; more than four digits is refused. -/
def hexGroup (input : String) (whole : List Char) (acc count : Nat) :
    List Char → Except String (Nat × Nat × List Char)
  | [] => .ok (acc, count, [])
  | c :: rest =>
    match hexDigit c with
    | none => .ok (acc, count, c :: rest)
    | some v =>
      if count ≥ 4 then .error (refusal input "each group must have 4 or less digits" whole)
      else hexGroup input whole (acc * 16 + v) (count + 1) rest

/-- Reads the groups of an IPv6 address after any leading `::`: the bytes read so
far, where the `::` stood (as a byte position), and the rest of the text. -/
def v6Groups (input : String) : Nat → List Nat → Option Nat → List Char →
    Except String (List Nat × Option Nat × List Char)
  | 0, ip, ellipsis, s => .ok (ip, ellipsis, s)
  | fuel + 1, ip, ellipsis, s =>
    if ip.length ≥ 16 then .ok (ip, ellipsis, s) else
    match hexGroup input s 0 0 s with
    | .error e => .error e
    | .ok (acc, count, after) =>
      if count = 0 then
        .error (refusal input "each colon-separated field must have at least one digit" s)
      else if after.head? = some '.' then
        if ellipsis.isNone && ip.length != 12 then
          .error (refusal input "embedded IPv4 address must replace the final 2 fields of the address" s)
        else if ip.length + 4 > 16 then
          .error (refusal input "too many hex fields to fit an embedded IPv4 at the end of the address" s)
        else
          match v4Fields input 0 0 [] s with
          | .error e => .error e
          | .ok fields => .ok (ip ++ fields, ellipsis, [])
      else
        let ip := ip ++ [acc / 256, acc % 256]
        match after with
        | [] => .ok (ip, ellipsis, [])
        | ':' :: [] => .error (refusal input "colon must be followed by more characters" after)
        | ':' :: ':' :: more =>
          if ellipsis.isSome then .error (refusal input "multiple :: in address" (':' :: more))
          else if more.isEmpty then .ok (ip, some ip.length, [])
          else v6Groups input fuel ip (some ip.length) more
        | ':' :: more => v6Groups input fuel ip ellipsis more
        | _ => .error (refusal input "unexpected character, want colon" after)

/-- Reads an IPv6 address, with its zone. -/
def parseV6 (input : String) : Except String IpAddress :=
  let cs := input.toList
  let (body, zone) := match cs.findIdx? (· = '%') with
    | some i => (cs.take i, some (cs.drop (i + 1)))
    | none => (cs, none)
  if zone == some [] then .error (refusal input "zone must be a non-empty string" []) else
  let zoneText := String.ofList (zone.getD [])
  let (start, body) := match body with
    | ':' :: ':' :: rest => (some 0, rest)
    | _ => (none, body)
  if start.isSome && body.isEmpty then .ok ⟨List.replicate 16 0, false, zoneText⟩ else
  match v6Groups input (body.length + 1) [] start body with
  | .error e => .error e
  | .ok (ip, ellipsis, rest) =>
    if !rest.isEmpty then .error (refusal input "trailing garbage after address" rest)
    else if ip.length < 16 then
      match ellipsis with
      | none => .error (refusal input "address string too short" [])
      | some e => .ok ⟨ip.take e ++ List.replicate (16 - ip.length) 0 ++ ip.drop e, false, zoneText⟩
    else if ellipsis.isSome then
      .error (refusal input "the :: must expand to at least one field of zeros" [])
    else .ok ⟨ip, false, zoneText⟩

/-- Reads an IP address: the first dot makes it IPv4 and the first colon IPv6. -/
def parse (s : String) : Except String IpAddress :=
  match s.toList.find? (fun c => c = '.' || c = ':' || c = '%') with
  | some '.' => (v4Fields s 0 0 [] s.toList).map fun fields => ⟨fields, true, ""⟩
  | some ':' => parseV6 s
  | some _ => .error (refusal s "missing IPv6 address" [])
  | none => .error (refusal s "unable to parse IP" [])

/-- Whether a text is an IP address without a zone, as addresses for hosts are. -/
def isPlain (s : String) : Bool :=
  match parse s with
  | .ok a => a.zone.isEmpty
  | .error _ => false

end IpAddress

end Admissions
