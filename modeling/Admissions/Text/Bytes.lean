import Admissions.Text.Quote

namespace Admissions

namespace Text

/-- The UTF-8 bytes of a text. -/
def utf8Bytes (s : String) : List Nat := s.toUTF8.toList.map (·.toNat)

/-- Whether a byte continues a sequence within the range `lo` to `hi`. -/
def inRange (lo hi : Nat) (b : Nat) : Bool := lo ≤ b && b ≤ hi

/-- The range the second byte of a sequence must fall in, and how many bytes
follow the first, for a byte that starts a sequence of two or more. -/
def leadRange (b : Nat) : Option (Nat × Nat × Nat) :=
  if 0xC2 ≤ b && b ≤ 0xDF then some (0x80, 0xBF, 1)
  else if b = 0xE0 then some (0xA0, 0xBF, 2)
  else if 0xE1 ≤ b && b ≤ 0xEC then some (0x80, 0xBF, 2)
  else if b = 0xED then some (0x80, 0x9F, 2)
  else if 0xEE ≤ b && b ≤ 0xEF then some (0x80, 0xBF, 2)
  else if b = 0xF0 then some (0x90, 0xBF, 3)
  else if 0xF1 ≤ b && b ≤ 0xF3 then some (0x80, 0xBF, 3)
  else if b = 0xF4 then some (0x80, 0x8F, 3)
  else none

/-- The first character of a run of bytes and how many bytes it takes; a byte
that does not start a well-formed sequence is one replacement character. -/
def decodeOne : List Nat → Option (Option Char × Nat)
  | [] => none
  | b :: rest =>
    if b < 0x80 then some (some (Char.ofNat b), 1) else
    match leadRange b with
    | none => some (none, 1)
    | some (lo, hi, more) =>
      let tail := rest.take more
      let ok := tail.length = more &&
        (match tail with
          | c :: cs => inRange lo hi c && cs.all (inRange 0x80 0xBF)
          | [] => false)
      if !ok then some (none, 1) else
      let first := b % (if more = 1 then 0x20 else if more = 2 then 0x10 else 0x08)
      let v := tail.foldl (fun acc c => acc * 64 + c % 64) first
      some (some (Char.ofNat v), more + 1)

/-- Reads bytes as text, each byte outside a well-formed sequence read as U+FFFD. -/
def decodeUtf8 (bs : List Nat) : String :=
  let rec go : Nat → List Nat → List Char
    | 0, _ => []
    | fuel + 1, bs =>
      match decodeOne bs with
      | none => []
      | some (c, n) => c.getD (Char.ofNat 0xFFFD) :: go fuel (bs.drop n)
  String.ofList (go bs.length bs)

/-- Bytes between double quotes, as `quote` writes text: well-formed characters as
`quote` writes them, and every other byte as `\x` and two hexadecimal digits. -/
def quoteBytes (bs : List Nat) : String :=
  let rec go : Nat → List Nat → List Char
    | 0, _ => []
    | fuel + 1, bs =>
      match decodeOne bs with
      | none => []
      | some (some c, n) => quoteChar c ++ go fuel (bs.drop n)
      | some (none, n) =>
        ('\\' :: 'x' :: (hexDigits 2 ((bs.head?).getD 0)).toList) ++ go fuel (bs.drop n)
  String.ofList ('"' :: go bs.length bs ++ ['"'])

end Text

end Admissions
