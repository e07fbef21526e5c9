import Admissions.Random.LaggedFibonacci

namespace Admissions

namespace Uuid

/-- The lower-case hexadecimal digit of a value below 16. -/
def hexDigit (n : Nat) : Char :=
  if n < 10 then Char.ofNat (48 + n) else Char.ofNat (87 + n)

def byteHex (b : UInt8) : List Char := [hexDigit (b.toNat / 16), hexDigit (b.toNat % 16)]

def stamp (bytes : List UInt8) : List UInt8 :=
  bytes.mapIdx fun i b =>
    if i = 6 then (b &&& 0x0f) ||| 0x40
    else if i = 8 then (b &&& 0x3f) ||| 0x80
    else b

/-- The text of sixteen bytes: hexadecimal with a dash after bytes 4, 6, 8 and 10. -/
def text (bytes : List UInt8) : String :=
  String.ofList ((bytes.mapIdx fun i b =>
    (if i = 4 ∨ i = 6 ∨ i = 8 ∨ i = 10 then ['-'] else []) ++ byteHex b).flatten)

def isHexDigit (c : Char) : Bool := ('0' ≤ c && c ≤ '9') || ('a' ≤ c && c ≤ 'f')

/-- Whether a character may stand at a place of an id: a dash at places 8, 13, 18
and 23, a lower-case hexadecimal digit elsewhere. -/
def fitsAt (i : Nat) (c : Char) : Bool :=
  if i = 8 ∨ i = 13 ∨ i = 18 ∨ i = 23 then c = '-' else isHexDigit c

def width : Nat := 36

def startsText (cs : List Char) : Bool :=
  (cs.take width).length = width && ((cs.take width).zipIdx.all fun (c, i) => fitsAt i c)

end Uuid

/-- The source of a run's ids: bytes of the generator seeded with 1. -/
structure IdSource where
  reader : Random.ByteReader := ⟨Random.Generator.seeded 1, []⟩
  deriving Inhabited

namespace IdSource

/-- The next id and the source after it. -/
def next (s : IdSource) : String × IdSource :=
  let (bytes, r) := Random.ByteReader.take 16 s.reader
  (Uuid.text (Uuid.stamp bytes), ⟨r⟩)

end IdSource

end Admissions
