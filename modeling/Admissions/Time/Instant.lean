namespace Admissions

/-- A moment in time and the UTC offset it is shown in. -/
structure Instant where
  /-- Seconds since 0001-01-01T00:00:00 UTC. -/
  seconds : Int
  /-- Nanoseconds within the second, below 10^9. -/
  nanos : Nat
  /-- Seconds east of UTC of the clock the instant is shown on. -/
  offset : Int
  deriving Repr, Inhabited, BEq

/-- A calendar date with a wall-clock time. -/
structure CivilTime where
  year : Int
  month : Nat
  day : Nat
  hour : Nat
  minute : Nat
  second : Nat
  deriving Repr, BEq

namespace Instant

/-- Days from 0001-01-01 to 1970-01-01. -/
def epochDays : Int := 719162

/-- The days since 1970-01-01 of a calendar date. -/
def daysFromCivil (y : Int) (m d : Nat) : Int :=
  let y := if m ≤ 2 then y - 1 else y
  let era := (if 0 ≤ y then y else y - 399) / 400
  let yoe := y - era * 400
  let mp : Int := (m + 9) % 12
  let doy := (153 * mp + 2) / 5 + d - 1
  let doe := yoe * 365 + yoe / 4 - yoe / 100 + doy
  era * 146097 + doe - 719468

/-- The calendar date of a day counted from 1970-01-01. -/
def civilFromDays (z : Int) : Int × Nat × Nat :=
  let z := z + 719468
  let era := (if 0 ≤ z then z else z - 146096) / 146097
  let doe := z - era * 146097
  let yoe := (doe - doe / 1460 + doe / 36524 - doe / 146096) / 365
  let y := yoe + era * 400
  let doy := doe - (365 * yoe + yoe / 4 - yoe / 100)
  let mp := (5 * doy + 2) / 153
  let d := doy - (153 * mp + 2) / 5 + 1
  let m := if mp < 10 then mp + 3 else mp - 9
  ((if m ≤ 2 then y + 1 else y), m.toNat, d.toNat)

/-- Whether a year has 29 February. -/
def isLeap (y : Int) : Bool := y % 4 = 0 && (y % 100 ≠ 0 || y % 400 = 0)

def daysIn (m : Nat) (y : Int) : Nat :=
  match m with
  | 2 => if isLeap y then 29 else 28
  | 4 | 6 | 9 | 11 => 30
  | _ => 31

def ofCivil (c : CivilTime) (nanos : Nat) (offset : Int) : Instant :=
  let days := daysFromCivil c.year c.month c.day + epochDays
  ⟨days * 86400 + c.hour * 3600 + c.minute * 60 + c.second - offset, nanos, offset⟩

def civil (t : Instant) : CivilTime :=
  let local_ := t.seconds + t.offset
  let days := local_ / 86400
  let secs := (local_ % 86400).toNat
  let (y, m, d) := civilFromDays (days - epochDays)
  ⟨y, m, d, secs / 3600, secs % 3600 / 60, secs % 60⟩

/-- The zero instant, 0001-01-01T00:00:00 UTC. -/
def zero : Instant := ⟨0, 0, 0⟩

/-- Whether an instant is the zero instant. -/
def isZero (t : Instant) : Bool := t.seconds = 0 && t.nanos = 0

def cmp (a b : Instant) : Ordering :=
  match compare a.seconds b.seconds with
  | .eq => compare a.nanos b.nanos
  | o => o

def before (a b : Instant) : Bool := a.cmp b == .lt

def after (a b : Instant) : Bool := a.cmp b == .gt

/-- Moves an instant by a number of nanoseconds, keeping its offset. -/
def addNanos (t : Instant) (n : Int) : Instant :=
  let total := t.seconds * 1000000000 + t.nanos + n
  ⟨total / 1000000000, (total % 1000000000).toNat, t.offset⟩

def toUTC (t : Instant) : Instant := { t with offset := 0 }

end Instant

end Admissions
