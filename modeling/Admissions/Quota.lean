import Admissions.Category
import Admissions.Decimal.Text
import Admissions.Word

namespace Admissions

/-- An inclusive range of scores. -/
structure ScoreRange where
  min : Decimal
  max : Decimal
  deriving Repr, Inhabited

namespace ScoreRange

def ofInts (lo hi : Int) : ScoreRange := ⟨Decimal.ofInt lo, Decimal.ofInt hi⟩

def contains (r : ScoreRange) (v : Decimal) : Bool := r.min.le v && v.le r.max

end ScoreRange

/-- The score ranges of one category. The coding-test range is absent for
categories that do not sit the test. -/
structure CategoryRanges where
  depthInterview : ScoreRange
  ncs : ScoreRange
  codingTest : Option ScoreRange := none
  deriving Repr, Inhabited

/-- Ranges of a category that has none configured. -/
def CategoryRanges.fallback : CategoryRanges := ⟨.ofInts 0 120, .ofInts 0 40, none⟩

/-- A seat policy. Seats and ranges are keyed by category code. -/
structure QuotaConfig where
  totalSeats : Int := 0
  seats : List (String × Int) := []
  multiplier : Decimal := Decimal.zero
  otherRegionRate : Decimal := Decimal.zero
  ranges : List (String × CategoryRanges) := []
  deriving Repr, Inhabited

def lookupKey {α : Type} (m : List (String × α)) (k : String) : Option α :=
  (m.find? (·.1 == k)).map (·.2)

/-- Sets a key of an association list: in place if present, else at the end. -/
def setKey {α : Type} (m : List (String × α)) (k : String) (v : α) : List (String × α) :=
  if m.any (·.1 == k) then m.map fun kv => if kv.1 == k then (k, v) else kv else m ++ [(k, v)]

namespace QuotaConfig

/-- The policy used when none is configured: six seats each in the general,
meister and social-integration categories, 1.3 times as many first-round passers,
half of them at most from other regions. -/
def default : QuotaConfig where
  totalSeats := 18
  seats := [("REGULAR", 6), ("MEISTER_TALENT", 6), ("SOCIAL_INTEGRATION", 6),
    ("NATIONAL_VETERANS_EDUCATION", 0), ("SPECIAL_ADMISSION", 0)]
  multiplier := ⟨13, -1⟩
  otherRegionRate := ⟨5, -1⟩
  ranges := [("REGULAR", .fallback),
    ("MEISTER_TALENT", ⟨.ofInts 0 120, .ofInts 0 40, some (.ofInts 0 80)⟩),
    ("SOCIAL_INTEGRATION", ⟨.ofInts 0 200, .ofInts 0 40, none⟩),
    ("NATIONAL_VETERANS_EDUCATION", .fallback),
    ("SPECIAL_ADMISSION", .fallback)]

/-- The seats of a category; none configured is zero. -/
def seatsOf (q : QuotaConfig) (c : Category) : Int := (lookupKey q.seats c.code).getD 0

/-- The first-round target of a category: `ceil(seats × multiplier)`. -/
def firstRoundTarget (q : QuotaConfig) (c : Category) : Int :=
  Word.wrap (Decimal.ofInt (q.seatsOf c) * q.multiplier).ceil.intPart

/-- The regional cap of a target: `ceil(target × rate)`. -/
def regionalCap (q : QuotaConfig) (target : Int) : Int :=
  Word.wrap (Decimal.ofInt target * q.otherRegionRate).ceil.intPart

def rangesFor (q : QuotaConfig) (c : Category) : CategoryRanges :=
  (lookupKey q.ranges c.code).getD .fallback

end QuotaConfig

end Admissions
