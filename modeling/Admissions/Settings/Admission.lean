import Admissions.Quota
import Admissions.ExamNumber
import Admissions.Json.Decode
import Admissions.Time.Text

namespace Admissions

/-- The application period, as RFC 3339 texts; an empty text leaves that end open. -/
structure PeriodSettings where
  start : String := ""
  finish : String := ""
  deriving Repr, Inhabited

/-- Score ranges as written: each `[min, max]`, or none or empty for the default. -/
structure RangeSettings where
  depthInterview : Option (List Int) := none
  ncs : Option (List Int) := none
  codingTest : Option (List Int) := none
  /-- Values past the end of each list that a longer list read earlier left
  behind (see `Decoder.refill`). -/
  spareDepthInterview : List Int := []
  spareNcs : List Int := []
  spareCodingTest : List Int := []
  deriving Repr, Inhabited

/-- The admission settings. -/
structure AdmissionSettings where
  schoolName : String := ""
  homeRegion : String := ""
  applicationPeriod : PeriodSettings := {}
  totalSeats : Int := 0
  seats : Option (List (String × Int)) := none
  multiplier : String := ""
  otherRegionRate : String := ""
  ranges : Option (List (String × RangeSettings)) := none
  examinationNumbers : Option (List (String × Int)) := none
  lockTTL : Int := 0
  resultsIndex : String := ""
  deriving Repr, Inhabited

namespace PeriodSettings

/-- The two ends of the period; an empty text is the zero instant. -/
def bounds (p : PeriodSettings) : Except String (Instant × Instant) := do
  let start ← if p.start.isEmpty then pure Instant.zero else
    match Instant.parse p.start with
    | .ok t => pure t
    | .error e => throw ("admission.application_period.start: " ++ e.message)
  let finish ← if p.finish.isEmpty then pure Instant.zero else
    match Instant.parse p.finish with
    | .ok t => pure t
    | .error e => throw ("admission.application_period.end: " ++ e.message)
  pure (start, finish)

/-- Whether an instant lies in the period, both ends included; a zero end is open. -/
def contains (p : PeriodSettings) (t : Instant) : Except String Bool := do
  let (start, finish) ← p.bounds
  if !start.isZero && t.before start then return false
  if !finish.isZero && t.after finish then return false
  return true

end PeriodSettings

namespace AdmissionSettings

def inKeyOrder {α : Type} (m : List (String × α)) : List (String × α) :=
  m.mergeSort fun a b => decide (a.1 ≤ b.1)

/-- The category a settings key names: the key is upper-cased first. -/
def categoryKey (key : String) : Except String Category := Category.parse (Text.toUpper key)

/-- A list of integers as written in messages: in brackets, separated by blanks. -/
def intList (v : List Int) : String := "[" ++ Text.join " " (v.map Text.ofInt) ++ "]"

/-- A range as written, or the fallback when none is written. -/
def boundOr (v : List Int) (fallback : ScoreRange) : Except String ScoreRange :=
  match v with
  | [] => .ok fallback
  | [lo, hi] =>
    if lo > hi then .error ("min " ++ Text.ofInt lo ++ " above max " ++ Text.ofInt hi)
    else .ok (.ofInts lo hi)
  | _ => .error ("expected [min, max], got " ++ intList v)

/-- Writes keyed entries into a table, visiting them in the order given. The key of an
entry names a category, and the entry gives the table's new value for that category
from the value the table holds there; the first entry refused stops the writing with its
reason, an unknown category reported after `site`. -/
def writeKeyed {α β : Type} (site : String) (value : String → α → Option β → Except String β)
    (entries : List (String × α)) (table : List (String × β)) :
    Except String (List (String × β)) :=
  entries.foldlM (fun table entry => do
    let c ← match categoryKey entry.1 with
      | .ok c => pure c
      | .error e => throw (site ++ e)
    let x ← value entry.1 entry.2 (lookupKey table c.code)
    return setKey table c.code x) table

/-- A written seat count, refused when negative. -/
def seatCount (key : String) (n : Int) : Except String Int :=
  if n < 0 then .error ("admission.seats." ++ key ++ ": negative seat count " ++ Text.ofInt n)
  else .ok n

def applySeats (seats : List (String × Int)) (q : QuotaConfig) : Except String QuotaConfig := do
  if seats.isEmpty then return q
  let out ← writeKeyed "admission.seats: " (fun key n _ => seatCount key n) seats []
  return { q with seats := out }

/-- The ranges written for a category over its current ones: each range as written, or
the current one where none is written. -/
def writtenRanges (key : String) (rc : RangeSettings) (current : CategoryRanges) :
    Except String CategoryRanges := do
  let interview ← match boundOr (rc.depthInterview.getD []) current.depthInterview with
    | .ok r => pure r
    | .error e => throw ("admission.ranges." ++ key ++ ".depth_interview: " ++ e)
  let ncs ← match boundOr (rc.ncs.getD []) current.ncs with
    | .ok r => pure r
    | .error e => throw ("admission.ranges." ++ key ++ ".ncs: " ++ e)
  let coding ← if (rc.codingTest.getD []).isEmpty then pure current.codingTest else
    match boundOr (rc.codingTest.getD []) ⟨Decimal.zero, Decimal.zero⟩ with
    | .ok r => pure (some r)
    | .error e => throw ("admission.ranges." ++ key ++ ".coding_test: " ++ e)
  return ⟨interview, ncs, coding⟩

/-- Adds the written ranges, visited in the order given; a category without ranges of
its own starts from the fallback ones. -/
def applyRanges (ranges : List (String × RangeSettings)) (q : QuotaConfig) :
    Except String QuotaConfig := do
  let written ← writeKeyed "admission.ranges: "
    (fun key rc current => writtenRanges key rc (current.getD .fallback)) ranges q.ranges
  return { q with ranges := written }

/-- A written multiplier: a positive decimal. -/
def readMultiplier (text : String) : Except String Decimal :=
  match Decimal.ofString text with
  | .ok m => if m.sign > 0 then .ok m else .error ("admission.multiplier: invalid value " ++ Text.quote text)
  | .error _ => .error ("admission.multiplier: invalid value " ++ Text.quote text)

/-- A written regional rate: a decimal from 0 to 1. -/
def readRate (text : String) : Except String Decimal :=
  let refusal := "admission.other_region_rate: invalid value " ++ Text.quote text
  match Decimal.ofString text with
  | .ok r => if r.sign < 0 || (Decimal.ofInt 1).lt r then .error refusal else .ok r
  | .error _ => .error refusal

/-- The seat policy the settings describe, on top of the default one, with the written
seats and ranges visited in the orders given. Written maps have no order of their own:
each order of their entries is one the service may take. -/
def quotaVisiting (a : AdmissionSettings) (seats : List (String × Int))
    (ranges : List (String × RangeSettings)) : Except String QuotaConfig := do
  let q := QuotaConfig.default
  let q := if a.totalSeats > 0 then { q with totalSeats := a.totalSeats } else q
  let q ← applySeats seats q
  let q ← if a.multiplier.isEmpty then pure q
    else pure { q with multiplier := ← readMultiplier a.multiplier }
  let q ← if a.otherRegionRate.isEmpty then pure q
    else pure { q with otherRegionRate := ← readRate a.otherRegionRate }
  applyRanges ranges q

/-- The seat policy the settings describe, its written maps visited in key order. -/
def quota (a : AdmissionSettings) : Except String QuotaConfig :=
  a.quotaVisiting (inKeyOrder (a.seats.getD [])) (inKeyOrder (a.ranges.getD []))

/-- Examination-number bases from written entries, visited in the order given: the
defaults when none are written. -/
def basesVisiting (written : List (String × Int)) : Except String (List (String × Int)) :=
  if written.isEmpty then .ok ExamNumber.defaultBases
  else writeKeyed "admission.examination_number_base: " (fun _ base _ => pure base) written []

/-- The examination-number bases, written entries visited in key order. -/
def examinationNumberBases (a : AdmissionSettings) : Except String (List (String × Int)) :=
  basesVisiting (inKeyOrder (a.examinationNumbers.getD []))

/-- Whether a school lies outside the home region: its location, trimmed, does not
start with the home region. With no home region nobody is from elsewhere. -/
def isOtherRegion (homeRegion schoolLocation : String) : Bool :=
  if homeRegion.isEmpty then false
  else !Text.startsWith (Text.trimSpace schoolLocation) homeRegion

open Decoder in
def periodDecoder : Decoder PeriodSettings :=
  record "PeriodConfig" "config.PeriodConfig" [
    .of "Start" (·.start) (fun s v => { s with start := v }) (string),
    .of "End" (·.finish) (fun s v => { s with finish := v }) (string)]

open Decoder in
def rangeDecoder : Decoder RangeSettings :=
  record "RangeConfig" "config.RangeConfig" [
    .of "DepthInterview" (fun s => (s.depthInterview, s.spareDepthInterview))
      (fun s v => { s with depthInterview := v.1, spareDepthInterview := v.2 })
      (sparedNullableList (int 64 "int64") 0 "[]int64"),
    .of "NCS" (fun s => (s.ncs, s.spareNcs)) (fun s v => { s with ncs := v.1, spareNcs := v.2 })
      (sparedNullableList (int 64 "int64") 0 "[]int64"),
    .of "CodingTest" (fun s => (s.codingTest, s.spareCodingTest))
      (fun s v => { s with codingTest := v.1, spareCodingTest := v.2 })
      (sparedNullableList (int 64 "int64") 0 "[]int64")]

open Decoder in
/-- Reads admission settings by field names, without regard to case. -/
def decoder : Decoder AdmissionSettings :=
  record "AdmissionConfig" "config.AdmissionConfig" [
    .of "SchoolName" (·.schoolName) (fun s v => { s with schoolName := v }) (string),
    .of "HomeRegion" (·.homeRegion) (fun s v => { s with homeRegion := v }) (string),
    .of "ApplicationPeriod" (·.applicationPeriod) (fun s v => { s with applicationPeriod := v })
      periodDecoder,
    .of "TotalSeats" (·.totalSeats) (fun s v => { s with totalSeats := v }) (int 64 "int"),
    .of "Seats" (·.seats) (fun s v => { s with seats := v })
      (nullableMap (int 64 "int") 0 "map[string]int"),
    .of "Multiplier" (·.multiplier) (fun s v => { s with multiplier := v }) (string),
    .of "OtherRegionRate" (·.otherRegionRate) (fun s v => { s with otherRegionRate := v }) (string),
    .of "Ranges" (·.ranges) (fun s v => { s with ranges := v })
      (nullableMap rangeDecoder {} "map[string]config.RangeConfig"),
    .of "ExaminationNumbers" (·.examinationNumbers) (fun s v => { s with examinationNumbers := v })
      (nullableMap (int 64 "int64") 0 "map[string]int64"),
    .of "LockTTL" (·.lockTTL) (fun s v => { s with lockTTL := v }) (int 64 "int"),
    .of "ResultsIndex" (·.resultsIndex) (fun s v => { s with resultsIndex := v }) (string)]

end AdmissionSettings

namespace QuotaConfig

open Decoder in
def rangeDecoder : Decoder ScoreRange :=
  record "ScoreRange" "admission.ScoreRange" [
    .of "min" (·.min) (fun s v => { s with min := v }) decimal,
    .of "max" (·.max) (fun s v => { s with max := v }) decimal]

open Decoder in
def rangesDecoder : Decoder CategoryRanges :=
  record "CategoryRanges" "admission.CategoryRanges" [
    .of "depthInterview" (·.depthInterview) (fun s v => { s with depthInterview := v }) rangeDecoder,
    .of "ncs" (·.ncs) (fun s v => { s with ncs := v }) rangeDecoder,
    .of "codingTest" (·.codingTest) (fun s v => { s with codingTest := v })
      (option rangeDecoder ⟨Decimal.zero, Decimal.zero⟩)]

open Decoder in
/-- Reads a seat policy as it stands, with no defaults and no checks. -/
def decoder : Decoder QuotaConfig :=
  record "QuotaConfig" "admission.QuotaConfig" [
    .of "totalSeats" (·.totalSeats) (fun s v => { s with totalSeats := v }) (int 64 "int"),
    .of "seats" (·.seats) (fun s v => { s with seats := v })
      (map (int 64 "int") 0 "map[models.Category]int"),
    .of "multiplier" (·.multiplier) (fun s v => { s with multiplier := v }) decimal,
    .of "otherRegionRate" (·.otherRegionRate) (fun s v => { s with otherRegionRate := v }) decimal,
    .of "ranges" (·.ranges) (fun s v => { s with ranges := v })
      (map rangesDecoder ⟨⟨Decimal.zero, Decimal.zero⟩, ⟨Decimal.zero, Decimal.zero⟩, none⟩
        "map[models.Category]admission.CategoryRanges")]

def rangeJson (r : ScoreRange) : Json := .obj [("min", .str r.min.toString), ("max", .str r.max.toString)]

/-- The ranges of a category as JSON; no coding-test member when there is none. -/
def rangesJson (r : CategoryRanges) : Json :=
  .obj ([("depthInterview", rangeJson r.depthInterview), ("ncs", rangeJson r.ncs)] ++
    match r.codingTest with
    | some c => [("codingTest", rangeJson c)]
    | none => [])

end QuotaConfig

end Admissions
