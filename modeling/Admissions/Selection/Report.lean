import Admissions.Selection
import Admissions.Json.Basic

namespace Admissions

namespace CategorySelection

def toJson (c : CategorySelection) : Json :=
  .obj ([("category", .str c.category.code), ("candidates", .ofNat c.candidates),
    ("target", .ofInt c.target), ("regionalCap", .ofInt c.regionalCap),
    ("admitted", .ofNat c.admitted), ("otherRegionAdmitted", .ofNat c.otherRegionAdmitted),
    ("passed", Json.ofStrings c.passed)] ++
    (if c.deferred.isEmpty then [] else [("deferred", Json.ofStrings c.deferred)]) ++
    (if c.failed.isEmpty then [] else [("failed", Json.ofStrings c.failed)]))

def countsJson (c : CategorySelection) : Json :=
  .obj [("category", .str c.category.code), ("label", .str c.category.label),
    ("candidates", .ofNat c.candidates), ("target", .ofInt c.target),
    ("regionalCap", .ofInt c.regionalCap), ("admitted", .ofNat c.admitted),
    ("otherRegionAdmitted", .ofNat c.otherRegionAdmitted),
    ("deferred", .ofNat c.deferred.length), ("failed", .ofNat c.failed.length)]

end CategorySelection

namespace SelectionResult

/-- The fields that report a selection over some candidates: each category, the
counts, the ids that passed and failed, and how many candidates were neither. -/
def summary (r : SelectionResult) (candidates : Nat) : List (String × Json) :=
  let failed := r.failedIds
  [("categories", .arr (r.categories.map CategorySelection.toJson)),
    ("counts", .arr (r.categories.map CategorySelection.countsJson)),
    ("passedIds", Json.ofStrings r.passedIds), ("failedIds", Json.ofStrings failed),
    ("totalPassed", .ofNat r.totalPassed), ("candidates", .ofNat candidates),
    ("unselected", .ofInt ((candidates : Int) - r.totalPassed - failed.length))]

end SelectionResult

end Admissions
