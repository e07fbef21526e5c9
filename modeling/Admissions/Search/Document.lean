import Admissions.Application
import Admissions.Score.FirstRound
import Admissions.Time.Text
import Admissions.Json.Basic

namespace Admissions

/-- An application's entry in the results index. -/
structure ResultDocument where
  applicationId : String
  examinationNumber : Int
  name : String
  category : String
  categoryLabel : String
  status : String
  otherRegion : Bool
  schoolLocation : String
  firstRoundScore : String
  totalScore : String
  indexedAt : String
  deriving Repr, Inhabited

namespace ResultDocument

/-- The document of a form, indexed at an instant (written in UTC, to the second). -/
def ofApplication (a : Application) (now : Instant) : ResultDocument where
  applicationId := a.id
  examinationNumber := a.examNo
  name := a.applicant.name
  category := a.category
  categoryLabel := Category.labelOf a.category
  status := a.status
  otherRegion := a.otherRegion
  schoolLocation := a.education.schoolLocation
  firstRoundScore := (a.score.firstRound.map Score.format).getD ""
  totalScore := (a.score.total.map Score.format).getD ""
  indexedAt := now.toUTC.format

/-- Members with an empty text are left out. -/
def textIf (k v : String) : List (String × Json) := if v.isEmpty then [] else [(k, .str v)]

def toJson (d : ResultDocument) : Json :=
  .obj ([("applicationId", .str d.applicationId)] ++
    (if d.examinationNumber = 0 then [] else [("examinationNumber", .ofInt d.examinationNumber)]) ++
    [("name", .str d.name), ("category", .str d.category), ("categoryLabel", .str d.categoryLabel),
      ("status", .str d.status), ("otherRegion", .bool d.otherRegion)] ++
    textIf "schoolLocation" d.schoolLocation ++ textIf "firstRoundScore" d.firstRoundScore ++
    textIf "totalScore" d.totalScore ++ [("indexedAt", .str d.indexedAt)])

end ResultDocument

/-- A search of the results index. -/
structure ResultsQuery where
  category : String := ""
  status : String := ""
  name : String := ""
  fromIndex : Int := 0
  size : Int := 0
  deriving Repr, Inhabited

namespace ResultsQuery

def body (q : ResultsQuery) : Json :=
  let filters := (if q.category.isEmpty then [] else
      [Json.obj [("term", .obj [("category", .str q.category)])]]) ++
    (if q.status.isEmpty then [] else [Json.obj [("term", .obj [("status", .str q.status)])]])
  let must := if q.name.isEmpty then [] else [Json.obj [("match", .obj [("name", .str q.name)])]]
  .obj [("from", .ofInt q.fromIndex), ("size", .ofInt (if q.size ≤ 0 then 100 else q.size)),
    ("query", .obj [("bool", .obj [("must", .arr must), ("filter", .arr filters)])]),
    ("sort", .arr [.obj [("category", .str "asc")], .obj [("examinationNumber", .str "asc")]])]

end ResultsQuery

end Admissions
