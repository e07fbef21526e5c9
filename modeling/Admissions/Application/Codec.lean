import Admissions.Application
import Admissions.Json.Decode
import Admissions.Time.Text
import Admissions.Score.SecondRound

namespace Admissions

namespace Decoder

/-- A time in RFC 3339 inside a JSON string; `null` keeps the old time. -/
def instant : Decoder Instant := fun _ j old =>
  match j with
  | .null => pure old
  | .str _ =>
    let raw := (rawText j).toList
    match Instant.parse (String.ofList ((raw.drop 1).dropLast)) with
    | .ok t => pure t
    | .error e => Decoding.refuse e.message
  | _ => Decoding.refuse "Time.UnmarshalJSON: input is not a JSON string"

end Decoder

namespace Application

open Decoder in
def attendanceDecoder : Decoder Attendance :=
  record "Attendance" "models.Attendance" [
    .of "absence" (·.absence) (fun s v => { s with absence := v }) (int 64 "int"),
    .of "lateness" (·.lateness) (fun s v => { s with lateness := v }) (int 64 "int"),
    .of "earlyLeave" (·.earlyLeave) (fun s v => { s with earlyLeave := v }) (int 64 "int"),
    .of "classAbsence" (·.classAbsence) (fun s v => { s with classAbsence := v }) (int 64 "int")]

open Decoder in
def subjectDecoder : Decoder Subject :=
  record "Subject" "models.Subject" [
    .of "name" (·.name) (fun s v => { s with name := v }) (string),
    .of "grade" (·.grade) (fun s v => { s with grade := v }) (int 64 "int"),
    .of "semester" (·.semester) (fun s v => { s with semester := v }) (int 64 "int"),
    .of "achievementLevel" (·.achievementLevel) (fun s v => { s with achievementLevel := v })
      (string "models.AchievementLevel")]

open Decoder in
def gradeDecoder : Decoder Grade :=
  record "Grade" "models.Grade" [
    .of "subjects" (fun s => (s.subjects, s.spareSubjects))
      (fun s v => { s with subjects := v.1, spareSubjects := v.2 })
      (sparedNullableList subjectDecoder {} "[]models.Subject"),
    .of "attendance" (·.attendance) (fun s v => { s with attendance := v })
      (fixed 3 (option attendanceDecoder {}) none "[3]*models.Attendance"),
    .of "volunteerHours" (·.volunteerHours) (fun s v => { s with volunteerHours := v })
      (fixed 3 (option (int 64 "int") 0) none "[3]*int"),
    .of "certificates" (fun s => (s.certificates, s.spareCertificates))
      (fun s v => { s with certificates := v.1, spareCertificates := v.2 })
      (sparedList (string "models.Certificate") "" "[]models.Certificate")]

open Decoder in
def scoreDecoder : Decoder ScoreBreakdown :=
  record "ScoreBreakdown" "models.ScoreBreakdown" [
    .of "subjectGradeScore" (·.subjectGrade) (fun s v => { s with subjectGrade := v }) decimal,
    .of "attendanceScore" (·.attendance) (fun s v => { s with attendance := v }) decimal,
    .of "volunteerScore" (·.volunteer) (fun s v => { s with volunteer := v }) decimal,
    .of "bonusScore" (·.bonus) (fun s v => { s with bonus := v }) decimal,
    .of "depthInterviewScore" (·.depthInterview) (fun s v => { s with depthInterview := v })
      nullDecimal,
    .of "ncsScore" (·.ncs) (fun s v => { s with ncs := v }) nullDecimal,
    .of "codingTestScore" (·.codingTest) (fun s v => { s with codingTest := v }) nullDecimal,
    .of "firstRoundScore" (·.firstRound) (fun s v => { s with firstRound := v }) nullDecimal,
    .of "totalScore" (·.total) (fun s v => { s with total := v }) nullDecimal]

open Decoder in
def applicantDecoder : Decoder Applicant :=
  record "Applicant" "models.Applicant" [
    .of "name" (·.name) (fun s v => { s with name := v }) (string),
    .of "phoneNumber" (·.phoneNumber) (fun s v => { s with phoneNumber := v }) (string),
    .of "email" (·.email) (fun s v => { s with email := v }) (string)]

open Decoder in
def educationDecoder : Decoder Education :=
  record "Education" "models.Education" [
    .of "graduationType" (·.graduationType) (fun s v => { s with graduationType := v })
      (string "models.GraduationType"),
    .of "schoolName" (·.schoolName) (fun s v => { s with schoolName := v }) (string),
    .of "schoolLocation" (·.schoolLocation) (fun s v => { s with schoolLocation := v }) (string)]

open Decoder in
def decoder : Decoder Application :=
  record "Application" "models.Application" [
    .of "id" (·.id) (fun s v => { s with id := v }) (string),
    .of "userId" (·.userId) (fun s v => { s with userId := v }) (string),
    .of "type" (·.formType) (fun s v => { s with formType := v }) (string "models.FormType"),
    .of "category" (·.category) (fun s v => { s with category := v }) (string "models.Category"),
    .of "applicant" (·.applicant) (fun s v => { s with applicant := v }) applicantDecoder,
    .of "education" (·.education) (fun s v => { s with education := v }) educationDecoder,
    .of "otherRegion" (·.otherRegion) (fun s v => { s with otherRegion := v }) bool,
    .of "examinationNumber" (·.examinationNumber) (fun s v => { s with examinationNumber := v })
      (option (int 64 "int64") 0),
    .of "status" (·.status) (fun s v => { s with status := v }) (string "models.FormStatus"),
    .of "grade" (·.grade) (fun s v => { s with grade := v }) gradeDecoder,
    .of "score" (·.score) (fun s v => { s with score := v }) scoreDecoder,
    .of "submittedAt" (·.submittedAt) (fun s v => { s with submittedAt := v }) instant]

/-- A decimal as JSON: its plain text in a string. -/
def decimalJson (d : Decimal) : Json := .str d.toString

def scoreJson (d : Option Decimal) : Json := Json.ofOption decimalJson d

def Attendance.toJson (a : Attendance) : Json :=
  .obj [("absence", .ofInt a.absence), ("lateness", .ofInt a.lateness),
    ("earlyLeave", .ofInt a.earlyLeave), ("classAbsence", .ofInt a.classAbsence)]

def Subject.toJson (s : Subject) : Json :=
  .obj [("name", .str s.name), ("grade", .ofInt s.grade), ("semester", .ofInt s.semester),
    ("achievementLevel", .str s.achievementLevel)]

def Grade.toJson (g : Grade) : Json :=
  .obj ([("subjects", match g.subjects with
      | some ss => .arr (ss.map Subject.toJson)
      | none => .null),
    ("attendance", .arr (g.attendance.map (Json.ofOption Attendance.toJson))),
    ("volunteerHours", .arr (g.volunteerHours.map (Json.ofOption Json.ofInt)))] ++
    (if g.certificates.isEmpty then [] else [("certificates", Json.ofStrings g.certificates)]))

def ScoreBreakdown.toJson (s : ScoreBreakdown) : Json :=
  .obj [("subjectGradeScore", decimalJson s.subjectGrade),
    ("attendanceScore", decimalJson s.attendance),
    ("volunteerScore", decimalJson s.volunteer),
    ("bonusScore", decimalJson s.bonus),
    ("depthInterviewScore", scoreJson s.depthInterview),
    ("ncsScore", scoreJson s.ncs),
    ("codingTestScore", scoreJson s.codingTest),
    ("firstRoundScore", scoreJson s.firstRound),
    ("totalScore", scoreJson s.total)]

/-- Members whose value is the empty text are left out. -/
def unlessEmpty (k v : String) : List (String × Json) := if v.isEmpty then [] else [(k, .str v)]

/-- An applicant as JSON; no e-mail member when it is empty. -/
def Applicant.toJson (a : Applicant) : Json :=
  .obj ([("name", .str a.name), ("phoneNumber", .str a.phoneNumber)] ++ unlessEmpty "email" a.email)

/-- A school as JSON; no name or location member when it is empty. -/
def Education.toJson (e : Education) : Json :=
  .obj ([("graduationType", .str e.graduationType)] ++ unlessEmpty "schoolName" e.schoolName ++
    unlessEmpty "schoolLocation" e.schoolLocation)

/-- An application form as JSON, with its submission time already as text. -/
def toJsonWith (a : Application) (submitted : String) : Json :=
  .obj ([("id", .str a.id), ("userId", .str a.userId), ("type", .str a.formType),
    ("category", .str a.category),
    ("applicant", Applicant.toJson a.applicant), ("education", Education.toJson a.education),
    ("otherRegion", .bool a.otherRegion)] ++
    (match a.examinationNumber with
      | some n => [("examinationNumber", Json.ofInt n)]
      | none => []) ++
    [("status", .str a.status), ("grade", Grade.toJson a.grade),
      ("score", ScoreBreakdown.toJson a.score), ("submittedAt", .str submitted)])

/-- An application form as JSON; refused when its submission time has no RFC 3339
text (see `Instant.strictText`). -/
def encode (a : Application) : Except String Json :=
  match a.submittedAt.strictText with
  | .ok t => .ok (a.toJsonWith t)
  | .error e => .error ("json: error calling MarshalJSON for type *time.Time: " ++ e)

/-- Application forms as a JSON array, refused at the first that cannot be written. -/
def encodeAll (apps : List Application) : Except String Json :=
  (apps.mapM encode).map Json.arr

end Application

open Decoder in
/-- Reads second-round scores; members match the field names without regard to case. -/
def SecondRoundInput.decoder : Decoder SecondRoundInput :=
  record "SecondRoundInput" "admission.SecondRoundInput" [
    .of "DepthInterview" (·.depthInterview) (fun s v => { s with depthInterview := v }) decimal,
    .of "NCS" (·.ncs) (fun s v => { s with ncs := v }) decimal,
    .of "CodingTest" (·.codingTest) (fun s v => { s with codingTest := v }) nullDecimal]

end Admissions
