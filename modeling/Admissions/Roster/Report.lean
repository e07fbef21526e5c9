import Admissions.Roster
import Admissions.Selection.Report
import Admissions.Application.Codec
import Admissions.Failure

namespace Admissions

def SheetTally.toJson (t : SheetTally) : Json :=
  .obj [("rows", .ofNat t.rows), ("present", .ofNat t.present), ("noShow", .ofNat t.noShow)]

/-- A refusal as JSON: its code and text, and for a refusal of the admission rules
its full report. -/
def RosterError.toJson : RosterError → Json
  | .engine e => .obj (Failure.admissionReport e)
  | e => .obj [("error", .str e.code), ("message", .str e.message)]

namespace Roster

def rowJson (a : Application) : Json :=
  .obj [("id", .str a.id), ("category", .str a.category),
    ("examinationNumber", Json.ofOption Json.ofInt a.examinationNumber),
    ("otherRegion", .bool a.otherRegion), ("status", .str a.status),
    ("firstRoundScore", Application.scoreJson a.score.firstRound),
    ("totalScore", Application.scoreJson a.score.total)]

def toJson (r : Roster) : Json := .arr (r.rows.map rowJson)

end Roster

def RosterOutcome.toJson : RosterOutcome → Json
  | .accepted a =>
    .obj [("examinationNumber", Json.ofOption Json.ofInt a.examinationNumber),
      ("category", .str a.category),
      ("firstRoundScore", .str (Score.format (a.score.firstRound.getD Decimal.zero))),
      ("score", Application.ScoreBreakdown.toJson a.score)]
  | .moved s => .str s
  | .selected r candidates => .obj (r.summary candidates)
  | .imported t => t.toJson

/-- A step's answer beside the roster after it. -/
def Roster.entryJson (e : Except RosterError RosterOutcome × Roster) : Json :=
  .obj [(match e.1 with
      | .ok o => ("result", o.toJson)
      | .error err => ("error", err.toJson)),
    ("state", e.2.toJson)]

/-- A step as written in JSON: every field any kind of step may use. -/
structure StepFields where
  op : String := ""
  submission : Submission := {}
  target : String := ""
  sheet : Grid := []
  deriving Inhabited

def StepFields.step (f : StepFields) : RosterStep :=
  match f.op with
  | "submit" => .submit f.submission
  | "transition" => .transition f.submission.id f.target
  | "first_pass" => .firstPass
  | "import_sheet" => .importSheet f.sheet
  | "second_pass" => .secondPass
  | other => .unknown other

namespace StepFields

open Decoder in
def decoder : Decoder StepFields :=
  record "cycleOp" "main.cycleOp" [
    .of "op" (·.op) (fun s v => { s with op := v }) (string),
    .of "id" (·.submission.id) (fun s v => { s with submission.id := v }) (string),
    .of "type" (·.submission.formType) (fun s v => { s with submission.formType := v })
      (string "models.FormType"),
    .of "applicant" (·.submission.applicant) (fun s v => { s with submission.applicant := v })
      Application.applicantDecoder,
    .of "education" (·.submission.education) (fun s v => { s with submission.education := v })
      Application.educationDecoder,
    .of "grade" (·.submission.grade) (fun s v => { s with submission.grade := v })
      Application.gradeDecoder,
    .of "preassigned" (·.submission.preassigned) (fun s v => { s with submission.preassigned := v })
      (option (int 64 "int64") 0),
    .of "to" (·.target) (fun s v => { s with target := v }) (string "models.FormStatus"),
    .of "sheet" (·.sheet) (fun s v => { s with sheet := v }) Grid.decoder]

end StepFields

end Admissions
