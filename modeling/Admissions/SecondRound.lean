import Admissions.Sheet.Parse

namespace Admissions

namespace SecondRound

/-- The first record that breaks the pairing's rules for records: it is not a
first-round passer, has no number, or shares its number with an earlier one. -/
def recordFault (records : List Application) : Option AdmissionError :=
  let rec go (seen : List Int) : List Application → Option AdmissionError
    | [] => none
    | a :: rest =>
      if a.status ≠ Status.firstPassed.code then some (.notFirstPassed a.id a.status)
      else if a.examinationNumber.isNone then some (.numberMismatch (.unnumbered a.id))
      else if seen.contains a.examNo then some (.numberMismatch (.heldTwice a.examNo))
      else go (a.examNo :: seen) rest
  go [] records

def holder? (records : List Application) (n : Int) : Option Application :=
  records.find? (·.examNo == n)

/-- The first row that breaks the pairing: listed twice, not a passer, or of
another category than its passer. -/
def rowFault (records : List Application) (rows : List ScoreSheetRow) : Option AdmissionError :=
  let rec go (seen : List Int) : List ScoreSheetRow → Option AdmissionError
    | [] => none
    | r :: rest =>
      if seen.contains r.examinationNumber then
        some (.numberMismatch (.listedTwice r.examinationNumber))
      else
        match holder? records r.examinationNumber with
        | none => some (.numberMismatch (.notAPasser r.examinationNumber))
        | some a =>
          if r.category ≠ a.category then
            some (.numberMismatch (.categoryDiffers r.examinationNumber a.category r.category))
          else go (r.examinationNumber :: seen) rest
  go [] rows

/-- Numbers of passers that no row lists, ascending. -/
def missingNumbers (records : List Application) (rows : List ScoreSheetRow) : List Int :=
  ((records.map (·.examNo)).filter fun n => !(rows.any (·.examinationNumber == n))).mergeSort
    (· ≤ ·)

/-- The record of a row after the second round. -/
def update (a : Application) (r : ScoreSheetRow) : Application :=
  let a := a.copy
  if r.present then { a with score := Score.secondRound a r.input }
  else { a with status := Status.noShow.code }

/-- Applies a score sheet to the first-round passers. -/
def apply (records : List Application) (rows : List ScoreSheetRow) :
    Except AdmissionError (List Application) :=
  match recordFault records with
  | some e => .error e
  | none =>
    match rowFault records rows with
    | some e => .error e
    | none =>
      let missing := missingNumbers records rows
      if !missing.isEmpty then .error (.numberMismatch (.missing missing))
      else
        let updated := rows.filterMap fun r => (holder? records r.examinationNumber).map (update · r)
        .ok (updated.mergeSort fun a b => a.examNo ≤ b.examNo)

end SecondRound

end Admissions
