import Admissions.Application
import Admissions.Status

namespace Admissions

/-- A message template. -/
structure Template where
  subject : String
  body : String
  deriving Repr, Inhabited

namespace Template

/-- The template of a result status, if it has one. -/
def forStatus : Status → Option Template
  | .firstPassed => some ⟨"[{{schoolName}}] 1차 전형 합격 안내",
      "{{name}}님(수험번호 {{examinationNumber}}, {{category}}), {{schoolName}} 1차 전형에 합격하셨습니다. 2차 전형 일정을 확인해 주세요."⟩
  | .firstFailed => some ⟨"[{{schoolName}}] 1차 전형 결과 안내",
      "{{name}}님(수험번호 {{examinationNumber}}), 아쉽게도 {{schoolName}} 1차 전형에 합격하지 못하셨습니다."⟩
  | .noShow => some ⟨"[{{schoolName}}] 2차 전형 결과 안내",
      "{{name}}님(수험번호 {{examinationNumber}}), 2차 전형에 응시하지 않아 불합격 처리되었습니다."⟩
  | .secondPassed => some ⟨"[{{schoolName}}] 최종 합격 안내",
      "{{name}}님(수험번호 {{examinationNumber}}, {{category}}), {{schoolName}}에 최종 합격하셨습니다. 축하드립니다."⟩
  | .secondFailed => some ⟨"[{{schoolName}}] 최종 결과 안내",
      "{{name}}님(수험번호 {{examinationNumber}}), 아쉽게도 {{schoolName}}에 최종 합격하지 못하셨습니다."⟩
  | _ => none

/-- The template of a status code; none for a code without one. -/
def forCode (code : String) : Option Template := (Status.ofCode? code).bind forStatus

/-- Whether the pattern of a pair is not empty and stands at the head of a text. -/
def occursAt (text : List Char) (pair : List Char × List Char) : Bool :=
  !pair.1.isEmpty && pair.1.isPrefixOf text

/-- Replaces, scanning from the left, each occurrence of a pattern by its
replacement; at one place the first pattern in the list that occurs wins. -/
def replaceAll (pairs : List (List Char × List Char)) : List Char → List Char
  | [] => []
  | c :: cs =>
    match pairs.find? (occursAt (c :: cs)) with
    | some (pat, rep) => rep ++ replaceAll pairs (cs.drop (pat.length - 1))
    | none => c :: replaceAll pairs cs
termination_by cs => cs.length
decreasing_by all_goals simp only [List.length_drop, List.length_cons]; omega

/-- The placeholder of a key, `{{key}}`. -/
def placeholder (key : String) : String := "\x7b\x7b" ++ key ++ "\x7d\x7d"

def replacement (entry : String × String) : List Char × List Char :=
  ((placeholder entry.1).toList, entry.2.toList)

/-- Fills a text with values taken in the given order, as a replacer built from them in
that order does: at one place the first value whose placeholder occurs wins. -/
def fillInOrder (entries : List (String × String)) (text : String) : String :=
  String.ofList (replaceAll (entries.map replacement) text.toList)

/-- Fills a template: each `{{key}}` with a value is replaced by it, in one pass.
Keys are tried in key order where two could match at one place. -/
def render (text : String) (values : List (String × String)) : String :=
  fillInOrder (values.mergeSort fun a b => decide (a.1 ≤ b.1)) text

def values (schoolName : String) (a : Application) : List (String × String) :=
  [("schoolName", schoolName), ("name", a.applicant.name),
    ("examinationNumber", toString a.examNo), ("category", Category.labelOf a.category)]

end Template

end Admissions
