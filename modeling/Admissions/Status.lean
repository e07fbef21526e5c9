namespace Admissions

/-- Where an application form stands. -/
inductive Status where
  | submitted
  | rejected
  | received
  | firstPassed
  | firstFailed
  | noShow
  | secondPassed
  | secondFailed
  | entered
  deriving DecidableEq, Repr, Inhabited

namespace Status

def all : List Status :=
  [.submitted, .rejected, .received, .firstPassed, .firstFailed, .noShow, .secondPassed,
    .secondFailed, .entered]

def code : Status → String
  | .submitted => "SUBMITTED"
  | .rejected => "REJECTED"
  | .received => "RECEIVED"
  | .firstPassed => "FIRST_PASSED"
  | .firstFailed => "FIRST_FAILED"
  | .noShow => "NO_SHOW"
  | .secondPassed => "SECOND_PASSED"
  | .secondFailed => "SECOND_FAILED"
  | .entered => "ENTERED"

def ofCode? (s : String) : Option Status := all.find? (·.code == s)

def successors : Status → List Status
  | .submitted => [.received, .rejected]
  | .rejected => [.submitted]
  | .received => [.firstPassed, .firstFailed, .rejected]
  | .firstPassed => [.secondPassed, .secondFailed, .noShow]
  | .secondPassed => [.entered]
  | _ => []

def canMove (s t : Status) : Bool := (successors s).contains t

/-- The same rule on stored codes: a code that names no status moves nowhere
and is reached from nowhere. -/
def canTransition (source target : String) : Bool :=
  match ofCode? source, ofCode? target with
  | some s, some t => canMove s t
  | _, _ => false

end Status

end Admissions
