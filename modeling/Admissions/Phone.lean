namespace Admissions

namespace Phone

def isDigit (c : Char) : Bool := '0' ≤ c && c ≤ '9'

/-- Drops one leading hyphen, if there is one. -/
def dropHyphen : List Char → List Char
  | '-' :: rest => rest
  | cs => cs

def isLastGroup (cs : List Char) : Bool := cs.length = 4 && cs.all isDigit

/-- A middle group of `n` digits, an optional hyphen, and the last group. -/
def middleThenLast (n : Nat) (cs : List Char) : Bool :=
  (cs.take n).length = n && (cs.take n).all isDigit && isLastGroup (dropHyphen (cs.drop n))

def isMobile (s : String) : Bool :=
  match s.toList with
  | '0' :: '1' :: c :: rest =>
    ['0', '1', '6', '7', '8', '9'].contains c &&
      (let body := dropHyphen rest
       middleThenLast 3 body || middleThenLast 4 body)
  | _ => false

/-- The E.164 form of a number: `+` and its digits, a leading `0` becoming `82`;
a number written with `+` keeps its digits as they are. -/
def toE164 (s : String) : String :=
  let cs := s.toList
  let digits := cs.filter isDigit
  if cs.head? = some '+' then String.ofList ('+' :: digits)
  else
    match digits with
    | '0' :: rest => "+82" ++ String.ofList rest
    | _ => String.ofList ('+' :: digits)

end Phone

end Admissions
