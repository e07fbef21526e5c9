import Admissions.Pattern.Parse

namespace Admissions

/-- What a step that reads a character asks of it. -/
inductive CharTest where
  | exact (v : Nat)
  | oneOf (vs : List Nat)
  | inSet (set : CharRanges)
  deriving Inhabited

namespace CharTest

def passes : CharTest → Char → Bool
  | .exact v, c => c.toNat == v
  | .oneOf vs, c => vs.contains c.toNat
  | .inSet set, c => set.contains c.toNat

end CharTest

/-- A step of a compiled pattern; the numbers are the places of the steps that
follow in the program. -/
inductive MatchStep where
  | read (test : CharTest) (next : Nat)
  | fork (a b : Nat)
  | check (a : Anchor) (next : Nat)
  | fail
  | accept
  deriving Inhabited

/-- A compiled pattern: its program and the step it starts at. -/
structure Pattern where
  program : Array MatchStep
  start : Nat
  deriving Inhabited

namespace Pattern

def runeTest (fold : Bool) (r : Nat) : CharTest :=
  if fold then .oneOf (CharRanges.orbit r) else .exact r

/-- Adds a step to a program: the program and the step's place. The place is
read before the step is added, so the program is never copied. -/
def add (prog : Array MatchStep) (s : MatchStep) : Array MatchStep × Nat :=
  let place := prog.size
  (prog.push s, place)

/-- Adds the steps reading some code points in order, the last going on to `next`:
the program and the first step's place. -/
def emitRunes (fold : Bool) : List Nat → Nat → Array MatchStep → Array MatchStep × Nat
  | [], next, prog => (prog, next)
  | r :: rest, next, prog =>
    let (prog, after) := emitRunes fold rest next prog
    add prog (.read (runeTest fold r) after)

mutual

/-- Adds the steps of a tree, going on to `next` once it has matched: the program and
the place where the tree's steps begin. -/
def emit : Regex → Nat → Array MatchStep → Array MatchStep × Nat
  | .noMatch, _, prog => add prog .fail
  | .emptyMatch, next, prog => (prog, next)
  | .literal runes fold, next, prog => emitRunes fold runes next prog
  | .charClass set, next, prog => add prog (.read (.inSet set) next)
  | .anyCharNotNL, next, prog => add prog (.read (.inSet (CharRanges.single 10).complement) next)
  | .anyChar, next, prog => add prog (.read (.inSet CharRanges.all) next)
  | .anchor a, next, prog => add prog (.check a next)
  | .capture sub, next, prog => emit sub next prog
  | .star _ sub, next, prog =>
    let (prog, loop) := add prog .fail
    let (prog, body) := emit sub loop prog
    (prog.setIfInBounds loop (.fork body next), loop)
  | .plus _ sub, next, prog =>
    let (prog, loop) := add prog .fail
    let (prog, body) := emit sub loop prog
    (prog.setIfInBounds loop (.fork body next), body)
  | .quest _ sub, next, prog =>
    let (prog, body) := emit sub next prog
    add prog (.fork body next)
  | .counted least most _ sub, next, prog =>
    let tail : Array MatchStep × Nat :=
      match most with
      | none =>
        let (prog, loop) := add prog .fail
        let (prog, body) := emit sub loop prog
        (prog.setIfInBounds loop (.fork body next), loop)
      | some m =>
        Nat.repeat (fun (prog, after) =>
          let (prog, body) := emit sub after prog
          add prog (.fork body next)) (m - least) (prog, next)
    Nat.repeat (fun (prog, after) => emit sub after prog) least tail
  | .concat subs, next, prog => emitSeq subs next prog
  | .alternate subs, next, prog => emitAlt subs next prog

/-- Adds the steps of trees read one after another. -/
def emitSeq : List Regex → Nat → Array MatchStep → Array MatchStep × Nat
  | [], next, prog => (prog, next)
  | s :: rest, next, prog =>
    let (prog, after) := emitSeq rest next prog
    emit s after prog

def emitAlt : List Regex → Nat → Array MatchStep → Array MatchStep × Nat
  | [], _, prog => add prog .fail
  | [s], next, prog => emit s next prog
  | s :: rest, next, prog =>
    let (prog, a) := emit s next prog
    let (prog, b) := emitAlt rest next prog
    add prog (.fork a b)

end

/-- Compiles a parse tree; the accepting step comes first. -/
def compile (re : Regex) : Pattern :=
  let (program, start) := emit re 0 #[.accept]
  ⟨program, start⟩

/-- Reads a pattern, or says why it is not one. -/
def parse (s : String) : Except String Pattern := (Regex.parse s).map compile

/-- Follows the steps that read nothing from the steps in `todo`, at a place: every
step reached is marked with `stamp` and visited once. The result is the marks, the
steps reached that read a character, and whether the accepting step was reached. -/
def close (prog : Array MatchStep) (place : Place) (stamp : Nat) :
    Nat → List Nat → Array Nat → List Nat → Array Nat × List Nat × Bool
  | 0, _, marks, reads => (marks, reads, false)
  | _ + 1, [], marks, reads => (marks, reads, false)
  | fuel + 1, pc :: todo, marks, reads =>
    if marks[pc]? == some stamp then close prog place stamp fuel todo marks reads
    else
      let marks := marks.setIfInBounds pc stamp
      match prog[pc]? with
      | some (.read _ _) => close prog place stamp fuel todo marks (pc :: reads)
      | some (.fork a b) => close prog place stamp fuel (a :: b :: todo) marks reads
      | some (.check a next) =>
        if a.holds place then close prog place stamp fuel (next :: todo) marks reads
        else close prog place stamp fuel todo marks reads
      | some .accept => (marks, reads, true)
      | _ => close prog place stamp fuel todo marks reads

/-- The steps that the reading steps in `reads` go on to after reading `c`. -/
def advance (prog : Array MatchStep) (c : Char) (reads : List Nat) : List Nat :=
  reads.filterMap fun (pc : Nat) =>
    match (prog[pc]? : Option MatchStep) with
    | some (.read test next) => if test.passes c then some next else none
    | _ => none

/-- Searches the text from a place on: `pending` are the steps the ways begun
earlier have reached, `before` the character before the place, and `stamp` marks
the steps visited at this place. -/
def run (p : Pattern) (stamp : Nat) (before : Option Char) (pending : List Nat)
    (marks : Array Nat) : List Char → Bool
  | [] =>
    let todo := p.start :: pending
    (close p.program ⟨before, none⟩ stamp (2 * p.program.size + todo.length + 1) todo marks []).2.2
  | c :: rest =>
    let todo := p.start :: pending
    let (marks, reads, found) :=
      close p.program ⟨before, some c⟩ stamp (2 * p.program.size + todo.length + 1) todo marks []
    found || run p (stamp + 1) (some c) (advance p.program c reads) marks rest

def find (p : Pattern) (s : String) : Bool :=
  run p 1 none [] (Array.replicate p.program.size 0) s.toList

end Pattern

end Admissions
