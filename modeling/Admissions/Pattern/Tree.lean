import Admissions.Pattern.Class

namespace Admissions

/-- A place in a text, seen from the characters just before and just after it. -/
structure Place where
  before : Option Char
  after : Option Char

/-- A condition on a place that reads no character. -/
inductive Anchor where
  | textStart
  | textEnd
  | lineStart
  | lineEnd
  | wordBoundary
  | notWordBoundary
  deriving BEq, Repr, Inhabited

/-- A word character: an ASCII letter, digit or underscore. -/
def isWordChar (c : Char) : Bool := c.isAlphanum || c = '_'

namespace Anchor

def holds (a : Anchor) (p : Place) : Bool :=
  let word (c : Option Char) : Bool := (c.map isWordChar).getD false
  match a with
  | .textStart => p.before.isNone
  | .textEnd => p.after.isNone
  | .lineStart => p.before.isNone || p.before == some '\n'
  | .lineEnd => p.after.isNone || p.after == some '\n'
  | .wordBoundary => word p.before != word p.after
  | .notWordBoundary => word p.before == word p.after

end Anchor

/-- A node of a pattern's parse tree. A literal lists its code points; when it folds,
each stands for every code point it folds together with, and is the least of them.
A repetition may be lazy, which changes no match but keeps apart nodes that differ
only in it. -/
inductive Regex where
  | noMatch
  | emptyMatch
  | literal (runes : List Nat) (fold : Bool)
  | charClass (set : CharRanges)
  | anyCharNotNL
  | anyChar
  | anchor (a : Anchor)
  | capture (sub : Regex)
  | star (lazy : Bool) (sub : Regex)
  | plus (lazy : Bool) (sub : Regex)
  | quest (lazy : Bool) (sub : Regex)
  | counted (least : Nat) (most : Option Nat) (lazy : Bool) (sub : Regex)
  | concat (subs : List Regex)
  | alternate (subs : List Regex)
  deriving Repr, Inhabited

namespace Regex

def maxHeight : Nat := 1000

mutual

/-- The height of a tree: one for a leaf, one more than its highest child else. -/
def height : Regex → Nat
  | .capture s => height s + 1
  | .star _ s => height s + 1
  | .plus _ s => height s + 1
  | .quest _ s => height s + 1
  | .counted _ _ _ s => height s + 1
  | .concat subs => heights subs + 1
  | .alternate subs => heights subs + 1
  | _ => 1

/-- The height of the highest tree of a list; zero for none. -/
def heights : List Regex → Nat
  | [] => 0
  | s :: rest => max (height s) (heights rest)

end

/-- The largest size a tree may have: the number of steps of 40 bytes that fit in
128 MiB. -/
def maxSize : Nat := 3355443

mutual

/-- The size of a tree, an upper bound on the steps of its program: a literal
takes one per code point, a group or a loop two more than what it holds, an
option or a repetition of one or more one more, a sequence the sum of its parts,
an alternation that sum and one per choice beyond the first, and a count of `n`
to `m` copies `m` copies and one per optional copy (`1 + n` copies when it has no
most, or two more than one copy when it also has no least). Every tree takes at
least one. -/
def size : Regex → Nat
  | .literal runes _ => max 1 runes.length
  | .capture s => size s + 2
  | .star _ s => size s + 2
  | .plus _ s => size s + 1
  | .quest _ s => size s + 1
  | .counted least most _ s =>
    match most with
    | none => if least = 0 then size s + 2 else 1 + least * size s
    | some m => max 1 (m * size s + (m - least))
  | .concat subs => max 1 (sizes subs)
  | .alternate subs => max 1 (sizes subs + (subs.length - 1))
  | _ => 1

def sizes : List Regex → Nat
  | [] => 0
  | s :: rest => size s + sizes rest

end

mutual

/-- Whether the counted repetitions in a tree ask for at most `n` copies of what
they repeat: a count of at most `m` copies (its least when it has no most) divides
the budget of what it repeats by `m`, and a count of at most none asks for nothing. -/
def copiesWithin : Regex → Nat → Bool
  | .counted least most _ sub, n =>
    if most = some 0 then true
    else
      let m := most.getD least
      if m > n then false else copiesWithin sub (if m > 0 then n / m else n)
  | .capture s, n => copiesWithin s n
  | .star _ s, n => copiesWithin s n
  | .plus _ s, n => copiesWithin s n
  | .quest _ s, n => copiesWithin s n
  | .concat subs, n => allCopiesWithin subs n
  | .alternate subs, n => allCopiesWithin subs n
  | _, _ => true

/-- Whether every tree of a list asks for at most `n` copies. -/
def allCopiesWithin : List Regex → Nat → Bool
  | [], _ => true
  | s :: rest, n => copiesWithin s n && allCopiesWithin rest n

end

/-- Whether a node reads exactly one character: a one-character literal, a class or
any character. -/
def isCharLike : Regex → Bool
  | .literal [_] _ => true
  | .charClass _ => true
  | .anyCharNotNL => true
  | .anyChar => true
  | _ => false

/-- The rank of a node that reads one character, simplest first. -/
def charRank : Regex → Nat
  | .literal _ _ => 0
  | .charClass _ => 1
  | .anyCharNotNL => 2
  | .anyChar => 3
  | _ => 0

def charSet : Regex → CharRanges
  | .literal [r] fold =>
    if fold then CharRanges.ofList ((CharRanges.orbit r).map fun v => (v, v))
    else CharRanges.single r
  | .charClass s => s
  | .anyCharNotNL => (CharRanges.single 10).complement
  | .anyChar => CharRanges.all
  | _ => CharRanges.empty

/-- Two nodes that read one character merged into one, `dst` being the less simple:
any character stays so, any character but a line feed takes in a line feed, a class
takes in the other's characters, and two different literals become a class. -/
def mergeChars (dst src : Regex) : Regex :=
  match dst, src with
  | .anyChar, _ => .anyChar
  | .anyCharNotNL, _ => if (charSet src).contains 10 then .anyChar else .anyCharNotNL
  | .charClass s, _ => .charClass (s.union (charSet src))
  | .literal [a] f, .literal [b] g =>
    if a == b && f == g then dst else .charClass ((charSet dst).union (charSet src))
  | _, _ => .charClass ((charSet dst).union (charSet src))

/-- A class that holds every character as any character, and one that holds every
character but a line feed as that. -/
def cleanAlt : Regex → Regex
  | .charClass s =>
    if s == CharRanges.all then .anyChar
    else if s == (CharRanges.single 10).complement then .anyCharNotNL
    else .charClass s
  | re => re

/-- A class of one code point as that literal, and a class of a code point and its
one other case as a folding literal; other nodes unchanged. -/
def asLiteral : Regex → Regex
  | .charClass s =>
    match s.ranges.toList with
    | [(a, b)] =>
      if a = b then .literal [a] false
      else if b = a + 1 && (CharRanges.orbit a).mergeSort == [a, b] then .literal [a] true
      else .charClass s
    | [(a, a'), (b, b')] =>
      if a = a' && b = b' && (CharRanges.orbit a).mergeSort == [a, b] then .literal [a] true
      else .charClass s
    | _ => .charClass s
  | re => re

/-- A sequence of parts: one part as itself, and sequences among them spread out. -/
def collapseConcat : List Regex → Regex
  | [s] => s
  | subs => .concat (subs.flatMap fun s => match s with
    | .concat xs => xs
    | s => [s])

def leadingText : Regex → List Nat × Bool
  | .concat (.literal rs f :: _) => (rs, f)
  | .literal rs f => (rs, f)
  | _ => ([], false)

/-- A literal without its first `n` code points; empty when none are left. -/
def dropLiteral (n : Nat) : Regex → Regex
  | .literal rs f => if (rs.drop n).isEmpty then .emptyMatch else .literal (rs.drop n) f
  | re => re

/-- Spreads what is left of a sequence once its first part is gone. -/
def rest : List Regex → Regex
  | [] => .emptyMatch
  | [x] => x
  | xs => .concat xs

/-- A branch without the first `n` code points of its leading text. -/
def dropLeadingText (n : Nat) : Regex → Regex
  | .concat (first :: others) =>
    match dropLiteral n first with
    | .emptyMatch => rest others
    | first' => .concat (first' :: others)
  | re => dropLiteral n re

/-- The part a branch starts with; none for an empty branch or one that starts empty. -/
def leadingPart : Regex → Option Regex
  | .emptyMatch => none
  | .concat (first :: _) =>
    match first with
    | .emptyMatch => none
    | _ => some first
  | re => some re

/-- A branch without the part it starts with. -/
def dropLeadingPart : Regex → Regex
  | .concat (_ :: others) => rest others
  | _ => .emptyMatch

/-- Whether a leading part may be shared: a node that reads one character, or a fixed
count of one. -/
def shareable : Regex → Bool
  | .counted least (some most) _ sub => least == most && isCharLike sub
  | re => isCharLike re

/-- Whether two nodes that read one character are the same: the same code points for
literals (whether they fold does not count) and classes. -/
def sameChars : Regex → Regex → Bool
  | .literal a _, .literal b _ => a == b
  | .charClass a, .charClass b => a == b
  | .anyCharNotNL, .anyCharNotNL => true
  | .anyChar, .anyChar => true
  | _, _ => false

def sameShared : Regex → Regex → Bool
  | .counted l m z s, .counted l' m' z' s' => l == l' && m == m' && z == z' && sameChars s s'
  | a, b => sameChars a b

def commonStart : List Nat → List Nat → Nat
  | a :: as, b :: bs => if a = b then commonStart as bs + 1 else 0
  | _, _ => 0

/-- Branches sharing a leading text, as that text followed by the alternation of
what is left of them. -/
def shareText (collapse : List Regex → Regex) (run : List Regex) (text : List Nat)
    (fold : Bool) : List Regex :=
  match run with
  | [] => []
  | [s] => [s]
  | _ => [.concat [.literal text fold, collapse (run.map (dropLeadingText text.length))]]

/-- The first round of factoring: runs of branches with a common leading text, at
least one code point long and folding alike, share it. -/
def byText (collapse : List Regex → Regex) :
    List Regex → List Regex → List Nat → Bool → List Regex
  | [], run, text, fold => shareText collapse run text fold
  | s :: others, run, text, fold =>
    let (t, f) := leadingText s
    let same := commonStart text t
    if f == fold && same > 0 then byText collapse others (run ++ [s]) (text.take same) fold
    else shareText collapse run text fold ++ byText collapse others [s] t f

/-- Branches sharing a leading part, as that part followed by the alternation of what
is left of them. -/
def sharePart (collapse : List Regex → Regex) (run : List Regex) (first : Option Regex) :
    List Regex :=
  match run, first with
  | [], _ => []
  | [s], _ => [s]
  | _, some f => [.concat [f, collapse (run.map dropLeadingPart)]]
  | _, none => run

/-- The second round of factoring: runs of branches that start with the same
shareable part share it. -/
def byPart (collapse : List Regex → Regex) :
    List Regex → List Regex → Option Regex → List Regex
  | [], run, first => sharePart collapse run first
  | s :: others, run, first =>
    let next := leadingPart s
    let joins := match first, next with
      | some f, some g => shareable f && sameShared f g
      | _, _ => false
    if joins then byPart collapse others (run ++ [s]) first
    else sharePart collapse run first ++ byPart collapse others [s] next

/-- Two nodes that read one character merged, whichever is less simple taking in the
other. -/
def mergePair (a b : Regex) : Regex :=
  if charRank a < charRank b then mergeChars b a else mergeChars a b

/-- Nodes that read one character merged into one. The result does not depend on
the order: it reads every character any of them reads, and is a literal only when
all are the same literal. -/
def mergeRun : List Regex → Regex
  | [] => .noMatch
  | first :: others => others.foldl mergePair first

/-- The third round of factoring: runs of branches that each read one character
become one class. -/
def byChars : List Regex → List Regex → List Regex
  | [], run => match run with
    | [] => []
    | [s] => [s]
    | _ => [cleanAlt (mergeRun run)]
  | s :: others, run =>
    if isCharLike s then byChars others (run ++ [s])
    else
      (match run with
        | [] => []
        | [r] => [r]
        | _ => [cleanAlt (mergeRun run)]) ++ s :: byChars others []

/-- The last round of factoring: an empty branch followed by another is dropped. -/
def byEmpty : List Regex → List Regex
  | .emptyMatch :: .emptyMatch :: others => byEmpty (.emptyMatch :: others)
  | s :: others => s :: byEmpty others
  | [] => []

/-- The branches of an alternation factored, nested alternations made with
`collapse`. -/
def factor (collapse : List Regex → Regex) (subs : List Regex) : List Regex :=
  if subs.length < 2 then subs
  else byEmpty (byChars (byPart collapse (byText collapse subs [] [] false) [] none) [])

/-- An alternation of branches: one branch as itself, alternations among them
spread out, and the branches factored; `fuel` bounds the depth of the alternations
that factoring makes. -/
def collapseAlt : Nat → List Regex → Regex
  | _, [s] => s
  | 0, subs => .alternate subs
  | fuel + 1, subs =>
    let flat := subs.flatMap fun s => match s with
      | .alternate xs => xs
      | s => [s]
    match factor (collapseAlt fuel) flat with
    | [s] => s
    | xs => .alternate xs

end Regex

end Admissions
