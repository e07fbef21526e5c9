import Admissions.Random.Uuid
import Admissions.Json.Basic

namespace Admissions

/-- The ids met so far, in the order they were first met. -/
structure IdNames where
  ids : List String := []
  deriving Inhabited

namespace IdNames

def prefixChars : List Char := ['u', 'u', 'i', 'd', '-']

/-- The name of an id, naming it when it is new. -/
def nameOf (n : IdNames) (id : String) : String × IdNames :=
  match n.ids.findIdx? (· == id) with
  | some i => ("uuid-" ++ toString (i + 1), n)
  | none => ("uuid-" ++ toString (n.ids.length + 1), { ids := n.ids ++ [id] })

/-- Replaces every id in a text by its name, from left to right. -/
def renameChars (cs : List Char) (n : IdNames) : List Char × IdNames :=
  match cs with
  | [] => ([], n)
  | c :: rest =>
    if Uuid.startsText (c :: rest) then
      let (name, n) := n.nameOf (String.ofList ((c :: rest).take Uuid.width))
      let (tail, n) := renameChars ((c :: rest).drop Uuid.width) n
      (name.toList ++ tail, n)
    else
      let (tail, n) := renameChars rest n
      (c :: tail, n)
termination_by cs.length
decreasing_by
  all_goals simp only [List.length_drop, List.length_cons, Uuid.width]
  all_goals omega

/-- Replaces every id in a text by its name. -/
def renameText (s : String) (n : IdNames) : String × IdNames :=
  let (cs, n) := renameChars s.toList n
  (String.ofList cs, n)

/-- Replaces the ids in every text of a value whose members are in key order. -/
def renameSorted : Json → IdNames → Json × IdNames
  | .str s, n => let (t, n) := renameText s n; (.str t, n)
  | .arr items _, n =>
    let (out, n) := items.attach.foldl (fun (acc, n) ⟨x, _⟩ =>
      let (y, n) := renameSorted x n
      (acc ++ [y], n)) ([], n)
    (.arr out, n)
  | .obj fields _, n =>
    let (out, n) := fields.attach.foldl (fun (acc, n) ⟨(k, v), _⟩ =>
      let (k', n) := renameText k n
      let (v', n) := renameSorted v n
      (acc ++ [(k', v')], n)) ([], n)
    (.obj out, n)
  | other, n => (other, n)
termination_by j => sizeOf j
decreasing_by
  all_goals simp_wf
  · have := List.sizeOf_lt_of_mem ‹_ ∈ items›; omega
  · have := List.sizeOf_lt_of_mem ‹_ ∈ fields›; simp at this; omega

/-- Replaces the ids of an answer by their names, members taken in key order. -/
def rename (j : Json) (n : IdNames) : Json × IdNames := renameSorted j.sortKeys n

def digitsValue (ds : List Char) : Nat := ds.foldl (fun v d => 10 * v + (d.toNat - 48)) 0

/-- Replaces every name in a text by the id behind it. -/
def restoreChars (n : IdNames) (cs : List Char) : List Char :=
  match cs with
  | [] => []
  | c :: rest =>
    let ds := ((c :: rest).drop prefixChars.length).takeWhile Char.isDigit
    if prefixChars.isPrefixOf (c :: rest) && !ds.isEmpty then
      let k := digitsValue ds
      let replaced := if 1 ≤ k then n.ids[k - 1]?.map String.toList else none
      replaced.getD (prefixChars ++ ds) ++
        restoreChars n ((c :: rest).drop (prefixChars.length + ds.length))
    else c :: restoreChars n rest
termination_by cs.length
decreasing_by
  all_goals simp only [List.length_drop, List.length_cons, prefixChars]
  all_goals omega

/-- Replaces every name in a text by the id behind it. -/
def restore (n : IdNames) (s : String) : String := String.ofList (restoreChars n s.toList)

end IdNames

end Admissions
