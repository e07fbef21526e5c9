import Admissions.Search.Document
import Admissions.Failure

namespace Admissions

/-- The results index and the ways it is set to fail. -/
structure SearchIndex where
  created : Bool := false
  /-- Documents by form id, in the order they were first stored. -/
  docs : List (String × ResultDocument) := []
  /-- Examination numbers whose documents are refused. -/
  refused : List Int := []
  unreachable : Bool := false
  bulkBroken : Bool := false
  searchBroken : Bool := false
  deriving Inhabited

namespace SearchIndex

def refusedConnection : String := "dial tcp: connection refused"

/-- The error of a request that did not get through. -/
def unavailable (context : String) : Fault :=
  ⟨context ++ ": elasticsearch unavailable: " ++ refusedConnection, .condition "elasticsearch unavailable"⟩

/-- Creates the index of a name unless it is there. -/
def ensure (s : SearchIndex) (name : String) : Except Fault SearchIndex :=
  if s.unreachable then .error (unavailable ("check index " ++ name))
  else .ok { s with created := true }

/-- Stores a document under its id, in place when the id is there. -/
def store (s : SearchIndex) (d : ResultDocument) : SearchIndex :=
  if s.docs.any (·.1 == d.applicationId) then
    { s with docs := s.docs.map fun (k, old) => if k == d.applicationId then (k, d) else (k, old) }
  else { s with docs := s.docs ++ [(d.applicationId, d)] }

/-- The refusal of a document, if the index refuses it. -/
def refusal? (s : SearchIndex) (d : ResultDocument) : Option String :=
  if s.refused.contains d.examinationNumber then
    some (d.applicationId ++ ": failed to parse document " ++ toString d.examinationNumber)
  else none

/-- Indexes documents in one request: the number stored, or the error, with the
index after. Refused documents fail together after the rest are stored. -/
def bulk (s : SearchIndex) (docs : List ResultDocument) : (Except Fault Nat) × SearchIndex :=
  if docs.isEmpty then (.ok 0, s)
  else if s.unreachable then (.error (unavailable "bulk index"), s)
  else if s.bulkBroken then (.error (Fault.plain "bulk index: 500 Internal Server Error"), s)
  else
    let failed := docs.filterMap s.refusal?
    let s' := (docs.filter fun d => (s.refusal? d).isNone).foldl store s
    if failed.isEmpty then (.ok docs.length, s')
    else (.error (Fault.plain ("BULK_ITEMS_REJECTED: " ++ "; ".intercalate failed)), s')

def sorted (s : SearchIndex) : List (String × ResultDocument) :=
  s.docs.mergeSort fun a b => !(b.1 < a.1)

/-- A search by a query: the documents found, or the error, and whether the
request reached the index. -/
def search (s : SearchIndex) (index : String) : Except String (List ResultDocument) × Bool :=
  if index.isEmpty then (.error "index name is required", false)
  else if s.unreachable then (.error ("SEARCH_FAILED: " ++ refusedConnection), false)
  else if s.searchBroken then (.error "SEARCH_FAILED: 503 Service Unavailable", true)
  else (.ok (s.sorted.map (·.2)), true)

end SearchIndex

end Admissions
