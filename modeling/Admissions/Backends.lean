import Admissions.Store.Repository
import Admissions.Locks
import Admissions.Search.Index
import Admissions.Outbox
import Admissions.Random.Uuid
import Admissions.Time.Instant

namespace Admissions

/-- The backends of the service. -/
structure Backends where
  store : ApplicationStore := {}
  keys : KeyStore := {}
  index : SearchIndex := {}
  outbox : Outbox := {}
  ids : IdSource := {}
  now : Instant := Instant.zero
  deriving Inhabited

abbrev Service := ExceptT Fault (StateM Backends)

namespace Service

def ofExcept {α : Type} : Except Fault α → Service α
  | .ok v => pure v
  | .error e => throw e

def onStore {α : Type} (r : StoreRun α) : Service α := do
  let b ← get
  let (res, s) := r.run.run b.store
  set { b with store := s }
  ofExcept res

def freshId : Service String := do
  let b ← get
  let (id, ids) := b.ids.next
  set { b with ids }
  return id

def clock : Service Instant := do return (← get).now

/-- The time now in UTC, to the second, as RFC 3339 text. -/
def stamp : Service String := do return (← clock).toUTC.format

def onKeys {α : Type} (context : String) (cmd : KeyStore → Except String (α × KeyStore)) :
    Service α := do
  let b ← get
  match cmd b.keys with
  | .ok (v, k) => set { b with keys := k }; return v
  | .error e => throw (Fault.plain (context ++ ": " ++ e))

def leaseHeldCondition : String := "LOCK_HELD"

/-- Takes the lease of a key for a number of nanoseconds: the token it is held by. -/
def acquireLease (key : String) (ttl : Int) : Service String := do
  let token ← freshId
  let taken ← onKeys ("acquire lock " ++ key) fun k => k.setIfAbsent key token ttl
  if taken then return token else throw ⟨leaseHeld, .condition leaseHeldCondition⟩

/-- Gives a lease back; it is removed only while it still holds the token. -/
def releaseLease (key token : String) : Service Unit :=
  onKeys ("release lock " ++ key) fun k => (k.removeIf key token).map fun k' => ((), k')

/-- The text of a marker, if it is set. -/
def readMarker (key : String) : Service (Option String) :=
  onKeys ("read marker " ++ key) fun k => (k.read key).map fun v => (v, k)

def setMarker (key value : String) : Service Unit :=
  onKeys ("set marker " ++ key) fun k => (k.write key value).map fun k' => ((), k')

/-- Runs a step and drops its error; for work whose failure is only reported. -/
def attempt (r : Service Unit) : Service Unit := tryCatch r fun _ => pure ()

/-- Runs a step and keeps its outcome, error or value. -/
def outcome {α : Type} (r : Service α) : Service (Except Fault α) :=
  tryCatch (r.map Except.ok) fun e => pure (Except.error e)

end Service

end Admissions
