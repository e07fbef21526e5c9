namespace Admissions

/-- A key, its text and the lease time it has left. -/
structure KeyEntry where
  key : String
  value : String
  /-- Nanoseconds left; `none` for a key that does not expire. -/
  ttl : Option Int := none
  deriving Inhabited

/-- The key store: its keys in the order they were first set, and the error every
command answers while the store is failing. -/
structure KeyStore where
  entries : List KeyEntry := []
  failure : Option String := none
  deriving Inhabited

namespace KeyStore

def get? (s : KeyStore) (key : String) : Option String :=
  (s.entries.find? (·.key == key)).map (·.value)

/-- The store without a key. -/
def remove (s : KeyStore) (key : String) : KeyStore :=
  { s with entries := s.entries.filter (·.key != key) }

/-- Sets a key's text and lease, in place when the key is there. -/
def put (s : KeyStore) (key value : String) (ttl : Option Int) : KeyStore :=
  if s.entries.any (·.key == key) then
    { s with entries := s.entries.map fun e => if e.key == key then { e with value, ttl } else e }
  else { s with entries := s.entries ++ [{ key, value, ttl }] }

def keys (s : KeyStore) : List String :=
  (s.entries.map (·.key)).mergeSort fun a b => !(b < a)

/-- Moves the store's time on: every lease shortens, and keys whose lease ran out
are removed. -/
def advance (s : KeyStore) (nanos : Int) : KeyStore :=
  { s with entries := s.entries.filterMap fun e =>
      match e.ttl with
      | none => some e
      | some t => if t - nanos ≤ 0 then none else some { e with ttl := some (t - nanos) } }

/-- Starts failing every command with a text. -/
def fail (s : KeyStore) (text : String) : KeyStore := { s with failure := some text }

def recover (s : KeyStore) : KeyStore := { s with failure := none }

/-- Sets a key with a lease unless it is there; whether it was set. -/
def setIfAbsent (s : KeyStore) (key value : String) (ttl : Int) : Except String (Bool × KeyStore) :=
  match s.failure with
  | some e => .error e
  | none =>
    if (s.get? key).isSome then .ok (false, s) else .ok (true, s.put key value (some ttl))

def read (s : KeyStore) (key : String) : Except String (Option String) :=
  match s.failure with
  | some e => .error e
  | none => .ok (s.get? key)

/-- Sets a key that does not expire. -/
def write (s : KeyStore) (key value : String) : Except String KeyStore :=
  match s.failure with
  | some e => .error e
  | none => .ok (s.put key value none)

def removeIf (s : KeyStore) (key value : String) : Except String KeyStore :=
  match s.failure with
  | some e => .error e
  | none => .ok (if s.get? key == some value then s.remove key else s)

end KeyStore

def leaseHeld : String := "lock is held by another owner"

end Admissions
