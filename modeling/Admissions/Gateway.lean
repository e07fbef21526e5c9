import Admissions.Failure

namespace Admissions

/-- Settings of the gateway client. Times are durations: counts of nanoseconds. -/
structure GatewayClient where
  address : String
  plaintext : Bool := true
  connectTimeout : Int := 10000000000
  commandTimeout : Int := 30000000000
  commandRetries : Nat := 3
  retryDelay : Int := 1000000000
  /-- Durations are 64-bit words. -/
  durations : Word.fits connectTimeout ∧ Word.fits commandTimeout ∧ Word.fits retryDelay := by decide
  deriving Repr, Inhabited

namespace GatewayClient

/-- The client for a broker address and a request timeout in milliseconds; a timeout
that comes to zero or less as a duration means thirty seconds. -/
def ofSettings (address : String) (requestTimeoutMs : Int) : GatewayClient :=
  let timeout := Word.wrap (requestTimeoutMs * 1000000)
  { address := address, commandTimeout := if timeout ≤ 0 then 30000000000 else timeout,
    durations := ⟨by decide, by split; decide; exact Word.fits_wrap _, by decide⟩ }

end GatewayClient

/-- A class of gateway failure. -/
inductive GatewayFailure where
  | unreachable
  | timedOut
  | notFound
  | exists_
  | denied
  | unknown
  deriving DecidableEq, Repr, Inhabited

namespace GatewayFailure

/-- The words that mark each class, in the order they are tried. -/
def phrases : List (GatewayFailure × List String) :=
  [(.unreachable, ["connection refused", "connection reset", "unavailable", "unreachable", "broken pipe"]),
    (.timedOut, ["timeout", "deadline exceeded"]),
    (.notFound, ["not found"]),
    (.exists_, ["already exists"]),
    (.denied, ["permission denied", "unauthorized"])]

/-- The class of an error message: the first class with a phrase in it, in lower case. -/
def classify (message : String) : GatewayFailure :=
  let lower := Text.toLower message
  match phrases.find? (fun (_, ws) => ws.any (Text.contains lower ·)) with
  | some (f, _) => f
  | none => .unknown

def transient : GatewayFailure → Bool
  | .unreachable | .timedOut => true
  | _ => false

/-- The text of a failed command: its operation, after how many attempts when there
was more than one, and the error. -/
def detail (operation : String) (attempt : Nat) (message : String) : String :=
  "Zeebe operation '" ++ operation ++ "' failed" ++
    (if attempt > 0 then " after " ++ toString (attempt + 1) ++ " attempts" else "") ++ ": " ++ message

/-- The failure reported for an error of an operation at an attempt counted from 0. -/
def report (f : GatewayFailure) (operation : String) (attempt : Nat) (message : String) : Failure :=
  let detail := detail operation attempt message
  match f with
  | .unreachable | .unknown => Failure.externalService "zeebe" detail
  | .timedOut => Failure.timeout "zeebe" detail
  | .notFound => Failure.resourceNotFound "zeebe" detail
  | .exists_ => Failure.businessRule detail "Resource already exists"
  | .denied => Failure.authentication detail

end GatewayFailure

namespace Gateway

/-- What a command sent through the retry loop did: how many times it was sent, the
delays waited out between sends, in order, and its answer. -/
structure Sent (α : Type) where
  calls : Nat
  waits : List Int
  answer : Except Failure α

/-- Sends a command. `send i` is the outcome of the `i`-th call, counted from 0: its
value, or the message of its error, each call under the command's own deadline.
`cancelled i` is the error of the caller's context when the context ends while the
loop waits after the `i`-th call. A failure is tried again while it is transient and
retries are left, after a delay that starts at the client's and doubles as a duration. -/
def sendWithRetry {α : Type} (client : GatewayClient) (operation : String)
    (send : Nat → Except String α) (cancelled : Nat → Option String) : Sent α :=
  go 0 client.commandRetries client.retryDelay []
where
  /-- The loop at a call, with the retries left, the next delay and the waits so far. -/
  go (attempt left : Nat) (delay : Int) (waits : List Int) : Sent α :=
    match send attempt with
    | .ok v => ⟨attempt + 1, waits, .ok v⟩
    | .error msg =>
      let f := GatewayFailure.classify msg
      match left with
      | 0 => ⟨attempt + 1, waits, .error (f.report operation attempt msg)⟩
      | left + 1 =>
        if !f.transient then ⟨attempt + 1, waits, .error (f.report operation attempt msg)⟩
        else
          match cancelled attempt with
          | some err =>
            ⟨attempt + 1, waits, .error (Failure.timeout "zeebe"
              (operation ++ " cancelled after " ++ toString (attempt + 1) ++ " attempts: " ++ err))⟩
          | none => go (attempt + 1) left (Word.wrap (2 * delay)) (waits ++ [delay])

/-- A request to start an instance of a process: the latest version deployed, which the
request names as version `-1`, with the variables of the instance. -/
structure CreateInstance where
  bpmnProcessId : String
  version : Int := -1
  processVariables : Json

def CreateInstance.toJson (r : CreateInstance) : Json :=
  .obj [("bpmnProcessId", .str r.bpmnProcessId), ("version", .ofInt r.version), ("variables", r.processVariables)]

/-- The operation name under which starting a process is retried and reported. -/
def startOperation (processId : String) : String := "create-instance:" ++ processId

def startRequest (processId : String) (processVariables : Json) : CreateInstance :=
  { bpmnProcessId := processId, processVariables }

/-- Starts an instance of the latest version of a process: one create-instance command
through the retry loop, every call sending the same request. `send request i` is the
outcome of the `i`-th call: the new instance's key, or the message of its error. -/
def startProcess (client : GatewayClient) (processId : String) (processVariables : Json)
    (send : CreateInstance → Nat → Except String Int) (cancelled : Nat → Option String) : Sent Int :=
  sendWithRetry client (startOperation processId) (send (startRequest processId processVariables)) cancelled

/-- Checks the gateway by asking once for the broker's topology; a failed ask is reported
with the words of the health check, and is not tried again. -/
def healthCheck (topology : Except String Unit) : Except String Unit :=
  match topology with
  | .ok () => .ok ()
  | .error msg => .error ("zeebe health check failed: " ++ msg)

end Gateway

end Admissions
