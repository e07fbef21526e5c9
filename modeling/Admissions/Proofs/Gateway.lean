import Admissions.Gateway
import Admissions.Proofs.Score.Range

namespace Admissions

theorem Word.wrap_mul_wrap (a b : Int) : Word.wrap (a * Word.wrap b) = Word.wrap (a * b) :=
  Int.mul_bmod_bmod

namespace GatewayFailure

/-- The text of a failure after some calls: the count is there exactly when there was
more than one call. -/
theorem detail_counts (operation msg : String) (calls : Nat) (called : 0 < calls) :
    detail operation (calls - 1) msg = "Zeebe operation '" ++ operation ++ "' failed" ++
      (if 1 < calls then " after " ++ toString calls ++ " attempts" else "") ++ ": " ++ msg := by
  obtain ⟨before, rfl⟩ : ∃ before, calls = before + 1 := ⟨calls - 1, by omega⟩
  rw [Nat.add_sub_cancel]
  unfold detail
  by_cases first : before = 0
  · rw [if_neg (by omega), if_neg (by omega)]
  · rw [if_pos (by omega), if_pos (by omega)]

/-- Every class reports the text of the failure as its details, except an existing
resource: that one reports it as its message, with fixed details. -/
theorem report_text (f : GatewayFailure) (operation msg : String) (attempt : Nat) :
    (f = .exists_ ∧ (f.report operation attempt msg).message = detail operation attempt msg ∧
        (f.report operation attempt msg).details = "Resource already exists") ∨
      (f ≠ .exists_ ∧ (f.report operation attempt msg).details = detail operation attempt msg) := by
  cases f <;>
    simp [report, Failure.businessRule, Failure.business, Failure.externalService, Failure.timeout,
      Failure.resourceNotFound, Failure.authentication, Failure.technical]

end GatewayFailure

namespace Gateway

/-- Whether the loop calls again after an outcome, retries left: the outcome is a
failure whose class is transient. -/
def retried {α : Type} : Except String α → Bool
  | .ok _ => false
  | .error msg => (GatewayFailure.classify msg).transient

section Loop

variable {α : Type} (operation : String) (send : Nat → Except String α)
  (cancelled : Nat → Option String)

/-- The answer of the loop when it stops at a call. -/
theorem go_settled (attempt left : Nat) (delay : Int) (waits : List Int)
    (settles : retried (send attempt) = false) :
    sendWithRetry.go operation send cancelled attempt left delay waits =
      ⟨attempt + 1, waits, (send attempt).mapError fun msg =>
        (GatewayFailure.classify msg).report operation attempt msg⟩ := by
  unfold sendWithRetry.go
  cases outcome : send attempt with
  | ok v => rfl
  | error msg =>
    rw [outcome, retried] at settles
    cases left with
    | zero => rfl
    | succ left => simp [settles, Except.mapError]

theorem go_last (attempt : Nat) (delay : Int) (waits : List Int) :
    sendWithRetry.go operation send cancelled attempt 0 delay waits =
      ⟨attempt + 1, waits, (send attempt).mapError fun msg =>
        (GatewayFailure.classify msg).report operation attempt msg⟩ := by
  unfold sendWithRetry.go
  cases send attempt <;> rfl

/-- A transient failure with retries left is followed, once the delay is waited out,
by the next call with the delay doubled. -/
theorem go_retried (attempt left : Nat) (delay : Int) (waits : List Int)
    (again : retried (send attempt) = true) (waiting : cancelled attempt = none) :
    sendWithRetry.go operation send cancelled attempt (left + 1) delay waits =
      sendWithRetry.go operation send cancelled (attempt + 1) left (Word.wrap (2 * delay))
        (waits ++ [delay]) := by
  conv => lhs; unfold sendWithRetry.go
  cases outcome : send attempt with
  | ok v => rw [outcome, retried] at again; cases again
  | error msg =>
    rw [outcome, retried] at again
    simp [again, waiting]

/-- The waits of a run that starts at a word delay: the delay doubled before each call,
as a word. -/
theorem doubled_waits (n : Nat) (delay : Int) (fits : Word.fits delay = true) :
    [delay] ++ (List.range n).map (fun i => Word.wrap (Int.pow 2 i * Word.wrap (2 * delay))) =
      (List.range (n + 1)).map fun i => Word.wrap (Int.pow 2 i * delay) := by
  rw [List.range_succ_eq_map, List.map_cons, List.map_map]
  have first : Word.wrap (Int.pow 2 0 * delay) = delay := by
    rw [show Int.pow 2 0 = 1 from rfl, Int.one_mul, Word.wrap_eq_self fits]
  have later : ∀ i, Word.wrap (Int.pow 2 i * Word.wrap (2 * delay)) =
      Word.wrap (Int.pow 2 (i + 1) * delay) := fun i => by
    rw [Word.wrap_mul_wrap, show Int.pow 2 (i + 1) = Int.pow 2 i * 2 from rfl, Int.mul_assoc]
  rw [first]
  simp only [List.singleton_append, Function.comp_def, later, Nat.succ_eq_add_one]

/-- A run of the loop under a context that is never cancelled: it makes `n + 1` calls,
`n` at most the retries left, every call before the last failing transiently and the
last one settling unless the retries ran out; the waits are the delay doubled call
after call, and the answer is the last call's. -/
theorem go_run (left attempt : Nat) (delay : Int) (waits : List Int) (fits : Word.fits delay = true) :
    ∃ n ≤ left, (∀ i < n, retried (send (attempt + i)) = true) ∧
      (n = left ∨ retried (send (attempt + n)) = false) ∧
      sendWithRetry.go operation send (fun _ => none) attempt left delay waits =
        ⟨attempt + n + 1, waits ++ (List.range n).map (fun i => Word.wrap (Int.pow 2 i * delay)),
          (send (attempt + n)).mapError fun msg =>
            (GatewayFailure.classify msg).report operation (attempt + n) msg⟩ := by
  -- induction on the retries left, the loop's own recursion
  induction left generalizing attempt delay waits with
  | zero => exact ⟨0, le_rfl, nofun, Or.inl rfl, by simpa using go_last operation send _ attempt delay waits⟩
  | succ left ih =>
    cases again : retried (send attempt) with
    | false =>
      refine ⟨0, Nat.zero_le _, nofun, Or.inr again, ?_⟩
      simpa using go_settled operation send _ attempt (left + 1) delay waits again
    | true =>
      obtain ⟨n, bound, failing, stop, run⟩ :=
        ih (attempt + 1) (Word.wrap (2 * delay)) (waits ++ [delay]) (Word.fits_wrap _)
      refine ⟨n + 1, by omega, fun i below => ?_, ?_, ?_⟩
      · cases i with
        | zero => exact again
        | succ i => simpa [Nat.add_assoc, Nat.add_comm 1 i] using failing i (by omega)
      · rcases stop with rfl | settles
        · exact Or.inl rfl
        · exact Or.inr (by simpa [Nat.add_assoc, Nat.add_comm 1 n] using settles)
      · rw [go_retried operation send _ attempt left delay waits again rfl, run, List.append_assoc,
          doubled_waits n delay fits]
        simp only [Nat.add_assoc, Nat.add_comm 1 n]

/-- Where a run stops: at the first call that settles, or at the last call the retries
allow when that one comes first. -/
theorem stops_at_first_settled {n left : Nat} (bound : n ≤ left)
    (failing : ∀ i < n, retried (send i) = true) (stop : n = left ∨ retried (send n) = false)
    (j : Nat) (before : ∀ i < j, retried (send i) = true) (settles : retried (send j) = false) :
    n = min j left := by
  rcases Nat.lt_trichotomy j n with earlier | same | later
  · rw [failing j earlier] at settles
    cases settles
  · omega
  · rcases stop with ran | stopped
    · omega
    · rw [before n later] at stopped
      cases stopped

end Loop

/-- The retry loop under a context that is never cancelled. Calls go on up to the first
one that settles the command (a value, or a failure that is not transient), but never
past the client's retries plus one. The answer is the last call's: its value, or the
failure its class builds, whose text says after how many calls it came when there was
more than one; that text is the details of every class but an existing resource, which
carries it as its message. Between calls the loop waits the client's delay, doubled each
time as a 64-bit duration. -/
theorem retries_only_transient_failures {α : Type} (client : GatewayClient) (operation : String)
    (send : Nat → Except String α) :
    let sent := sendWithRetry client operation send fun _ => none
    (∀ j, (∀ i < j, retried (send i) = true) → retried (send j) = false →
        sent.calls = min (j + 1) (client.commandRetries + 1)) ∧
      ((∀ i, retried (send i) = true) → sent.calls = client.commandRetries + 1) ∧
      sent.answer = (send (sent.calls - 1)).mapError (fun msg =>
        (GatewayFailure.classify msg).report operation (sent.calls - 1) msg) ∧
      (∀ msg failure, send (sent.calls - 1) = .error msg → sent.answer = .error failure →
        let said := "Zeebe operation '" ++ operation ++ "' failed" ++
          (if 1 < sent.calls then " after " ++ toString sent.calls ++ " attempts" else "") ++ ": " ++ msg
        (GatewayFailure.classify msg = .exists_ ∧ failure.message = said ∧
            failure.details = "Resource already exists") ∨
          (GatewayFailure.classify msg ≠ .exists_ ∧ failure.details = said)) ∧
      sent.waits = (List.range (sent.calls - 1)).map fun i => Word.wrap (Int.pow 2 i * client.retryDelay) := by
  intro sent
  obtain ⟨n, bound, failing, stop, run⟩ :=
    go_run operation send client.commandRetries 0 client.retryDelay [] client.durations.2.2
  simp only [Nat.zero_add, List.nil_append] at failing stop run
  have calls : sent.calls = n + 1 := by rw [show sent = _ from run]
  have answer := congrArg Sent.answer run
  have waited := congrArg Sent.waits run
  have last : sent.calls - 1 = n := by omega
  refine ⟨fun j before settles => ?_, fun always => ?_, ?_, fun msg failure failed answered => ?_, ?_⟩
  · rw [calls, stops_at_first_settled send bound failing stop j before settles]
    omega
  · rcases stop with ran | stopped
    · rw [calls, ran]
    · rw [always n] at stopped
      cases stopped
  · rw [last]
    exact answer
  · rw [last] at failed
    rw [show sent.answer = _ from answer, failed] at answered
    simp only [Except.mapError, Except.error.injEq] at answered
    have counted := GatewayFailure.detail_counts operation msg sent.calls (by omega)
    rw [last] at counted
    intro said
    have spelled : said = GatewayFailure.detail operation n msg := counted.symm
    rw [spelled, ← answered]
    exact GatewayFailure.report_text _ operation msg n
  · rw [last]
    exact waited

/-- Two outages and then the key: three calls, a wait of one second and one of two. -/
theorem two_outages_then_key :
    let sent := sendWithRetry { address := "" } "create-instance"
      (fun i => if i < 2 then .error "unavailable" else .ok (7 : Nat)) fun _ => none
    sent.calls = 3 ∧ sent.answer = .ok 7 ∧ sent.waits = [1000000000, 2000000000] := by
  intro sent
  have run := retries_only_transient_failures { address := "" } "create-instance"
    (fun i => if i < 2 then .error "unavailable" else .ok (7 : Nat))
  dsimp only at run
  have calls : sent.calls = 3 :=
    run.1 2 (fun i below => by rw [if_pos below]; decide) (by decide)
  refine ⟨calls, ?_, ?_⟩
  · rw [run.2.2.1, show sent.calls = 3 from calls]
    rfl
  · rw [run.2.2.2.2, show sent.calls = 3 from calls]
    decide

/-- A timeout and then an existing resource: the failure of the second call keeps the
count of calls in its message, and its details do not say it. -/
theorem existing_resource_counts_in_message :
    let sent := sendWithRetry { address := "" } "create-instance"
      (fun i => if i = 0 then .error "timeout" else .error "already exists" : Nat → Except String Nat)
      fun _ => none
    sent.calls = 2 ∧ sent.waits = [1000000000] ∧ ∃ failure, sent.answer = .error failure ∧
      failure.code = "BUSINESS_RULE_VIOLATION" ∧
      failure.message = "Zeebe operation 'create-instance' failed after 2 attempts: already exists" ∧
      failure.details = "Resource already exists" := by
  intro sent
  have timedOut : retried (.error "timeout" : Except String Nat) = true := by decide
  have existing : GatewayFailure.classify "already exists" = .exists_ := by decide
  have settles : retried (.error "already exists" : Except String Nat) = false := by
    rw [retried, existing]
    rfl
  have run : sent = ⟨2, [1000000000], .error ((GatewayFailure.classify "already exists").report
      "create-instance" 1 "already exists")⟩ := by
    show sendWithRetry.go _ _ _ 0 3 1000000000 [] = _
    rw [go_retried _ _ _ 0 2 _ _ timedOut rfl, go_settled _ _ _ (0 + 1) 2 _ _ settles]
    rfl
  rw [run, existing]
  refine ⟨rfl, rfl, _, rfl, rfl, ?_, rfl⟩
  decide

end Gateway

end Admissions
