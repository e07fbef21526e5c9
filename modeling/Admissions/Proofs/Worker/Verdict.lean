import Admissions.Worker.Job

namespace Admissions

/-! ### Members of objects -/

namespace Json

variable {xs ys : List (String × Json)} {k : String}

/-- A member written in a later part of an object stands over the earlier part. -/
theorem field?_obj_append_of_mem (present : ∃ v, (k, v) ∈ ys) :
    (Json.obj (xs ++ ys)).field? k = (Json.obj ys).field? k := by
  obtain ⟨v, member⟩ := present
  simp only [field?, List.reverse_append, List.find?_append]
  cases found : ys.reverse.find? (·.1 == k) with
  | none =>
    have missed := List.find?_eq_none.mp found (k, v) (List.mem_reverse.mpr member)
    simp at missed
  | some kv => simp

/-- A name the later part does not write is read from the earlier part. -/
theorem field?_obj_append_of_not_mem (absent : ∀ v, (k, v) ∉ ys) :
    (Json.obj (xs ++ ys)).field? k = (Json.obj xs).field? k := by
  have none : ys.reverse.find? (·.1 == k) = none := by
    refine List.find?_eq_none.mpr fun kv member atKey => ?_
    have same : kv.1 = k := by simpa using atKey
    exact absent kv.2 (same ▸ List.mem_reverse.mp member)
  simp [field?, List.reverse_append, List.find?_append, none]

end Json

/-! ### Failures of errors -/

namespace Failure

theorem ofAdmission_code (e : AdmissionError) (text : String) : (ofAdmission e text).code = e.code := by
  cases e <;> rfl

theorem ofAdmission_retryable (e : AdmissionError) (text : String) :
    (ofAdmission e text).retryable = false := by
  cases e <;> rfl

/-- The variables of a failed job: the failure's own, its code as `originalErrorCode`,
then its metadata. -/
theorem jobVariables_eq_append (f : Failure) :
    f.jobVariables = ([("errorCode", .str f.code), ("errorMessage", .str f.message),
      ("errorDetails", .str f.details), ("retryable", .bool f.retryable)] ++
      [("originalErrorCode", .str f.code)]) ++ f.metadata := by
  simp [jobVariables, errorVariables]

/-- The variables of a failed job read each metadata entry as the metadata gives it. -/
theorem jobVariables_metadata (f : Failure) {k : String} (present : ∃ v, (k, v) ∈ f.metadata) :
    (Json.obj f.jobVariables).field? k = (Json.obj f.metadata).field? k := by
  rw [jobVariables_eq_append]
  exact Json.field?_obj_append_of_mem present

/-- The variables of a failed job read the failure's code as `originalErrorCode`, unless
its metadata writes that name over it. -/
theorem jobVariables_originalErrorCode (f : Failure)
    (absent : ∀ v, ("originalErrorCode", v) ∉ f.metadata) :
    (Json.obj f.jobVariables).field? "originalErrorCode" = some (.str f.code) := by
  rw [jobVariables_eq_append, Json.field?_obj_append_of_not_mem absent,
    Json.field?_obj_append_of_mem ⟨_, List.mem_singleton_self _⟩]
  simp [Json.field?]

end Failure

namespace Fault

/-- A classified failure is its own failure, so normalizing twice is normalizing once. -/
@[simp] theorem normalize_ofFailure (f : Failure) : (ofFailure f).normalize = f := rfl

/-- Context does not change what an error is classified as. -/
theorem normalize_wrap (context : String) (e : Fault) :
    (e.wrap context).normalize.code = e.normalize.code ∧
      (e.wrap context).normalize.retryable = e.normalize.retryable := by
  obtain ⟨text, cause⟩ := e
  cases cause <;> simp [normalize, wrap, Failure.ofAdmission_code, Failure.ofAdmission_retryable,
    Failure.internal, Failure.business]

theorem normalize_admission {e : Fault} {a : AdmissionError} (refused : e.cause = .admission a) :
    e.normalize = Failure.ofAdmission a e.text := by
  simp [normalize, refused]

end Fault

/-! ### The rule -/

theorem JobVerdict.of_eq (f : Failure) (jobRetries : Int) :
    JobVerdict.of f jobRetries =
      if f.retryable ∧ 0 < Failure.retryCount f.code ∧ 1 < jobRetries then
        .retry (min (Failure.retryCount f.code) (jobRetries - 1).toNat)
      else .raise := by
  unfold JobVerdict.of Failure.retries
  cases f.retryable <;> simp

namespace JobCommand

theorem ofFailure_eq (job : Job) (f : Failure) :
    ofFailure job f =
      if f.retryable ∧ 0 < Failure.retryCount f.code ∧ 1 < job.retries then
        .fail job.key (min (Failure.retryCount f.code) (job.retries - 1).toNat) f.message
          (.obj f.jobVariables)
      else .raise job.key f.code f.message (.obj f.jobVariables) := by
  rw [ofFailure, JobVerdict.of_eq]
  by_cases retried : f.retryable ∧ 0 < Failure.retryCount f.code ∧ 1 < job.retries
  · rw [if_pos retried, if_pos retried]
  · rw [if_neg retried, if_neg retried]

theorem ofFailure_retries {job : Job} {f : Failure} {n : Nat} {message : String} {vars : Json}
    (failed : ofFailure job f = .fail job.key n message vars) : 1 ≤ n ∧ (n : Int) < job.retries := by
  rw [ofFailure_eq] at failed
  split at failed
  case isTrue retried =>
    obtain ⟨-, allowed, left⟩ := retried
    obtain ⟨-, rfl, -, -⟩ := fail.inj failed
    omega
  case isFalse => cases failed

end JobCommand

/-- One rule decides every failed job. Its error's failure is retried, with
`min (retryCount code) (r - 1)` retries, exactly when the failure may be retried, its code
allows retries and the job has `r > 1` tries left; otherwise it is raised under its code.
A retried job keeps between 1 and `r - 1` retries, never more than it had. The variables
carry every metadata entry and the failure's code as `originalErrorCode`, unless the
metadata writes that name. Normalizing the failure once more before handing it on
changes nothing; a refusal of the admission rules is always raised under its own code,
a bad score sheet with its cells as `cellErrors`. -/
theorem failed_job_rule (job : Job) (e : Fault) :
    JobCommand.ofOutcome job (.error e) =
      (if e.normalize.retryable ∧ 0 < Failure.retryCount e.normalize.code ∧ 1 < job.retries then
        .fail job.key (min (Failure.retryCount e.normalize.code) (job.retries - 1).toNat)
          e.normalize.message (.obj e.normalize.jobVariables)
      else .raise job.key e.normalize.code e.normalize.message (.obj e.normalize.jobVariables)) ∧
    (∀ n message vars, JobCommand.ofOutcome job (.error e) = .fail job.key n message vars →
      1 ≤ n ∧ (n : Int) < job.retries) ∧
    (∀ k, (∃ v, (k, v) ∈ e.normalize.metadata) →
      (Json.obj e.normalize.jobVariables).field? k = (Json.obj e.normalize.metadata).field? k) ∧
    ((∀ v, ("originalErrorCode", v) ∉ e.normalize.metadata) →
      (Json.obj e.normalize.jobVariables).field? "originalErrorCode" = some (.str e.normalize.code)) ∧
    JobCommand.ofOutcome job (.error (Fault.ofFailure e.normalize)) = JobCommand.ofOutcome job (.error e) ∧
    (∀ a, e.cause = .admission a →
      JobCommand.ofOutcome job (.error e) =
        .raise job.key a.code e.normalize.message (.obj e.normalize.jobVariables) ∧
      ∀ cells, a = .sheet cells →
        (Json.obj e.normalize.jobVariables).field? "cellErrors" = some (.arr (cells.map Failure.cellJson))) := by
  refine ⟨JobCommand.ofFailure_eq job e.normalize, fun _ _ _ failed => JobCommand.ofFailure_retries failed,
    fun _ present => e.normalize.jobVariables_metadata present,
    e.normalize.jobVariables_originalErrorCode, rfl, ?_⟩
  intro a refused
  have failure := Fault.normalize_admission refused
  constructor
  · -- a refusal is final, so the rule raises it
    have final : ¬(e.normalize.retryable ∧ 0 < Failure.retryCount e.normalize.code ∧ 1 < job.retries) := by
      simp [failure, Failure.ofAdmission_retryable]
    rw [JobCommand.ofOutcome, JobCommand.ofFailure_eq, if_neg final, failure, Failure.ofAdmission_code]
  · rintro cells rfl
    have listed : ∃ v, ("cellErrors", v) ∈ e.normalize.metadata := by
      simp [failure, Failure.ofAdmission]
    rw [e.normalize.jobVariables_metadata listed, failure]
    simp [Failure.ofAdmission, Json.field?]

end Admissions
