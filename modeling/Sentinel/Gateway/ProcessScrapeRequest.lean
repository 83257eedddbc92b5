import Sentinel.System.Port

/-!
# Processing a scrape request

The use case of the gateway: store a new job, have it extracted, store the outcome, and put the
job into the recovery stream if a new selector can help.
-/

namespace Sentinel

open Lib

namespace RecoveryDecisionPolicy

def recoverableFailureReasons : List FailureReason := [.missingRequiredField, .emptyRequiredField]

def shouldTriggerRecovery : Option FailureReason → Bool
  | none => false
  | some failureReason => failureReason ∈ recoverableFailureReasons

end RecoveryDecisionPolicy

namespace SqlAlchemyJobRepository

/-- The upsert of the gateway: a new row, or the mutable columns of the existing one. -/
def save (job : Job) : SystemProg Unit := do
  let existing ← await (.sessionGet job.id)
  match existing with
  | none => await (.commitInsert (jobToModel job))
  | some existing => await (.commitUpdate existing (existing.assign job))

def get (jobId : String) : SystemProg (Option Job) := do
  let model ← await (.selectJob jobId)
  match model with
  | none => return none
  | some model => do
    let job ← Prog.lift (modelToJob model)
    return some job

end SqlAlchemyJobRepository

namespace RedisRecoveryQueue

/-- `{"job_id": job_id, **trace_context}`. -/
def message (jobId : String) (traceContext : Dict String String) : Dict String String :=
  (Dict.empty.set "job_id" jobId).update traceContext

def enqueue (jobId : String) : SystemProg Unit := do
  let traceContext ← await .injectTraceContext
  let _ ← await (.xadd (message jobId traceContext))
  return ()

/-- A trace context without the key leaves the job id in place. -/
theorem message_jobId {jobId : String} {traceContext : Dict String String}
    (h : traceContext.get? "job_id" = none) :
    (message jobId traceContext).get? "job_id" = some jobId := by
  simp [message, h]

end RedisRecoveryQueue

namespace ProcessScrapeRequestUseCase

def applyExtractionResult (job : Job) (result : ExtractionResultDTO) : Except PyError Job :=
  if result.success then .ok (job.markSucceeded result.data)
  else if RecoveryDecisionPolicy.shouldTriggerRecovery result.failureReason then
    .ok job.markRecoveryPending
  else
    match result.failureReason with
    | none => .error .assertionError
    | some failureReason => .ok (job.markFailed failureReason)

/-- `uuid` is the id the new job is given. -/
def execute (uuid url domain : String) (requiredFields : List String) : SystemProg Job := do
  let job := Job.create uuid url domain requiredFields
  SqlAlchemyJobRepository.save job
  let extractionResult ← await (.extract url domain requiredFields)
  let job ← Prog.lift (applyExtractionResult job extractionResult)
  SqlAlchemyJobRepository.save job
  if job.status = .recoveryPending then
    RedisRecoveryQueue.enqueue job.id
  return job

/-- The outcome keeps the identity of the job. -/
theorem applyExtractionResult_identity {job job' : Job} {result : ExtractionResultDTO}
    (h : applyExtractionResult job result = .ok job') :
    job'.id = job.id ∧ job'.url = job.url ∧ job'.domain = job.domain ∧
      job'.requiredFields = job.requiredFields := by
  unfold applyExtractionResult at h
  split at h
  · cases h; exact ⟨rfl, rfl, rfl, rfl⟩
  · split at h
    · cases h; exact ⟨rfl, rfl, rfl, rfl⟩
    · split at h
      · cases h
      · cases h; exact ⟨rfl, rfl, rfl, rfl⟩

/-- A job only succeeds with the data of a successful extraction. -/
theorem applyExtractionResult_success {job job' : Job} {result : ExtractionResultDTO}
    (h : applyExtractionResult job result = .ok job') (hs : job'.status = .success) :
    result.success = true ∧ job'.result = result.data := by
  unfold applyExtractionResult at h
  split at h
  · next hok => cases h; exact ⟨hok, rfl⟩
  · split at h
    · cases h; cases hs
    · split at h
      · cases h
      · cases h; cases hs

end ProcessScrapeRequestUseCase

end Sentinel
