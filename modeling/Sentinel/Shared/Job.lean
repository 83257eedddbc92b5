import Sentinel.Shared.Json

/-!
# Jobs

The job entity and its life cycle as both services see it, and the row of the table `jobs` in
which the two of them store it. A row keeps the enumerations as text, so reading it back may
fail; `modelToJob_jobToModel` says that it does not fail on a row that was written from a job.
-/

namespace Sentinel

/-- Why an extraction failed. The first two can be repaired by a new selector. -/
inductive FailureReason
  | missingRequiredField
  | emptyRequiredField
  | navigationError
  | httpError
deriving DecidableEq, Repr

inductive JobStatus
  | pending
  | recoveryPending
  | recovering
  | success
  | failed
  | needsHumanReview
deriving DecidableEq, Repr

namespace FailureReason

def value : FailureReason → String
  | missingRequiredField => "missing_required_field"
  | emptyRequiredField => "empty_required_field"
  | navigationError => "navigation_error"
  | httpError => "http_error"

/-- `FailureReason(value)`. -/
def ofValue (s : String) : Except PyError FailureReason :=
  match [missingRequiredField, emptyRequiredField, navigationError, httpError].find?
    (·.value == s) with
  | some r => .ok r
  | none => .error (.valueError s)

@[simp] theorem ofValue_value (r : FailureReason) : ofValue r.value = .ok r := by
  cases r <;> rfl

/-- No reason has an empty text, so the truth test on a stored reason drops none. -/
theorem value_ne_empty (r : FailureReason) : r.value ≠ "" := by
  cases r <;> decide

/-- `FailureReason(raw) if raw else None` on a parsed JSON value. -/
def ofJson (raw : Json) : Except PyError (Option FailureReason) :=
  if raw.truthy then
    match raw with
    | .str s => (ofValue s).map some
    | _ => .error (.valueError "not a valid FailureReason")
  else .ok none

/-- No reason is read exactly from what is not true. -/
theorem ofJson_eq_none {raw : Json} : ofJson raw = .ok none ↔ raw.truthy = false := by
  unfold ofJson
  split
  · next h =>
    split
    · next s => cases ofValue s <;> simp [Except.map, h]
    · simp [h]
  · next h => simpa using h

end FailureReason

namespace JobStatus

def value : JobStatus → String
  | pending => "pending"
  | recoveryPending => "recovery_pending"
  | recovering => "recovering"
  | success => "success"
  | failed => "failed"
  | needsHumanReview => "needs_human_review"

/-- `JobStatus(value)`. -/
def ofValue (s : String) : Except PyError JobStatus :=
  match [pending, recoveryPending, recovering, success, failed, needsHumanReview].find?
    (·.value == s) with
  | some st => .ok st
  | none => .error (.valueError s)

@[simp] theorem ofValue_value (st : JobStatus) : ofValue st.value = .ok st := by
  cases st <;> rfl

theorem value_injective : Function.Injective value := by
  intro a b h
  have hb : ofValue a.value = ofValue b.value := by rw [h]
  simpa using hb

@[simp] theorem value_inj {a b : JobStatus} : a.value = b.value ↔ a = b := value_injective.eq_iff

end JobStatus

/-- `result` is `Json.null` where the source has `None`. -/
structure Job where
  id : String
  url : String
  domain : String
  requiredFields : List String
  status : JobStatus
  result : Json := .null
  failureReason : Option FailureReason := none
deriving DecidableEq

namespace Job

/-- The fresh identifier `str(uuid4())` is an argument. -/
def create (uuid url domain : String) (requiredFields : List String) : Job where
  id := uuid
  url := url
  domain := domain
  requiredFields := requiredFields
  status := .pending

def markSucceeded (job : Job) (result : Json) : Job :=
  { job with status := .success, result := result }

def markRecoveryPending (job : Job) : Job :=
  { job with status := .recoveryPending }

def markFailed (job : Job) (failureReason : FailureReason) : Job :=
  { job with status := .failed, failureReason := some failureReason }

end Job

/-- A row of the table `jobs`. -/
structure JobModel where
  id : String
  url : String
  domain : String
  requiredFields : List String
  status : String
  result : Json
  failureReason : Option String
deriving DecidableEq

def jobToModel (job : Job) : JobModel where
  id := job.id
  url := job.url
  domain := job.domain
  requiredFields := job.requiredFields
  status := job.status.value
  result := job.result
  failureReason := job.failureReason.map FailureReason.value

/-- `FailureReason(text) if text else None` on a stored reason. -/
def failureReasonOfModel : Option String → Except PyError (Option FailureReason)
  | none => .ok none
  | some s => if s = "" then .ok none else (FailureReason.ofValue s).map some

def modelToJob (model : JobModel) : Except PyError Job := do
  let status ← JobStatus.ofValue model.status
  let failureReason ← failureReasonOfModel model.failureReason
  return {
    id := model.id
    url := model.url
    domain := model.domain
    requiredFields := model.requiredFields
    status := status
    result := model.result
    failureReason := failureReason }

theorem failureReasonOfModel_value (r : Option FailureReason) :
    failureReasonOfModel (r.map FailureReason.value) = .ok r := by
  cases r with
  | none => rfl
  | some r =>
    simp only [Option.map_some, failureReasonOfModel, if_neg r.value_ne_empty,
      FailureReason.ofValue_value]
    rfl

/-- A row written from a job is read back as that job. -/
@[simp] theorem modelToJob_jobToModel (job : Job) : modelToJob (jobToModel job) = .ok job := by
  unfold modelToJob
  simp only [jobToModel, JobStatus.ofValue_value, failureReasonOfModel_value]
  rfl

/-- What a row that can be read says about the job. -/
theorem modelToJob_ok {model : JobModel} {job : Job} (h : modelToJob model = .ok job) :
    job.id = model.id ∧ job.url = model.url ∧ job.domain = model.domain ∧
      job.requiredFields = model.requiredFields ∧ job.result = model.result := by
  unfold modelToJob at h
  cases hst : JobStatus.ofValue model.status with
  | error e => rw [hst] at h; cases h
  | ok st =>
    cases hfr : failureReasonOfModel model.failureReason with
    | error e => rw [hst, hfr] at h; cases h
    | ok fr =>
      rw [hst, hfr] at h
      cases h
      exact ⟨rfl, rfl, rfl, rfl, rfl⟩

/-- A row without a reason is read as a job without one. -/
theorem modelToJob_failureReason {model : JobModel} {job : Job} (h : modelToJob model = .ok job)
    (hnone : model.failureReason = none) : job.failureReason = none := by
  unfold modelToJob at h
  cases hst : JobStatus.ofValue model.status with
  | error e => rw [hst] at h; cases h
  | ok st =>
    rw [hst, hnone] at h
    cases h
    rfl

end Sentinel
