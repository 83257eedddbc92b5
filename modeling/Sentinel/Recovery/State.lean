import Sentinel.Shared.Job

/-!
# The state of a recovery run

What the nodes of the recovery graph read and write, the two ports they call, and the way from a
job into a run and back.
-/

namespace Sentinel

open Lib

structure SelectorProposal where
  isConfident : Bool
  selectors : Dict String String := Dict.empty

/-- `success` is only ever tested for truth; `data` is whatever the worker sent. -/
structure WorkerExtractionResult where
  success : Bool
  data : Json := .obj []
  failureReason : Option FailureReason := none

/-- The declared type of an expected field. -/
inductive FieldType
  | str
deriving DecidableEq, Repr

inductive ValidationResult
  | valid
  | invalid
  | pending
deriving DecidableEq, Repr

inductive FinalStatus
  | success
  | needsHumanReview
deriving DecidableEq, Repr

/-- An entry of `rejection_history`, before it is written out. -/
inductive RejectionReason
  | noConfidentProposal (attemptNumber : Int)
  | rejected (attemptNumber : Int) (selectors : Dict String String) (reason : String)

/-- The text of an entry; `repr` writes out a dictionary. -/
def RejectionReason.text (repr : Dict String String → String) : RejectionReason → String
  | noConfidentProposal attemptNumber =>
    "attempt " ++ toString attemptNumber ++ ": no confident proposal from the recovery engine"
  | rejected attemptNumber selectors reason =>
    "attempt " ++ toString attemptNumber ++ ": selectors " ++ repr selectors ++
      " rejected - reason: " ++ reason

/-- `screenshotBase64` and `recoveredData` are what the worker sent, unchecked, and `Json.null`
where the source has `None`. -/
structure RecoveryState where
  jobId : String
  url : String
  domain : String
  expectedSchema : Dict String FieldType
  screenshotBase64 : Json
  attemptNumber : Int
  maxAttempts : Int
  proposedSelectors : Option (Dict String String)
  recoveredData : Json
  rejectionHistory : List RejectionReason
  validationResult : ValidationResult
  finalStatus : Option FinalStatus

/-- The keys a node returns; `none` where it leaves a key out. -/
structure StateUpdate where
  screenshotBase64 : Option Json := none
  attemptNumber : Option Int := none
  proposedSelectors : Option (Option (Dict String String)) := none
  recoveredData : Option Json := none
  rejectionHistory : Option (List RejectionReason) := none
  validationResult : Option ValidationResult := none
  finalStatus : Option FinalStatus := none

/-- The returned keys are written over the state. -/
def RecoveryState.merge (state : RecoveryState) (update : StateUpdate) : RecoveryState :=
  { state with
    screenshotBase64 := update.screenshotBase64.getD state.screenshotBase64
    attemptNumber := update.attemptNumber.getD state.attemptNumber
    proposedSelectors := update.proposedSelectors.getD state.proposedSelectors
    recoveredData := update.recoveredData.getD state.recoveredData
    rejectionHistory := update.rejectionHistory.getD state.rejectionHistory
    validationResult := update.validationResult.getD state.validationResult
    finalStatus := update.finalStatus.or state.finalStatus }

/-! ## ports -/

inductive RecoveryOp
  | captureScreenshot (url : String)
  | validateSelectors (url domain : String) (requiredFields : List String)
      (selectors : Dict String String)
  | saveApprovedSelector (domain fieldName selectorValue : String)
  | proposeSelectors (screenshotBase64 : Json) (expectedSchema : Dict String FieldType)
      (rejectionHistory : List RejectionReason)

/-- `WorkerServicePort` and `RecoveryEnginePort`. -/
abbrev RecoveryPort : Signature where
  Op := RecoveryOp
  Ans
    | .captureScreenshot _ => Json
    | .validateSelectors _ _ _ _ => WorkerExtractionResult
    | .saveApprovedSelector _ _ _ => Unit
    | .proposeSelectors _ _ _ => SelectorProposal

abbrev RecoveryProg := Prog RecoveryPort PyError

namespace RecoveryPort

abbrev captureScreenshot (url : String) : RecoveryProg Json :=
  @Prog.perform RecoveryPort PyError (.captureScreenshot url)

abbrev validateSelectors (url domain : String) (requiredFields : List String)
    (selectors : Dict String String) : RecoveryProg WorkerExtractionResult :=
  @Prog.perform RecoveryPort PyError (.validateSelectors url domain requiredFields selectors)

abbrev saveApprovedSelector (domain fieldName selectorValue : String) : RecoveryProg Unit :=
  @Prog.perform RecoveryPort PyError (.saveApprovedSelector domain fieldName selectorValue)

abbrev proposeSelectors (screenshotBase64 : Json) (expectedSchema : Dict String FieldType)
    (rejectionHistory : List RejectionReason) : RecoveryProg SelectorProposal :=
  @Prog.perform RecoveryPort PyError
    (.proposeSelectors screenshotBase64 expectedSchema rejectionHistory)

end RecoveryPort

/-! ## from a job and back -/

namespace RecoveryQueueConsumer

/-- `dict.fromkeys(job.required_fields, str)`. -/
def expectedSchema (requiredFields : List String) : Dict String FieldType :=
  Dict.fromKeys requiredFields .str

def buildInitialState (job : Job) (maxAttempts : Int) : RecoveryState where
  jobId := job.id
  url := job.url
  domain := job.domain
  expectedSchema := expectedSchema job.requiredFields
  screenshotBase64 := .null
  attemptNumber := 1
  maxAttempts := maxAttempts
  proposedSelectors := none
  recoveredData := .null
  rejectionHistory := []
  validationResult := .pending
  finalStatus := none

/-- The job as it is written back after a run. -/
def finalJob (job : Job) (finalState : RecoveryState) : Job :=
  if finalState.finalStatus = some .success then
    job.markSucceeded finalState.recoveredData
  else
    { id := job.id, url := job.url, domain := job.domain, requiredFields := job.requiredFields
      status := .needsHumanReview }

/-- A job keeps its id through a run. -/
theorem finalJob_id (job : Job) (finalState : RecoveryState) :
    (finalJob job finalState).id = job.id := by
  unfold finalJob
  split <;> rfl

/-- And so does the rest of what identifies it. -/
theorem finalJob_same (job : Job) (finalState : RecoveryState) :
    (finalJob job finalState).id = job.id ∧ (finalJob job finalState).url = job.url ∧
      (finalJob job finalState).domain = job.domain ∧
      (finalJob job finalState).requiredFields = job.requiredFields := by
  unfold finalJob
  split <;> exact ⟨rfl, rfl, rfl, rfl⟩

theorem finalJob_status (job : Job) (finalState : RecoveryState) :
    (finalJob job finalState).status = .success ∨
      (finalJob job finalState).status = .needsHumanReview := by
  unfold finalJob
  split
  · exact Or.inl rfl
  · exact Or.inr rfl

theorem finalJob_success {job : Job} {finalState : RecoveryState}
    (h : (finalJob job finalState).status = .success) :
    finalState.finalStatus = some .success ∧
      (finalJob job finalState).result = finalState.recoveredData := by
  unfold finalJob at h ⊢
  split at h
  · next hs => exact ⟨hs, by rw [if_pos hs]; rfl⟩
  · cases h

end RecoveryQueueConsumer

end Sentinel
