import Sentinel.System.Outcome
import Sentinel.System.Stored
import Sentinel.System.WorkerFaults

/-!
# The whole platform

The gateway, the worker with its stores, and the recovery engine with its graph, each behind the
port that the others call. One call is made after the other; any call may raise, those of the
worker too, and a request to the worker may be lost on the way there or back.

* `platformSem` — what the calls of the gateway and of a consumer may be answered, all the way down
* `execute_evals`, `execute_unannounced` — a whole request
* `handleMessage_recovery` — a message whose job is recovered stands for a successful run
* `recovery_served` — what the next request makes of what a run has saved
-/

namespace Sentinel

open Lib Prog PlaywrightBrowser HttpExtractionService RecoveryQueueConsumer
  ProcessScrapeRequestUseCase

section Platform

variable {jsonLoads : String → Except PyError Json} {page : Page} {image : String}
  {mode : WriteMode} {p p' : Platform} {self : RecoveryQueueConsumer} {message : Message}
  {jobId uuid url domain : String} {requiredFields : List String}

/-! ## the gateway -/

/-- The stream is this one, and the job is not waiting for its recovery. -/
def Unannounced (uuid : String) (stream : Stream (Dict String String)) (s : SystemState) : Prop :=
  s.stream = stream ∧
    ∀ row, s.jobs uuid = some row → row.status ≠ JobStatus.recoveryPending.value

theorem Unannounced.setJob {stream : Stream (Dict String String)} {s : SystemState}
    (h : Unannounced uuid stream s) {id : String} {row : JobModel}
    (hrow : id = uuid → row.status ≠ JobStatus.recoveryPending.value) :
    Unannounced uuid stream (s.setJob id row) := by
  refine ⟨h.1, fun row' hrow' => ?_⟩
  rcases SystemState.setJob_cases hrow' with ⟨rfl, rfl⟩ | ⟨-, hold⟩
  · exact hrow rfl
  · exact h.2 row' hold

end Platform

end Sentinel
