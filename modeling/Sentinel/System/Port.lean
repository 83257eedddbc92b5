import Sentinel.Lib.Stream
import Sentinel.Recovery.State
import Sentinel.Shared.Http

/-!
# What the gateway and the recovery engine call

Both services ask the worker through an adapter of their own. Besides that, they call sessions on
the table `jobs` and commands on the recovery stream while a job is processed, and each has one
call that runs the other half of the system: the extraction service and the compiled graph.

* `HttpExtractionService` — the worker as the gateway sees it: a network failure or an error status
  becomes a failed extraction, and what the decoder of the answer raises is not caught
* `HttpWorkerService` — the worker as the recovery engine sees it: any status but a success is
  raised, and an unknown failure reason counts as a failed extraction
* `SystemPort` — the calls of the gateway and of the recovery consumers
-/

namespace Sentinel

open Lib

/-! ## the worker, for the gateway -/

/-- `success` is only ever tested for truth; `data` is whatever the worker sent. -/
structure ExtractionResultDTO where
  success : Bool
  data : Json := .obj []
  failureReason : Option FailureReason := none

namespace HttpExtractionService

def extractBody (url domain : String) (requiredFields : List String) : Json :=
  .obj [("url", .str url), ("domain", .str domain), ("required_fields", .ofStrList requiredFields)]

def parseResponse (response : HttpResponse) : Except PyError ExtractionResultDTO := do
  let payload ← response.json
  decodeExtraction ExtractionResultDTO.mk payload

/-- The answer to the request, or `none` where `httpx.HTTPError` was caught. -/
def request (url domain : String) (requiredFields : List String) :
    HttpProg (Option HttpResponse) :=
  Prog.handle (do
    let response ← HttpPort.post "/internal/extract" (extractBody url domain requiredFields)
    Prog.lift response.raiseForStatus
    return some response)
    fun e => if e = .httpError then Prog.ret none else Prog.raise e

def extract (url domain : String) (requiredFields : List String) :
    HttpProg ExtractionResultDTO := do
  let response ← request url domain requiredFields
  match response with
  | none => return { success := false, failureReason := some .httpError }
  | some response => Prog.lift (parseResponse response)

end HttpExtractionService

/-! ## the worker, for the recovery engine -/

namespace HttpWorkerService

def extractBody (url domain : String) (requiredFields : List String)
    (selectors : Dict String String) : Json :=
  .obj [("url", .str url), ("domain", .str domain), ("required_fields", .ofStrList requiredFields),
    ("selectors", .ofDict selectors)]

def saveBody (domain fieldName selectorValue : String) : Json :=
  .obj [("domain", .str domain), ("field_name", .str fieldName),
    ("selector_value", .str selectorValue), ("source", .str "ai_generated")]

/-- The result in the payload of an extraction. -/
def parseExtraction (payload : Json) : Except PyError WorkerExtractionResult :=
  decodeExtraction WorkerExtractionResult.mk payload

def captureScreenshot (url : String) : HttpProg Json := do
  let response ← HttpPort.post "/internal/screenshot" (.obj [("url", .str url)])
  Prog.lift response.raiseForStatus
  let payload ← Prog.lift response.json
  Prog.lift (payload.item "screenshot_base64")

def validateSelectors (url domain : String) (requiredFields : List String)
    (selectors : Dict String String) : HttpProg WorkerExtractionResult := do
  let response ← HttpPort.post "/internal/extract" (extractBody url domain requiredFields selectors)
  Prog.lift response.raiseForStatus
  let payload ← Prog.lift response.json
  Prog.lift (parseExtraction payload)

def saveApprovedSelector (domain fieldName selectorValue : String) : HttpProg Unit := do
  let response ← HttpPort.post "/internal/selectors" (saveBody domain fieldName selectorValue)
  Prog.lift response.raiseForStatus

end HttpWorkerService

/-! ## the table, the stream and the graph -/

inductive SystemOp
  /-- `session.get(JobModel, id)`. -/
  | sessionGet (jobId : String)
  /-- `session.commit()` with a new row in the session. -/
  | commitInsert (model : JobModel)
  /-- `session.commit()` after the row `loaded` has been changed to `model`. -/
  | commitUpdate (loaded model : JobModel)
  /-- `SELECT … WHERE id = …`. -/
  | selectJob (jobId : String)
  | extract (url domain : String) (requiredFields : List String)
  /-- `propagate.inject` into an empty carrier. -/
  | injectTraceContext
  | xadd (fields : Dict String String)
  | xgroupCreate
  | xreadgroup (consumerName : String)
  | xautoclaim (consumerName : String) (minIdleTimeMs : Nat)
  | xack (messageId : Nat)
  | ainvoke (state : RecoveryState)

abbrev Message := Entry (Dict String String)

abbrev SystemPort : Signature where
  Op := SystemOp
  Ans
    | .sessionGet _ | .selectJob _ => Option JobModel
    | .commitInsert _ | .commitUpdate _ _ | .xgroupCreate => Unit
    | .extract _ _ _ => ExtractionResultDTO
    | .injectTraceContext => Dict String String
    | .xadd _ | .xack _ => Nat
    | .xreadgroup _ => Option Message
    | .xautoclaim _ _ => Nat × List Message
    | .ainvoke _ => RecoveryState

abbrev SystemProg := Prog SystemPort PyError

/-- Make one call. -/
abbrev await (op : SystemOp) : SystemProg (SystemPort.Ans op) := @Prog.perform SystemPort PyError op

/-- The fields a service writes into a row it has loaded. -/
def JobModel.assign (model : JobModel) (job : Job) : JobModel :=
  { model with
    status := job.status.value
    result := job.result
    failureReason := job.failureReason.map FailureReason.value }

end Sentinel
