import Sentinel.System.Healing

/-!
# A worker with nobody else around

The recovery graph, the worker and its stores by themselves, with no message lost on the way: what
a call answers is a function of the state. The browser and the engine are machines of any kind.

* `siteCall`, `sitePost`, `recoveryStep` — what the calls of the worker, of its client and of the
  graph answer and do
* `exec_saveApprovedSelector` — a save of the graph appends to the history
-/

namespace Sentinel

open Lib Prog

/-- A browser with states `B`; a page may change with every call, and any call may raise. -/
abbrev Browser (B : Type) := (op : BrowserPort.Op) → B → Except PyError (BrowserPort.Ans op) × B

/-- A recovery engine with states `E`. -/
abbrev Engine (E : Type) := Json → Dict String FieldType → List RejectionReason → E →
  Except PyError SelectorProposal × E

structure Site (B : Type) where
  store : SelectorStore
  browser : B

section Steps

variable {B E α : Type} (browser : Browser B)

def Site.onStore (p : SelectorProg α) (s : Site B) : Except PyError α × Site B :=
  ((p.exec storeStep s.store).1, { s with store := (p.exec storeStep s.store).2 })

def Site.onBrowser (p : BrowserProg α) (s : Site B) : Except PyError α × Site B :=
  ((p.exec browser s.browser).1, { s with browser := (p.exec browser s.browser).2 })

/-- A call of the worker on the repository or on the browser. -/
def siteCall : (op : WorkerPort.Op) → Site B → Except PyError (WorkerPort.Ans op) × Site B
  | .getActiveSelector domain fieldName, s => s.onStore (getActiveSelector domain fieldName)
  | .saveSelector selector, s => s.onStore (saveSelector selector)
  | .extractFields url selectors, s =>
    s.onBrowser browser (PlaywrightBrowser.extractFields url selectors)
  | .captureScreenshot url, s => s.onBrowser browser (PlaywrightBrowser.captureScreenshot url)

/-- A request to the worker. -/
def sitePost : (op : HttpPort.Op) → Site B → Except PyError HttpResponse × Site B
  | .post path json, s => (workerApp path json).exec (siteCall browser) s

def onWorker (p : HttpProg α) (s : Site B × E) : Except PyError α × Site B × E :=
  ((p.exec (sitePost browser) s.1).1, (p.exec (sitePost browser) s.1).2, s.2)

/-- A call of the graph on the worker or on the engine. -/
def recoveryStep (engine : Engine E) : (op : RecoveryPort.Op) → Site B × E →
    Except PyError (RecoveryPort.Ans op) × Site B × E
  | .captureScreenshot url, s => onWorker browser (HttpWorkerService.captureScreenshot url) s
  | .validateSelectors url domain requiredFields selectors, s =>
    onWorker browser (HttpWorkerService.validateSelectors url domain requiredFields selectors) s
  | .saveApprovedSelector domain fieldName selectorValue, s =>
    onWorker browser (HttpWorkerService.saveApprovedSelector domain fieldName selectorValue) s
  | .proposeSelectors screenshot expectedSchema history, s =>
    ((engine screenshot expectedSchema history s.2).1, s.1,
      (engine screenshot expectedSchema history s.2).2)

end Steps

section Saves

variable {B : Type} (browser : Browser B) {s : Site B} {H : SelectorHistory}

/-- A save of the graph succeeds and appends to the history. -/
theorem exec_saveApprovedSelector (h : Represents s.store H)
    (domain fieldName selectorValue : String) : ∃ s' : Site B,
    (HttpWorkerService.saveApprovedSelector domain fieldName selectorValue).exec
      (sitePost browser) s = (.ok (), s') ∧
    s'.browser = s.browser ∧
    Represents s'.store (H.record (domain, fieldName) (selectorValue, .aiGenerated)) := by
  obtain ⟨m, hexec, hrep⟩ :=
    save_represents h ⟨domain, fieldName, selectorValue, .aiGenerated, 1⟩
  have hroute : (saveSelectorRoute ⟨domain, fieldName, selectorValue, "ai_generated"⟩).exec
      (siteCall browser) s = (.ok (), { s with store := m }) := by
    refine (exec_perform (siteCall browser)
      (.saveSelector ⟨domain, fieldName, selectorValue, .aiGenerated, 1⟩) s).trans ?_
    show s.onStore (saveSelector _) = _
    rw [Site.onStore, hexec]
  have hpost : sitePost browser (.post "/internal/selectors"
      (HttpWorkerService.saveBody domain fieldName selectorValue)) s =
        (.ok ⟨201, some .null⟩, { s with store := m }) := by
    show (workerApp _ _).exec (siteCall browser) s = _
    rw [workerApp_saveBody, serve, exec_handle, exec_bind_ok _ hroute]
    rfl
  refine ⟨{ s with store := m }, ?_, rfl, hrep⟩
  unfold HttpWorkerService.saveApprovedSelector
  rw [exec_perform_bind (sitePost browser) hpost]
  rfl

end Saves

end Sentinel
