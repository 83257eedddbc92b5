import Sentinel.System.Delivery
import Sentinel.System.Wiring

/-!
# No hollow success

A job ends in success on two paths: the gateway's extraction with the known selectors, and the
live test of a recovery run. Both verdicts are those of the worker's use case, and neither path
loses a field on the way to the row.

* `anyWorker` — a worker of which only the browser is known to do anything
* `extractions_complete`, `recoveries_complete` — the two paths
* `no_hollow_success` — what is stored as a success has every required field, and nothing else
-/

namespace Sentinel

open Lib ExtractDataUseCase RecoveryQueueConsumer

/-- A worker whose calls may be answered anything, but for a browser that reads only fields with a
selector. -/
def anyWorker : (op : WorkerPort.Op) → Unit → Except PyError (WorkerPort.Ans op) → Unit → Prop
  | .extractFields _ selectors, _, .ok data, _ => ∀ k ∈ data.keys, k ∈ selectors.keys
  | _, _, _, _ => True

/-- The Playwright adapter is such a browser, whatever its page does. -/
theorem anyWorker_playwright {S : Type}
    {browser : (op : BrowserPort.Op) → S → Except PyError (BrowserPort.Ans op) → S → Prop}
    {url : String} {selectors : Dict String String} {r : Except PyError (Dict String String)}
    {s s' : S}
    (h : Prog.Evals browser (PlaywrightBrowser.extractFields url selectors) s r s') :
    anyWorker (.extractFields url selectors) () r () := by
  cases r with
  | ok data => exact PlaywrightBrowser.extractFields_keys h
  | error e => trivial

theorem anyWorker_onlyGivenFields : OnlyGivenFields anyWorker :=
  fun _ _ _ _ _ h => h

/-- The extraction service and the graph in front of such a worker. `limit` is the step limit of
the graph and `jsonLoads` the parser of the engine. -/
def workerServices (jsonLoads : String → Except PyError Json) (limit : Nat) : Services where
  extract url domain requiredFields result :=
    Prog.Evals (httpSem anyWorker) (HttpExtractionService.extract url domain requiredFields) ()
      (.ok result) ()
  ainvoke state final :=
    Prog.Evals (recoverySem jsonLoads anyWorker) (ainvoke limit state) () (.ok final) ()

/-- A result with exactly the required fields, all of them filled. -/
def CompleteResult (requiredFields : List String) (result : Json) : Prop :=
  ∃ data, result = .ofDict data ∧ Complete requiredFields data

section Paths

variable {jsonLoads : String → Except PyError Json} {limit : Nat}

/-- The synchronous path. -/
theorem extractions_complete : GoodExtractions (workerServices jsonLoads limit) CompleteResult := by
  intro url domain requiredFields result h hok
  obtain ⟨attempt, hattempt, hsuccess, hdata⟩ := extract_success h hok
  exact ⟨_, hdata,
    success_exact anyWorker_onlyGivenFields (fun _ h => by cases h) hattempt hsuccess⟩

/-- The recovery path: the final state carries the data of the last live test, whose candidates
were proposed for required fields only. -/
theorem recoveries_complete : GoodRecoveries (workerServices jsonLoads limit) CompleteResult := by
  intro job maxAttempts final h hsuccess
  obtain ⟨tr, hruns, hcalls⟩ := h.trace
  have hsettled : Settled job (.ok final) tr := ainvoke_settled hruns
  obtain ⟨selectors, result, ⟨pre, rfl, hok, -, hprop⟩, hdata⟩ := hsettled.2 hsuccess
  obtain ⟨_, _, hlive⟩ := hcalls.mem (List.mem_append_right _ List.mem_cons_self)
  obtain ⟨attempt, hattempt, rfl⟩ := validateSelectors_ok hlive
  obtain ⟨screenshot, history, hmem⟩ := hprop
  obtain ⟨_, _, -, hproposes⟩ := hcalls.mem (List.mem_append_left _ hmem)
  have hcandidates : ∀ candidates, some selectors = some candidates → ∀ k ∈ candidates.keys,
      k ∈ (expectedSchema job.requiredFields).keys := by
    rintro candidates ⟨⟩
    exact hproposes.keys
  have hcomplete := success_exact anyWorker_onlyGivenFields hcandidates hattempt hok
  exact ⟨_, hdata, fun k => (hcomplete.1 k).trans mem_expectedSchema_keys, hcomplete.2⟩

end Paths

/--
**No hollow success.** In every state of every run, with writes that are atomic, a row with
status `success` has a result with exactly the required fields of its job, none of them blank.
-/
theorem no_hollow_success {jsonLoads : String → Except PyError Json} {limit : Nat} {c : SystemPool}
    (h : (systemMachine (workerServices jsonLoads limit) .atomic).Steps Machine.anyStep
      systemInitial c) {jobId : String} {row : JobModel} (hrow : c.state.jobs jobId = some row)
    (hst : row.status = JobStatus.success.value) :
    ∃ data, row.result = .ofDict data ∧ Complete row.requiredFields data := by
  have hsound : (systemMachine (workerServices jsonLoads limit) .atomic).Sound Machine.anyStep
      (discipline _ .atomic CompleteResult False) fun _ => True :=
    system_sound extractions_complete recoveries_complete nofun
  exact (run_ok hsound h).inv.success rfl jobId row hrow hst

/-! ## a request that succeeds at once -/

def hatData : Dict String String := Dict.empty.set "title" "Hat"

/-- The extraction service answers requests for the title of one page, and nothing else. -/
def hatExtract (url domain : String) (requiredFields : List String) :
    Except PyError ExtractionResultDTO :=
  if (url, domain, requiredFields) = ("https://shop.test/1", "shop.test", ["title"]) then
    .ok ⟨true, .ofDict hatData, none⟩
  else .error .httpError

def hatStep (_ : SystemRole) : (op : SystemPort.Op) → SystemState →
    Except PyError (SystemPort.Ans op) × SystemState
  | .extract url domain requiredFields, s => (hatExtract url domain requiredFields, s)
  | .ainvoke _, s => (.error .graphRecursionError, s)
  | op, s => commandStep .atomic (titleReplies (.gateway "7")) op s

/-- With a known selector and a page that has the title, the worker gives that answer. -/
theorem hat_extraction :
    Prog.Evals (httpSem anyWorker)
      (HttpExtractionService.extract "https://shop.test/1" "shop.test" ["title"]) ()
      (.ok ⟨true, .ofDict hatData, none⟩) () := by
  have hvalid : ExtractionValidator.validate ["title"] hatData = ⟨true, none, []⟩ := by decide
  have hattempt : Prog.Evals anyWorker (execute "https://shop.test/1" "shop.test" ["title"] none)
      () (.ok ⟨ExtractionValidator.validate ["title"] hatData, hatData⟩) () := by
    refine Prog.Evals.call (r := .ok (some ⟨"shop.test", "title", "h1", .manual, 1⟩))
      (show anyWorker _ () _ () from trivial) ?_
    exact Prog.Evals.call (r := .ok hatData)
      (show anyWorker (.extractFields _ (Dict.empty.set "title" "h1")) () (.ok hatData) () from
        fun _ h => h) (Prog.Evals.ret _ _)
  rw [hvalid] at hattempt
  exact evals_extract hattempt

/-- Services for the engine's parser that accepts nothing, and LangGraph's default step limit. -/
abbrev hatServices : Services := workerServices (fun _ => .error .jsonDecodeError) 25

theorem hatStep_faulty (i : SystemRole) (op : SystemPort.Op) (s : SystemState) :
    (systemMachine hatServices .atomic).sem i op s (hatStep i op s).1 (hatStep i op s).2 := by
  have hother : ∀ op, (titleReplies (.gateway "7")).Allowed hatServices op →
      withFaults (commandOk hatServices .atomic) op s
        (commandStep .atomic (titleReplies (.gateway "7")) op s).1
        (commandStep .atomic (titleReplies (.gateway "7")) op s).2 := fun _ h => stepFaulty h s
  cases op with
  | extract url domain requiredFields =>
    show withFaults (commandOk hatServices .atomic) (.extract url domain requiredFields) s
      (hatExtract url domain requiredFields) s
    unfold hatExtract
    split
    · next h =>
      cases h
      exact ⟨{ extract := fun _ _ _ => ⟨true, .ofDict hatData, none⟩, ainvoke := id },
        hat_extraction, rfl⟩
    · exact Or.inl rfl
  | ainvoke state => exact Or.inl rfl
  | injectTraceContext => exact hother .injectTraceContext rfl
  | sessionGet jobId => exact hother (.sessionGet jobId) trivial
  | selectJob jobId => exact hother (.selectJob jobId) trivial
  | xadd fields => exact hother (.xadd fields) trivial
  | xack messageId => exact hother (.xack messageId) trivial
  | _ =>
    refine hother _ ?_
    trivial

/-- The title is stored, and it is all there is in the result. -/
theorem no_hollow_success_hat : ∃ data, Json.ofDict hatData = .ofDict data ∧
    Complete ["title"] data := by
  have hrun : (systemMachine hatServices .atomic).Steps Machine.anyStep systemInitial
      (Machine.play hatStep (titleRequest 5) systemInitial) := by
    refine Machine.Steps.play hatStep_faulty (titleRequest 5) systemInitial ?_
    exact ⟨⟨⟨rfl, .request _ _ _ _⟩, trivial⟩, Machine.turnAllowed_anyStep _ _ _, trivial⟩
  exact no_hollow_success hrun
    (show (Machine.play hatStep (titleRequest 5) systemInitial).state.jobs "7" = some _ from rfl)
    rfl

end Sentinel
