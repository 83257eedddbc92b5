import Sentinel.Recovery.Engines
import Sentinel.Recovery.Gate
import Sentinel.System.Port
import Sentinel.Worker.Api

/-!
# Which service answers which call

A request reaches the worker and gets the answer of its application, or fails on the way there or
back. The ports of the recovery graph are the adapters over such requests, and an engine.

* `httpSem`, `recoverySem` — what the calls of a client and of the graph may be answered
* `validateSelectors_ok`, `extract_success` — a verdict that arrives is one of the use case, with
  its data
* `saveApprovedSelector_ok` — a save that is reported back has happened
-/

namespace Sentinel

open Lib

section Wiring

variable {S : Type}

/-- Requests to a worker whose own calls are answered by `worker`. -/
def httpSem (worker : (op : WorkerPort.Op) → S → Except PyError (WorkerPort.Ans op) → S → Prop) :
    (op : HttpPort.Op) → S → Except PyError HttpResponse → S → Prop :=
  withFaults fun
    | .post path json, s, response, s' =>
      Prog.Evals worker (workerApp path json) s (.ok response) s'

/-- The calls of the recovery graph; `jsonLoads` is the JSON parser of the engine. -/
def recoverySem (jsonLoads : String → Except PyError Json)
    (worker : (op : WorkerPort.Op) → S → Except PyError (WorkerPort.Ans op) → S → Prop) :
    (op : RecoveryPort.Op) → S → Except PyError (RecoveryPort.Ans op) → S → Prop
  | .captureScreenshot url, s, r, s' =>
    Prog.Evals (httpSem worker) (HttpWorkerService.captureScreenshot url) s r s'
  | .validateSelectors url domain requiredFields selectors, s, r, s' =>
    Prog.Evals (httpSem worker)
      (HttpWorkerService.validateSelectors url domain requiredFields selectors) s r s'
  | .saveApprovedSelector domain fieldName selectorValue, s, r, s' =>
    Prog.Evals (httpSem worker)
      (HttpWorkerService.saveApprovedSelector domain fieldName selectorValue) s r s'
  | .proposeSelectors _ expectedSchema _, s, r, s' => s' = s ∧ Proposes jsonLoads expectedSchema r

variable {worker : (op : WorkerPort.Op) → S → Except PyError (WorkerPort.Ans op) → S → Prop}
  {jsonLoads : String → Except PyError Json} {s s' : S}

/-! ## what the calls keep -/

/-- What the calls of the worker keep, the requests to it keep. -/
theorem httpSem_preserves {I : S → Prop} (hI : ∀ op s r s', I s → worker op s r s' → I s')
    (op : HttpPort.Op) (s : S) (r : Except PyError HttpResponse) (s' : S) (hs : I s)
    (h : httpSem worker op s r s') : I s' := by
  obtain ⟨path, json⟩ := op
  have happ : ∀ response, Prog.Evals worker (workerApp path json) s (.ok response) s' → I s' :=
    fun _ he => he.preserves hI hs
  cases r with
  | ok response => exact happ response h
  | error e =>
    rcases h with rfl | ⟨response, h⟩
    · exact hs
    · exact happ response h

theorem recoverySem_preserves {I : S → Prop} (hI : ∀ op s r s', I s → worker op s r s' → I s')
    (op : RecoveryPort.Op) (s : S) (r : Except PyError (RecoveryPort.Ans op)) (s' : S) (hs : I s)
    (h : recoverySem jsonLoads worker op s r s') : I s' := by
  cases op with
  | captureScreenshot url => exact Prog.Evals.preserves (httpSem_preserves hI) h hs
  | validateSelectors url domain requiredFields selectors =>
    exact Prog.Evals.preserves (httpSem_preserves hI) h hs
  | saveApprovedSelector domain fieldName selectorValue =>
    exact Prog.Evals.preserves (httpSem_preserves hI) h hs
  | proposeSelectors screenshot expectedSchema history =>
    obtain ⟨rfl, -⟩ := h
    exact hs

/-! ## bodies -/

theorem ofJson_extractBody {url domain : String} {requiredFields : List String}
    {selectors : Dict String String} {body : ExtractRequestBody}
    (h : ExtractRequestBody.ofJson
      (HttpWorkerService.extractBody url domain requiredFields selectors) = some body) :
    body = ⟨url, domain, requiredFields, some selectors⟩ := by
  simp [ExtractRequestBody.ofJson, HttpWorkerService.extractBody, bodyFields, strField,
    Dict.ofList, Json.asStr] at h
  exact h.2.symm

theorem ofJson_gatewayBody {url domain : String} {requiredFields : List String}
    {body : ExtractRequestBody}
    (h : ExtractRequestBody.ofJson
      (HttpExtractionService.extractBody url domain requiredFields) = some body) :
    body = ⟨url, domain, requiredFields, none⟩ := by
  simp [ExtractRequestBody.ofJson, HttpExtractionService.extractBody, bodyFields, strField,
    Dict.ofList, Json.asStr, ExtractRequestBody.selectorsOfJson] at h
  exact h.2.symm

/-- With a required field the bodies of both clients are accepted. -/
theorem ofJson_extractBody_cons (url domain field : String) (fields : List String)
    (selectors : Dict String String) :
    ExtractRequestBody.ofJson
      (HttpWorkerService.extractBody url domain (field :: fields) selectors) =
        some ⟨url, domain, field :: fields, some selectors⟩ := by
  simp [ExtractRequestBody.ofJson, HttpWorkerService.extractBody, bodyFields, strField,
    Dict.ofList, Json.asStr]

theorem ofJson_gatewayBody_cons (url domain field : String) (fields : List String) :
    ExtractRequestBody.ofJson
      (HttpExtractionService.extractBody url domain (field :: fields)) =
        some ⟨url, domain, field :: fields, none⟩ := by
  simp [ExtractRequestBody.ofJson, HttpExtractionService.extractBody, bodyFields, strField,
    Dict.ofList, Json.asStr, ExtractRequestBody.selectorsOfJson]

theorem ofJson_saveBody (domain fieldName selectorValue : String) :
    SaveSelectorRequestBody.ofJson (HttpWorkerService.saveBody domain fieldName selectorValue) =
      some ⟨domain, fieldName, selectorValue, "ai_generated"⟩ := by
  simp [SaveSelectorRequestBody.ofJson, HttpWorkerService.saveBody, bodyFields, strField,
    Dict.ofList, Json.asStr]

/-- The request of a save runs the route. -/
theorem workerApp_saveBody (domain fieldName selectorValue : String) :
    workerApp "/internal/selectors" (HttpWorkerService.saveBody domain fieldName selectorValue) =
      serve 201 (fun _ => .null)
        (saveSelectorRoute ⟨domain, fieldName, selectorValue, "ai_generated"⟩) := by
  unfold workerApp
  rw [if_neg (by decide), if_neg (by decide), if_pos rfl, ofJson_saveBody]
  rfl

/-- The payload of an attempt is decoded as that attempt. -/
theorem decodeExtraction_toJson {R : Type} (mk : Bool → Json → Option FailureReason → R)
    (result : ExtractionAttemptResult) :
    decodeExtraction mk (ExtractResponseBody.fromAttemptResult result).toJson =
      .ok (mk result.outcome.isSuccess (.ofDict result.extractedData)
        result.outcome.failureReason) := by
  have hreason : FailureReason.ofJson (.ofOption
      (result.outcome.failureReason.map FailureReason.value)) =
        .ok result.outcome.failureReason := by
    cases h : result.outcome.failureReason with
    | none => rfl
    | some reason => cases reason <;> rfl
  have hitem : ∀ key v, (Dict.ofList [("success", Json.bool result.outcome.isSuccess),
      ("data", Json.ofDict result.extractedData), ("failure_reason", Json.ofOption
        (result.outcome.failureReason.map FailureReason.value))]).get? key = some v →
      (ExtractResponseBody.fromAttemptResult result).toJson.item key = .ok v := by
    intro key v h
    simp only [ExtractResponseBody.fromAttemptResult, ExtractResponseBody.toJson, Json.item, h]
  exact decodeExtraction_ok mk (hitem "failure_reason" _ (by simp [Dict.ofList])) hreason
    (hitem "success" _ (by simp [Dict.ofList]; rfl)) (hitem "data" _ (by simp [Dict.ofList]; rfl))

/-! ## what an answer that arrives says -/

/-- A request that is answered with success has run its route. -/
theorem extract_post_ok {json : Json} {response : HttpResponse}
    (h : httpSem worker (.post "/internal/extract" json) s (.ok response) s')
    (hok : response.isSuccess = true) : ∃ body result,
      ExtractRequestBody.ofJson json = some body ∧
      Prog.Evals worker (ExtractDataUseCase.execute body.url body.domain body.requiredFields
        body.selectors) s (.ok result) s' ∧
      response.body = some (ExtractResponseBody.fromAttemptResult result).toJson := by
  obtain ⟨response', hout, hresp⟩ := workerApp_extract_success h
  cases hout
  exact hresp hok

theorem raiseForStatus_ok {response : HttpResponse} (h : response.raiseForStatus = .ok ()) :
    response.isSuccess = true := by
  unfold HttpResponse.raiseForStatus at h
  split at h
  · next hok => exact hok
  · cases h

/-- **The verdict on a live test** is that of the use case on these very selectors. -/
theorem validateSelectors_ok {url domain : String} {requiredFields : List String}
    {selectors : Dict String String} {result : WorkerExtractionResult}
    (h : Prog.Evals (httpSem worker)
      (HttpWorkerService.validateSelectors url domain requiredFields selectors) s (.ok result) s') :
    ∃ attempt, Prog.Evals worker (ExtractDataUseCase.execute url domain requiredFields
        (some selectors)) s (.ok attempt) s' ∧
      result = ⟨attempt.outcome.isSuccess, .ofDict attempt.extractedData,
        attempt.outcome.failureReason⟩ := by
  unfold HttpWorkerService.validateSelectors at h
  rw [Prog.evals_bind_ok] at h
  obtain ⟨response, m, hpost, h⟩ := h
  rw [Prog.evals_perform] at hpost
  rw [Prog.evals_bind_ok] at h
  obtain ⟨_, m', hstatus, h⟩ := h
  rw [Prog.evals_lift] at hstatus
  obtain ⟨hstatus, rfl⟩ := hstatus
  rw [Prog.evals_bind_ok] at h
  obtain ⟨payload, m'', hjson, h⟩ := h
  rw [Prog.evals_lift] at hjson h
  obtain ⟨hjson, rfl⟩ := hjson
  obtain ⟨hresult, rfl⟩ := h
  obtain ⟨body, attempt, hbody, hattempt, hresp⟩ :=
    extract_post_ok hpost (raiseForStatus_ok hstatus.symm)
  rw [ofJson_extractBody hbody] at hattempt
  refine ⟨attempt, hattempt, ?_⟩
  unfold HttpResponse.json at hjson
  rw [hresp] at hjson
  cases hjson
  rw [HttpWorkerService.parseExtraction, decodeExtraction_toJson] at hresult
  cases hresult
  rfl

/-- **A save that is reported back** has put the selector into the stores. -/
theorem saveApprovedSelector_ok {domain fieldName selectorValue : String}
    (h : Prog.Evals (httpSem worker)
      (HttpWorkerService.saveApprovedSelector domain fieldName selectorValue) s (.ok ()) s') :
    worker (.saveSelector { domain := domain, fieldName := fieldName
                            selectorValue := selectorValue, source := .aiGenerated })
      s (.ok ()) s' := by
  unfold HttpWorkerService.saveApprovedSelector at h
  rw [Prog.evals_bind_ok] at h
  obtain ⟨response, m, hpost, h⟩ := h
  rw [Prog.evals_perform] at hpost
  rw [Prog.evals_lift] at h
  obtain ⟨hstatus, rfl⟩ := h
  obtain ⟨response', hout, hresp⟩ := workerApp_selectors_success hpost
  cases hout
  obtain ⟨body, hbody, hsave⟩ := hresp (raiseForStatus_ok hstatus.symm)
  rw [ofJson_saveBody] at hbody
  cases hbody
  unfold saveSelectorRoute at hsave
  rw [Prog.evals_perform] at hsave
  exact hsave

/-! ## calls that go through -/

theorem httpSem_ok {path : String} {json : Json} {response : HttpResponse}
    (h : Prog.Evals worker (workerApp path json) s (.ok response) s') :
    httpSem worker (.post path json) s (.ok response) s' := h

/-- A screenshot that was taken is delivered. -/
theorem evals_captureScreenshot {url png : String}
    (h : worker (.captureScreenshot url) s (.ok png) s') :
    Prog.Evals (httpSem worker) (HttpWorkerService.captureScreenshot url) s (.ok (.str png))
      s' := by
  have happ : Prog.Evals worker (workerApp "/internal/screenshot" (.obj [("url", .str url)])) s
      (.ok ⟨200, some (.obj [("screenshot_base64", .str png)])⟩) s' :=
    Prog.Evals.call h (Prog.Evals.ret _ _)
  exact Prog.Evals.call (httpSem_ok happ) (Prog.Evals.ret _ _)

/-- An attempt that was made is reported. -/
theorem workerApp_extract_ok {json : Json} {body : ExtractRequestBody}
    {attempt : ExtractionAttemptResult} (hbody : ExtractRequestBody.ofJson json = some body)
    (h : Prog.Evals worker (ExtractDataUseCase.execute body.url body.domain body.requiredFields
      body.selectors) s (.ok attempt) s') :
    Prog.Evals worker (workerApp "/internal/extract" json) s
      (.ok ⟨200, some (ExtractResponseBody.fromAttemptResult attempt).toJson⟩) s' := by
  unfold workerApp
  rw [if_pos rfl, hbody]
  refine Prog.evals_handle.mpr (Or.inl ⟨_, ?_, rfl⟩)
  refine Prog.evals_bind_ok.mpr ⟨_, s', ?_, Prog.Evals.ret _ _⟩
  exact Prog.evals_bind_ok.mpr ⟨attempt, s', h, Prog.Evals.ret _ _⟩

/-- The verdict of an attempt is delivered, if any field is required at all. -/
theorem evals_validateSelectors {url domain field : String} {fields : List String}
    {selectors : Dict String String} {attempt : ExtractionAttemptResult}
    (h : Prog.Evals worker (ExtractDataUseCase.execute url domain (field :: fields)
      (some selectors)) s (.ok attempt) s') :
    Prog.Evals (httpSem worker)
      (HttpWorkerService.validateSelectors url domain (field :: fields) selectors) s
      (.ok ⟨attempt.outcome.isSuccess, .ofDict attempt.extractedData,
        attempt.outcome.failureReason⟩) s' := by
  have happ := workerApp_extract_ok (ofJson_extractBody_cons url domain field fields selectors) h
  refine Prog.Evals.call (httpSem_ok happ) ?_
  show Prog.Evals (httpSem worker) (Prog.lift (decodeExtraction WorkerExtractionResult.mk
    (ExtractResponseBody.fromAttemptResult attempt).toJson)) s' _ s'
  rw [decodeExtraction_toJson]
  exact Prog.Evals.ret _ _

/-- A save that happened is reported back. -/
theorem evals_saveApprovedSelector {domain fieldName selectorValue : String}
    (h : worker (.saveSelector { domain := domain, fieldName := fieldName
                                 selectorValue := selectorValue, source := .aiGenerated })
      s (.ok ()) s') :
    Prog.Evals (httpSem worker)
      (HttpWorkerService.saveApprovedSelector domain fieldName selectorValue) s (.ok ()) s' := by
  have happ : Prog.Evals worker (workerApp "/internal/selectors"
      (HttpWorkerService.saveBody domain fieldName selectorValue)) s
      (.ok ⟨201, some .null⟩) s' := by
    rw [workerApp_saveBody]
    refine Prog.evals_handle.mpr (Or.inl ⟨_, ?_, rfl⟩)
    exact Prog.evals_bind_ok.mpr ⟨(), s', Prog.evals_perform.mpr h, Prog.Evals.ret _ _⟩
  exact Prog.Evals.call (httpSem_ok happ) (Prog.Evals.ret _ _)

/-- And delivered to the gateway, for the known selectors. -/
theorem evals_extract {url domain field : String} {fields : List String}
    {attempt : ExtractionAttemptResult}
    (h : Prog.Evals worker (ExtractDataUseCase.execute url domain (field :: fields) none) s
      (.ok attempt) s') :
    Prog.Evals (httpSem worker) (HttpExtractionService.extract url domain (field :: fields)) s
      (.ok ⟨attempt.outcome.isSuccess, .ofDict attempt.extractedData,
        attempt.outcome.failureReason⟩) s' := by
  have happ := workerApp_extract_ok (ofJson_gatewayBody_cons url domain field fields) h
  refine Prog.Evals.call (httpSem_ok happ) ?_
  show Prog.Evals (httpSem worker) (Prog.lift (decodeExtraction ExtractionResultDTO.mk
    (ExtractResponseBody.fromAttemptResult attempt).toJson)) s' _ s'
  rw [decodeExtraction_toJson]
  exact Prog.Evals.ret _ _

/-! ## the gateway -/

/-- **The gateway's verdict** is that of the use case with the known selectors. -/
theorem extract_success {url domain : String} {requiredFields : List String}
    {result : ExtractionResultDTO}
    (h : Prog.Evals (httpSem worker) (HttpExtractionService.extract url domain requiredFields) s
      (.ok result) s') (hok : result.success = true) :
    ∃ attempt, Prog.Evals worker (ExtractDataUseCase.execute url domain requiredFields none)
        s (.ok attempt) s' ∧
      attempt.outcome.isSuccess = true ∧ result.data = .ofDict attempt.extractedData := by
  unfold HttpExtractionService.extract at h
  rw [Prog.evals_bind_ok] at h
  obtain ⟨response, m, hreq, h⟩ := h
  cases response with
  | none =>
    change Prog.Evals (httpSem worker) (Prog.ret _) _ _ _ at h
    rw [Prog.evals_ret] at h
    cases h.1
    cases hok
  | some response =>
    change Prog.Evals (httpSem worker) (Prog.lift _) _ _ _ at h
    rw [Prog.evals_lift] at h
    obtain ⟨hparse, rfl⟩ := h
    -- what was not caught has returned
    unfold HttpExtractionService.request at hreq
    rw [Prog.evals_handle] at hreq
    rcases hreq with ⟨a, hreq, ha⟩ | ⟨e, m', -, hcaught⟩
    · cases ha
      rw [Prog.evals_bind_ok] at hreq
      obtain ⟨response', m', hpost, hreq⟩ := hreq
      rw [Prog.evals_perform] at hpost
      rw [Prog.evals_bind_ok] at hreq
      obtain ⟨_, m'', hstatus, hreq⟩ := hreq
      rw [Prog.evals_lift] at hstatus
      obtain ⟨hstatus, rfl⟩ := hstatus
      rw [Prog.pure_eq, Prog.evals_ret] at hreq
      obtain ⟨hr, rfl⟩ := hreq
      cases hr
      obtain ⟨body, attempt, hbody, hattempt, hresp⟩ :=
        extract_post_ok hpost (raiseForStatus_ok hstatus.symm)
      rw [ofJson_gatewayBody hbody] at hattempt
      unfold HttpExtractionService.parseResponse HttpResponse.json at hparse
      rw [hresp] at hparse
      change Except.ok result = decodeExtraction ExtractionResultDTO.mk
        (ExtractResponseBody.fromAttemptResult attempt).toJson at hparse
      rw [decodeExtraction_toJson] at hparse
      cases hparse
      exact ⟨attempt, hattempt, hok, rfl⟩
    · split at hcaught
      · rw [Prog.evals_ret] at hcaught
        cases hcaught.1
      · rw [Prog.evals_raise] at hcaught
        cases hcaught.1

end Wiring

end Sentinel
