import Sentinel.Lib.Lockstep
import Sentinel.Shared.JsonGrammar
import Sentinel.System.Wiring

/-!
# The bodies between the services, as they are sent

A client writes the text of a document, the worker parses it, and the other way round for the
answer; how the client writes it depends on the release of httpx. Nothing a service says is changed
or refused on the way, so the calls of the recovery graph and of the gateway come to the same ends
as with documents for bodies.

* `TextWorkerService`, `TextExtractionService` — the adapters over texts
* `textWorker` — the worker behind them
* `workerApp_sendable` — what the worker answers can be written and read back
* `bodies_cross` — **a call over texts has the outcomes of the call over documents**
-/

namespace Sentinel

open Lib

structure TextResponse where
  status : Nat
  content : String

namespace TextResponse

def raiseForStatus (response : TextResponse) : Except PyError Unit :=
  HttpResponse.raiseForStatus { status := response.status }

def json (J : JsonModule) (response : TextResponse) : Except PyError Json :=
  J.loads response.content

end TextResponse

inductive TextHttpOp
  | post (path : String) (content : String)

abbrev TextHttpPort : Signature where
  Op := TextHttpOp
  Ans := fun _ => TextResponse

abbrev TextHttpProg := Prog TextHttpPort PyError

/-- The releases of httpx that the services may run with. -/
inductive Httpx
  /-- Before 0.28: a request is written as `json.dumps` writes by itself. -/
  | spaced
  /-- From 0.28 on: as FastAPI writes a response. -/
  | compact

def Httpx.encoder : Httpx → (Rat → List Char) → Json.Encoder
  | spaced => .default
  | compact => .compact

/-- The body of a request. -/
def Httpx.content (httpx : Httpx) (J : JsonModule) (json : Json) : String :=
  dumps (httpx.encoder J.reprFloat) json

theorem Httpx.loads_content (httpx : Httpx) (J : JsonModule) {json : Json}
    (h : Json.fits 2 json = true) : J.loads (httpx.content J json) = .ok json := by
  cases httpx with
  | spaced => exact J.loads_dumps h
  | compact => exact J.loads_render h

/-- `client.post(path, json=json)`. -/
abbrev TextHttpPort.post (J : JsonModule) (httpx : Httpx) (path : String) (json : Json) :
    TextHttpProg TextResponse :=
  @Prog.perform TextHttpPort PyError (.post path (httpx.content J json))

/-! ## the clients -/

namespace TextWorkerService

variable (J : JsonModule) (httpx : Httpx)

def captureScreenshot (url : String) : TextHttpProg Json := do
  let response ← TextHttpPort.post J httpx "/internal/screenshot" (.obj [("url", .str url)])
  Prog.lift response.raiseForStatus
  let payload ← Prog.lift (response.json J)
  Prog.lift (payload.item "screenshot_base64")

def validateSelectors (url domain : String) (requiredFields : List String)
    (selectors : Dict String String) : TextHttpProg WorkerExtractionResult := do
  let response ← TextHttpPort.post J httpx "/internal/extract"
    (HttpWorkerService.extractBody url domain requiredFields selectors)
  Prog.lift response.raiseForStatus
  let payload ← Prog.lift (response.json J)
  Prog.lift (HttpWorkerService.parseExtraction payload)

def saveApprovedSelector (domain fieldName selectorValue : String) : TextHttpProg Unit := do
  let response ← TextHttpPort.post J httpx "/internal/selectors"
    (HttpWorkerService.saveBody domain fieldName selectorValue)
  Prog.lift response.raiseForStatus

end TextWorkerService

namespace TextExtractionService

variable (J : JsonModule) (httpx : Httpx)

def parseResponse (response : TextResponse) : Except PyError ExtractionResultDTO := do
  let payload ← response.json J
  decodeExtraction ExtractionResultDTO.mk payload

def request (url domain : String) (requiredFields : List String) :
    TextHttpProg (Option TextResponse) :=
  Prog.handle (do
    let response ← TextHttpPort.post J httpx "/internal/extract"
      (HttpExtractionService.extractBody url domain requiredFields)
    Prog.lift response.raiseForStatus
    return some response)
    fun e => if e = .httpError then Prog.ret none else Prog.raise e

def extract (url domain : String) (requiredFields : List String) :
    TextHttpProg ExtractionResultDTO := do
  let response ← request J httpx url domain requiredFields
  match response with
  | none => return { success := false, failureReason := some .httpError }
  | some response => Prog.lift (parseResponse J response)

end TextExtractionService

/-! ## the worker -/

/-- A response as it is sent. What stands in one without a document is not read. -/
def Rendered (J : JsonModule) (answer : HttpResponse) (response : TextResponse) : Prop :=
  response.status = answer.status ∧
    ∀ payload, answer.body = some payload → response.content = J.render payload

section Wire

variable {S : Type} (J : JsonModule) (httpx : Httpx) (jsonLoads : String → Except PyError Json)
  (worker : (op : WorkerPort.Op) → S → Except PyError (WorkerPort.Ans op) → S → Prop)

/-- Requests as texts. A body that is not parsed is refused before any route runs. -/
def textWorker : (op : TextHttpPort.Op) → S → Except PyError TextResponse → S → Prop :=
  withFaults fun
    | .post path content, s, response, s' =>
      match J.loads content with
      | .ok json => ∃ answer, Prog.Evals worker (workerApp path json) s (.ok answer) s' ∧
          Rendered J answer response
      | .error _ => s' = s ∧ response.status ∈ [400, 404, 422]

/-- The calls of the recovery graph, with texts for bodies. -/
def recoveryTextSem : (op : RecoveryPort.Op) → S → Except PyError (RecoveryPort.Ans op) → S → Prop
  | .captureScreenshot url, s, r, s' =>
    Prog.Evals (textWorker J worker) (TextWorkerService.captureScreenshot J httpx url) s r s'
  | .validateSelectors url domain requiredFields selectors, s, r, s' =>
    Prog.Evals (textWorker J worker)
      (TextWorkerService.validateSelectors J httpx url domain requiredFields selectors) s r s'
  | .saveApprovedSelector domain fieldName selectorValue, s, r, s' =>
    Prog.Evals (textWorker J worker)
      (TextWorkerService.saveApprovedSelector J httpx domain fieldName selectorValue) s r s'
  | .proposeSelectors _ expectedSchema _, s, r, s' => s' = s ∧ Proposes jsonLoads expectedSchema r

end Wire

/-! ## what is sent can be read -/

section Bodies

open Json

theorem fits_ofOption (d : Nat) (x : Option String) : fits d (.ofOption x) = true := by
  cases x <;> simp [Json.ofOption, fits]

theorem fits_ofDict (d : Nat) (x : Dict String String) : fits (d + 1) (.ofDict x) = true := by
  show fitFields d (x.entries.map fun e => (e.1, str e.2)) = true
  induction x.entries with
  | nil => rfl
  | cons e l ih => simpa [fitFields, fits] using ih

theorem fits_ofStrList (d : Nat) (l : List String) : fits (d + 1) (.ofStrList l) = true := by
  show fitItems d (l.map str) = true
  induction l with
  | nil => rfl
  | cons s l ih => simpa [fitItems, fits] using ih

theorem fits_toJson (body : ExtractResponseBody) : fits 2 body.toJson = true := by
  simp [ExtractResponseBody.toJson, fits, fitFields, fits_ofDict, fits_ofOption]

/-- A document the worker answers can be written, and a success has one. -/
structure Sendable (answer : HttpResponse) : Prop where
  fits : ∀ payload ∈ answer.body, fits 2 payload = true
  body : answer.isSuccess = true → ∃ payload, answer.body = some payload

variable {S : Type}
  {worker : (op : WorkerPort.Op) → S → Except PyError (WorkerPort.Ans op) → S → Prop} {s s' : S}

theorem sendable_status {status : Nat} (h : HttpResponse.isSuccess { status } = false) :
    Sendable { status } :=
  ⟨nofun, fun hs => by rw [h] at hs; cases hs⟩

theorem serve_sendable {α : Type} {status : Nat} {render : α → Json} {route : WorkerProg α}
    {answer : HttpResponse} (hrender : ∀ a, Json.fits 2 (render a) = true)
    (h : Prog.Evals worker (serve status render route) s (.ok answer) s') : Sendable answer := by
  unfold serve at h
  rw [Prog.evals_handle] at h
  rcases h with ⟨response, h, ⟨⟩⟩ | ⟨e, m, -, h⟩
  · rw [Prog.evals_bind_ok] at h
    obtain ⟨a, m, -, h⟩ := h
    obtain ⟨rfl, rfl⟩ := Prog.evals_ret_ok.mp h
    refine ⟨?_, fun _ => ⟨_, rfl⟩⟩
    rintro _ ⟨⟩
    exact hrender a
  · obtain ⟨rfl, rfl⟩ := Prog.evals_ret_ok.mp h
    exact sendable_status rfl

theorem withBody_sendable {α β : Type} {body : Option β} {status : Nat} {render : α → Json}
    {route : β → WorkerProg α} {answer : HttpResponse}
    (hrender : ∀ a, Json.fits 2 (render a) = true)
    (h : Prog.Evals worker (withBody body fun b => serve status render (route b)) s (.ok answer)
      s') : Sendable answer := by
  cases body with
  | none =>
    obtain ⟨rfl, rfl⟩ := Prog.evals_ret_ok.mp h
    exact sendable_status rfl
  | some b => exact serve_sendable hrender h

/-- **The worker answers documents of two levels.** -/
theorem workerApp_sendable {path : String} {json : Json} {answer : HttpResponse}
    (h : Prog.Evals worker (workerApp path json) s (.ok answer) s') : Sendable answer := by
  unfold workerApp at h
  split at h
  · exact withBody_sendable fits_toJson h
  · split at h
    · exact withBody_sendable (fun _ => by simp [Json.fits, fitFields]) h
    · split at h
      · exact withBody_sendable (fun _ => rfl) h
      · obtain ⟨rfl, rfl⟩ := Prog.evals_ret_ok.mp h
        exact sendable_status rfl

end Bodies

/-! ## in step -/

/-- A response that can be used and the answer it stands for. -/
def Carries (J : JsonModule) (response : TextResponse) (answer : HttpResponse) : Prop :=
  ∃ payload, answer.body = some payload ∧ response.json J = .ok payload

def wireLink (J : JsonModule) (httpx : Httpx) : Link TextHttpPort HttpPort PyError where
  ops
    | .post path content, .post path' json =>
      path = path' ∧ content = httpx.content J json ∧ Json.fits 2 json = true
  answers _ _ := Agree fun (response : TextResponse) (answer : HttpResponse) =>
    response.status = answer.status ∧ (answer.isSuccess = true → Carries J response answer)

section Lockstep

variable {J : JsonModule} {httpx : Httpx} {α β : Type}

/-- Where no status is raised there is a document. -/
theorem raiseForStatus_lockstep {response : TextResponse} {answer : HttpResponse}
    (hstatus : response.status = answer.status)
    (h : answer.isSuccess = true → Carries J response answer) :
    (Prog.lift response.raiseForStatus : TextHttpProg Unit).Lockstep (wireLink J httpx)
      (fun _ _ => Carries J response answer) (Prog.lift answer.raiseForStatus) := by
  have hsuccess : (HttpResponse.mk response.status none).isSuccess = answer.isSuccess := by
    simp only [HttpResponse.isSuccess, hstatus]
  unfold TextResponse.raiseForStatus HttpResponse.raiseForStatus
  rw [hsuccess]
  split
  · next hs => exact h hs
  · rfl

theorem post_lockstep {Q : α → β → Prop} (path : String) {json : Json}
    (hjson : Json.fits 2 json = true) {k : TextResponse → TextHttpProg α}
    {k' : HttpResponse → HttpProg β}
    (hk : ∀ response answer, response.status = answer.status →
      (answer.isSuccess = true → Carries J response answer) →
      (k response).Lockstep (wireLink J httpx) Q (k' answer)) :
    (TextHttpPort.post J httpx path json >>= k).Lockstep (wireLink J httpx) Q
      (HttpPort.post path json >>= k') := by
  refine Prog.Lockstep.bind (Prog.Lockstep.perform ⟨rfl, rfl, hjson⟩ fun _ _ h => h) ?_
  rintro response answer ⟨hstatus, hcarries⟩
  exact hk response answer hstatus hcarries

theorem payload_lockstep {Q : α → β → Prop} {response : TextResponse} {answer : HttpResponse}
    (h : Carries J response answer) {k : Json → TextHttpProg α} {k' : Json → HttpProg β}
    (hk : ∀ payload, (k payload).Lockstep (wireLink J httpx) Q (k' payload)) :
    (Prog.lift (response.json J) >>= k).Lockstep (wireLink J httpx) Q
      (Prog.lift answer.json >>= k') := by
  obtain ⟨payload, hbody, hjson⟩ := h
  have hanswer : answer.json = .ok payload := by
    unfold HttpResponse.json
    rw [hbody]
  rw [hjson, hanswer]
  exact hk payload

theorem lift_lockstep (x : Except PyError α) :
    (Prog.lift x : TextHttpProg α).Lockstep (wireLink J httpx) Eq (Prog.lift x) := by
  cases x with
  | ok a => exact rfl
  | error e => exact rfl

theorem captureScreenshot_lockstep (url : String) :
    (TextWorkerService.captureScreenshot J httpx url).Lockstep (wireLink J httpx) Eq
      (HttpWorkerService.captureScreenshot url) :=
  post_lockstep _ (by simp [Json.fits, Json.fitFields]) fun _ _ hstatus h =>
    (raiseForStatus_lockstep hstatus h).bind fun _ _ h =>
      payload_lockstep h fun _ => lift_lockstep _

theorem fits_extractBody (url domain : String) (requiredFields : List String)
    (selectors : Dict String String) : Json.fits 2
      (HttpWorkerService.extractBody url domain requiredFields selectors) = true := by
  simp [HttpWorkerService.extractBody, Json.fits, Json.fitFields, fits_ofDict, fits_ofStrList]

theorem validateSelectors_lockstep (url domain : String) (requiredFields : List String)
    (selectors : Dict String String) :
    (TextWorkerService.validateSelectors J httpx url domain requiredFields selectors).Lockstep
      (wireLink J httpx) Eq
      (HttpWorkerService.validateSelectors url domain requiredFields selectors) :=
  post_lockstep _ (fits_extractBody _ _ _ _) fun _ _ hstatus h =>
    (raiseForStatus_lockstep hstatus h).bind fun _ _ h =>
      payload_lockstep h fun _ => lift_lockstep _

theorem saveApprovedSelector_lockstep (domain fieldName selectorValue : String) :
    (TextWorkerService.saveApprovedSelector J httpx domain fieldName selectorValue).Lockstep
      (wireLink J httpx) Eq
      (HttpWorkerService.saveApprovedSelector domain fieldName selectorValue) := by
  refine post_lockstep _ ?_ fun _ _ hstatus h =>
    (raiseForStatus_lockstep hstatus h).mono fun _ _ _ => rfl
  simp [HttpWorkerService.saveBody, Json.fits, Json.fitFields]

theorem request_lockstep (url domain : String) (requiredFields : List String) :
    (TextExtractionService.request J httpx url domain requiredFields).Lockstep (wireLink J httpx)
      (fun response answer => response = none ∧ answer = none ∨
        ∃ r a, response = some r ∧ answer = some a ∧ Carries J r a)
      (HttpExtractionService.request url domain requiredFields) := by
  have hbody :
      Json.fits 2 (HttpExtractionService.extractBody url domain requiredFields) = true := by
    simp [HttpExtractionService.extractBody, Json.fits, Json.fitFields, fits_ofStrList]
  refine Prog.Lockstep.handle (post_lockstep _ hbody fun r a hstatus h => ?_) fun e => ?_
  · exact (raiseForStatus_lockstep hstatus h).bind fun _ _ h => Or.inr ⟨r, a, rfl, rfl, h⟩
  · split
    · exact Or.inl ⟨rfl, rfl⟩
    · rfl

theorem extract_lockstep (url domain : String) (requiredFields : List String) :
    (TextExtractionService.extract J httpx url domain requiredFields).Lockstep (wireLink J httpx) Eq
      (HttpExtractionService.extract url domain requiredFields) := by
  refine Prog.Lockstep.bind (request_lockstep url domain requiredFields) ?_
  rintro _ _ (⟨rfl, rfl⟩ | ⟨r, a, rfl, rfl, payload, hbody, hjson⟩)
  · exact rfl
  · have hparse :
        TextExtractionService.parseResponse J r = HttpExtractionService.parseResponse a := by
      unfold TextExtractionService.parseResponse HttpExtractionService.parseResponse
        HttpResponse.json
      rw [hjson, hbody]
    show Prog.Lockstep _ _ (Prog.lift (TextExtractionService.parseResponse J r)) _
    rw [hparse]
    exact lift_lockstep _

end Lockstep

/-! ## the same outcomes -/

section Transparency

variable {S : Type} {J : JsonModule} {httpx : Httpx} {jsonLoads : String → Except PyError Json}
  {worker : (op : WorkerPort.Op) → S → Except PyError (WorkerPort.Ans op) → S → Prop} {s s' : S}

/-- The client reads what the worker has rendered. -/
theorem Rendered.carries {answer : HttpResponse} {response : TextResponse}
    (h : Rendered J answer response) (hanswer : Sendable answer) (hs : answer.isSuccess = true) :
    Carries J response answer := by
  obtain ⟨payload, hbody⟩ := hanswer.body hs
  refine ⟨payload, hbody, ?_⟩
  unfold TextResponse.json
  rw [h.2 payload hbody]
  exact J.loads_render (hanswer.fits payload hbody)

/-- The response in which an answer is sent. -/
def HttpResponse.rendered (J : JsonModule) (answer : HttpResponse) : TextResponse where
  status := answer.status
  content := (answer.body.map J.render).getD ""

theorem rendered_rendered (answer : HttpResponse) : Rendered J answer (answer.rendered J) := by
  refine ⟨rfl, fun payload hbody => ?_⟩
  simp [HttpResponse.rendered, hbody]

/-- The worker parses the document that was posted. -/
theorem textWorker_ok {path : String} {json : Json} (hjson : Json.fits 2 json = true)
    {response : TextResponse} :
    textWorker J worker (.post path (httpx.content J json)) s (.ok response) s' ↔
      ∃ answer, Prog.Evals worker (workerApp path json) s (.ok answer) s' ∧
        Rendered J answer response := by
  simp only [textWorker, withFaults, httpx.loads_content J hjson]

theorem textWorker_error {path : String} {json : Json} (hjson : Json.fits 2 json = true)
    {e : PyError} :
    textWorker J worker (.post path (httpx.content J json)) s (.error e) s' ↔
      httpSem worker (.post path json) s (.error e) s' := by
  show (s' = s ∨ ∃ response : TextResponse,
    textWorker J worker (.post path (httpx.content J json)) s (.ok response) s') ↔
      (s' = s ∨ ∃ answer : HttpResponse, httpSem worker (.post path json) s (.ok answer) s')
  refine or_congr Iff.rfl ⟨?_, ?_⟩
  · rintro ⟨response, h⟩
    obtain ⟨answer, hrun, -⟩ := (textWorker_ok hjson).mp h
    exact ⟨answer, hrun⟩
  · rintro ⟨answer, hrun⟩
    exact ⟨answer.rendered J, (textWorker_ok hjson).mpr ⟨answer, hrun, rendered_rendered answer⟩⟩

/-- What a client over texts meets, a client over documents may meet. -/
theorem textWorker_forth (o : TextHttpOp) (o' : HttpOp) (s : S) (r : Except PyError TextResponse)
    (s' t : S) (hops : (wireLink J httpx).ops o o') (hst : s = t)
    (h : textWorker J worker o s r s') :
    ∃ r' t', httpSem worker o' t r' t' ∧ (wireLink J httpx).answers o o' r r' ∧ s' = t' := by
  obtain ⟨path, content⟩ := o
  obtain ⟨path', json⟩ := o'
  obtain ⟨rfl, rfl, hjson⟩ := hops
  subst hst
  cases r with
  | ok response =>
    obtain ⟨answer, hrun, hrendered⟩ := (textWorker_ok hjson).mp h
    exact ⟨.ok answer, s', hrun,
      .ok ⟨hrendered.1, hrendered.carries (workerApp_sendable hrun)⟩, rfl⟩
  | error e => exact ⟨.error e, s', (textWorker_error hjson).mp h, .error e, rfl⟩

/-- And the other way round. -/
theorem textWorker_back (o' : HttpOp) (o : TextHttpOp) (t : S) (r' : Except PyError HttpResponse)
    (t' s : S) (hops : (wireLink J httpx).flip.ops o' o) (hst : t = s)
    (h : httpSem worker o' t r' t') :
    ∃ r s', textWorker J worker o s r s' ∧ (wireLink J httpx).flip.answers o' o r' r ∧ t' = s' := by
  obtain ⟨path, content⟩ := o
  obtain ⟨path', json⟩ := o'
  obtain ⟨rfl, rfl, hjson⟩ := hops
  subst hst
  cases r' with
  | ok answer =>
    have hrendered := rendered_rendered (J := J) answer
    exact ⟨.ok (answer.rendered J), t', (textWorker_ok hjson).mpr ⟨answer, h, hrendered⟩,
      .ok ⟨rfl, hrendered.carries (workerApp_sendable h)⟩, rfl⟩
  | error e => exact ⟨.error e, t', (textWorker_error hjson).mpr h, .error e, rfl⟩

/-- **A client over texts comes to the ends of the client over documents.** -/
theorem evals_text_iff {α : Type} {p : TextHttpProg α} {q : HttpProg α}
    (h : p.Lockstep (wireLink J httpx) Eq q) {out : Except PyError α} :
    Prog.Evals (textWorker J worker) p s out s' ↔ Prog.Evals (httpSem worker) q s out s' := by
  constructor
  · intro hp
    obtain ⟨out', t', hq, hout, rfl⟩ := h.evals textWorker_forth rfl hp
    cases hout with
    | ok h => exact h ▸ hq
    | error e => exact hq
  · intro hq
    obtain ⟨out', t', hp, hout, rfl⟩ := h.flip.evals textWorker_back rfl hq
    cases hout with
    | ok h => exact h ▸ hp
    | error e => exact hp

/--
**The bodies cross.** Each call of the recovery graph, and the extraction of the gateway, has the
outcomes and the effects over texts that it has over documents, whatever stands in the bodies and
whichever way httpx writes them.
-/
theorem bodies_cross (J : JsonModule) (httpx : Httpx) (jsonLoads : String → Except PyError Json)
    (worker : (op : WorkerPort.Op) → S → Except PyError (WorkerPort.Ans op) → S → Prop) :
    recoveryTextSem J httpx jsonLoads worker = recoverySem jsonLoads worker ∧
      ∀ url domain requiredFields s out s',
        Prog.Evals (textWorker J worker)
            (TextExtractionService.extract J httpx url domain requiredFields) s out s' ↔
          Prog.Evals (httpSem worker)
            (HttpExtractionService.extract url domain requiredFields) s out s' := by
  refine ⟨?_, fun url domain fields s out s' =>
    evals_text_iff (extract_lockstep url domain fields)⟩
  funext op s r s'
  apply propext
  cases op with
  | captureScreenshot url => exact evals_text_iff (captureScreenshot_lockstep url)
  | validateSelectors url domain fields selectors =>
    exact evals_text_iff (validateSelectors_lockstep url domain fields selectors)
  | saveApprovedSelector domain fieldName selectorValue =>
    exact evals_text_iff (saveApprovedSelector_lockstep domain fieldName selectorValue)
  | proposeSelectors screenshot schema history => exact Iff.rfl

end Transparency

end Sentinel
