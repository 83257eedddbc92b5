import Sentinel.Shared.Http
import Sentinel.Worker.Browser
import Sentinel.Worker.ExtractData

/-!
# The worker's HTTP interface

Three routes under `/internal`. A body that does not have the declared shape is answered with
422, and an exception in a route with 500.

* `workerApp` — the routes
* `workerApp_extract_success` — a successful answer to an extraction request reports an attempt
-/

namespace Sentinel

open Lib

structure ExtractRequestBody where
  url : String
  domain : String
  requiredFields : List String
  selectors : Option (Dict String String)

structure ExtractResponseBody where
  success : Bool
  data : Dict String String
  failureReason : Option String

structure ScreenshotRequestBody where
  url : String

structure SaveSelectorRequestBody where
  domain : String
  fieldName : String
  selectorValue : String
  source : String

namespace ExtractRequestBody

/-- `selectors: dict[str, str] | None = None`. -/
def selectorsOfJson : Option Json → Option (Option (Dict String String))
  | none => some none
  | some .null => some none
  | some payload => payload.asDict.map some

@[simp] theorem selectorsOfJson_ofDict (d : Dict String String) :
    selectorsOfJson (some (.ofDict d)) = some (some d) := by
  show (Json.ofDict d).asDict.map some = some (some d)
  rw [Json.asDict_ofDict]
  rfl

def ofJson (json : Json) : Option ExtractRequestBody := do
  let body ← bodyFields json
  let url ← strField body "url"
  let domain ← strField body "domain"
  let requiredFields ← (body.get? "required_fields").bind Json.asStrList
  let selectors ← selectorsOfJson (body.get? "selectors")
  if requiredFields.isEmpty then none
  else some { url, domain, requiredFields, selectors }

end ExtractRequestBody

def ScreenshotRequestBody.ofJson (json : Json) : Option ScreenshotRequestBody := do
  let body ← bodyFields json
  let url ← strField body "url"
  return { url }

def SaveSelectorRequestBody.ofJson (json : Json) : Option SaveSelectorRequestBody := do
  let body ← bodyFields json
  let domain ← strField body "domain"
  let fieldName ← strField body "field_name"
  let selectorValue ← strField body "selector_value"
  let source ← strField body "source"
  return { domain, fieldName, selectorValue, source }

namespace ExtractResponseBody

def fromAttemptResult (result : ExtractionAttemptResult) : ExtractResponseBody where
  success := result.outcome.isSuccess
  data := result.extractedData
  failureReason := result.outcome.failureReason.map FailureReason.value

def toJson (body : ExtractResponseBody) : Json :=
  .obj [("success", .bool body.success), ("data", .ofDict body.data),
    ("failure_reason", .ofOption body.failureReason)]

end ExtractResponseBody

/-! ## routes -/

def extract (body : ExtractRequestBody) : WorkerProg ExtractResponseBody := do
  let result ← ExtractDataUseCase.execute body.url body.domain body.requiredFields body.selectors
  return ExtractResponseBody.fromAttemptResult result

def screenshot (body : ScreenshotRequestBody) : WorkerProg String :=
  WorkerPort.captureScreenshot body.url

def saveSelectorRoute (body : SaveSelectorRequestBody) : WorkerProg Unit :=
  let source := if body.source = "ai_generated" then SelectorSource.aiGenerated else .manual
  WorkerPort.saveSelector
    { domain := body.domain, fieldName := body.fieldName
      selectorValue := body.selectorValue, source := source }

/-- Answer with what the route returns, or with 500 if it raises. -/
def serve {α : Type} (status : Nat) (render : α → Json) (route : WorkerProg α) :
    WorkerProg HttpResponse :=
  Prog.handle (do
    let a ← route
    return { status := status, body := some (render a) })
    fun _ => Prog.ret { status := 500 }

/-- Serve a body that could be read, or answer 422. -/
def withBody {β : Type} (body : Option β) (k : β → WorkerProg HttpResponse) :
    WorkerProg HttpResponse :=
  match body with
  | none => Prog.ret { status := 422 }
  | some body => k body

def workerApp (path : String) (json : Json) : WorkerProg HttpResponse :=
  if path = "/internal/extract" then
    withBody (ExtractRequestBody.ofJson json) fun body =>
      serve 200 ExtractResponseBody.toJson (extract body)
  else if path = "/internal/screenshot" then
    withBody (ScreenshotRequestBody.ofJson json) fun body =>
      serve 200 (fun png => .obj [("screenshot_base64", .str png)]) (screenshot body)
  else if path = "/internal/selectors" then
    withBody (SaveSelectorRequestBody.ofJson json) fun body =>
      serve 201 (fun _ => .null) (saveSelectorRoute body)
  else Prog.ret { status := 404 }

/-! ## what an answer says -/

section Answers

variable {S : Type} {sem : (op : WorkerPort.Op) → S → Except PyError (WorkerPort.Ans op) → S → Prop}
  {s s' : S} {out : Except PyError HttpResponse}

/-- A successful answer of a route comes from a call that returned. -/
theorem serve_success {α : Type} {status : Nat} {render : α → Json} {route : WorkerProg α}
    (h : Prog.Evals sem (serve status render route) s out s') :
    ∃ response, out = .ok response ∧ (response.isSuccess = true →
      ∃ a, Prog.Evals sem route s (.ok a) s' ∧ response = ⟨status, some (render a)⟩) := by
  unfold serve at h
  rw [Prog.evals_handle] at h
  rcases h with ⟨response, h, rfl⟩ | ⟨e, m, -, h⟩
  · refine ⟨response, rfl, fun _ => ?_⟩
    rw [Prog.evals_bind_ok] at h
    obtain ⟨a, m, ha, h⟩ := h
    rw [Prog.pure_eq, Prog.evals_ret] at h
    obtain ⟨hresp, rfl⟩ := h
    cases hresp
    exact ⟨a, ha, rfl⟩
  · rw [Prog.evals_ret] at h
    exact ⟨_, h.1, fun hs => by simp [HttpResponse.isSuccess] at hs⟩

/-- So does the successful answer of a route with a body, and the body could be read. -/
theorem withBody_success {α β : Type} {body : Option β} {status : Nat} {render : α → Json}
    {route : β → WorkerProg α}
    (h : Prog.Evals sem (withBody body fun b => serve status render (route b)) s out s') :
    ∃ response, out = .ok response ∧ (response.isSuccess = true →
      ∃ b a, body = some b ∧ Prog.Evals sem (route b) s (.ok a) s' ∧
        response = ⟨status, some (render a)⟩) := by
  unfold withBody at h
  cases body with
  | none =>
    change Prog.Evals sem (Prog.ret _) _ _ _ at h
    rw [Prog.evals_ret] at h
    exact ⟨_, h.1, fun hs => by simp [HttpResponse.isSuccess] at hs⟩
  | some b =>
    obtain ⟨response, hout, hresp⟩ := serve_success h
    refine ⟨response, hout, fun hs => ?_⟩
    obtain ⟨a, ha, heq⟩ := hresp hs
    exact ⟨b, a, rfl, ha, heq⟩

/-- A successful answer to an extraction request reports an attempt of the use case. -/
theorem workerApp_extract_success {json : Json}
    (h : Prog.Evals sem (workerApp "/internal/extract" json) s out s') :
    ∃ response, out = .ok response ∧ (response.isSuccess = true →
      ∃ body result, ExtractRequestBody.ofJson json = some body ∧
        Prog.Evals sem (ExtractDataUseCase.execute body.url body.domain body.requiredFields
          body.selectors) s (.ok result) s' ∧
        response.body = some (ExtractResponseBody.fromAttemptResult result).toJson) := by
  unfold workerApp at h
  rw [if_pos rfl] at h
  obtain ⟨response, hout, hresp⟩ := withBody_success h
  refine ⟨response, hout, fun hs => ?_⟩
  obtain ⟨body, a, hbody, ha, rfl⟩ := hresp hs
  unfold extract at ha
  rw [Prog.evals_bind_ok] at ha
  obtain ⟨result, m, hresult, ha⟩ := ha
  rw [Prog.pure_eq, Prog.evals_ret] at ha
  obtain ⟨ha, rfl⟩ := ha
  cases ha
  exact ⟨body, result, hbody, hresult, rfl⟩

/-- A successful answer to a save request comes after a save that returned. -/
theorem workerApp_selectors_success {json : Json}
    (h : Prog.Evals sem (workerApp "/internal/selectors" json) s out s') :
    ∃ response, out = .ok response ∧ (response.isSuccess = true →
      ∃ body, SaveSelectorRequestBody.ofJson json = some body ∧
        Prog.Evals sem (saveSelectorRoute body) s (.ok ()) s') := by
  unfold workerApp at h
  rw [if_neg (by decide), if_neg (by decide), if_pos rfl] at h
  obtain ⟨response, hout, hresp⟩ := withBody_success h
  refine ⟨response, hout, fun hs => ?_⟩
  obtain ⟨body, a, hbody, ha, -⟩ := hresp hs
  exact ⟨body, hbody, ha⟩

end Answers

end Sentinel
