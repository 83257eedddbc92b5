import Sentinel.Recovery.Accounting
import Sentinel.System.Port
import Sentinel.Worker.Api

/-!
# What a bad proposal costs

A proposal is tested by one call to the worker. A result of this call that the client can read
makes the attempt accepted or rejected; any other result raises, and the run with it.

* `HttpWorkerService.validateOutcome` — what the client makes of the result of the call
* `wired` — collaborators whose live tests are such calls
* `costsOnlyAttempts_iff` — a run goes through to a verdict, every failed live test being one
  rejected attempt, exactly if the client can read the results of all its live tests
-/

namespace Sentinel

open Lib Prog RecoveryQueueConsumer

namespace HttpWorkerService

/-- What `validate_selectors` makes of the result of its call. -/
def validateOutcome : Except PyError HttpResponse → Except PyError WorkerExtractionResult
  | .error e => .error e
  | .ok response =>
    if response.isSuccess then
      match response.json with
      | .error e => .error e
      | .ok payload => parseExtraction payload
    else .error .httpError

theorem exec_validateSelectors {S : Type}
    (h : (op : HttpPort.Op) → S → Except PyError HttpResponse × S) (url domain : String)
    (requiredFields : List String) (selectors : Dict String String) (s : S) :
    (validateSelectors url domain requiredFields selectors).exec h s =
      (validateOutcome
        (h (.post "/internal/extract" (extractBody url domain requiredFields selectors)) s).1,
        (h (.post "/internal/extract" (extractBody url domain requiredFields selectors)) s).2) := by
  rcases hr : h (.post "/internal/extract" (extractBody url domain requiredFields selectors)) s
    with ⟨r, s'⟩
  unfold validateSelectors
  rw [Prog.exec_bind, Prog.exec_perform, hr]
  cases r with
  | error e => rfl
  | ok response =>
    dsimp only
    rw [Prog.exec_bind, Prog.exec_lift, HttpResponse.raiseForStatus, validateOutcome]
    by_cases hok : response.isSuccess = true
    · rw [if_pos hok, if_pos hok]
      dsimp only
      rw [Prog.exec_bind, Prog.exec_lift]
      cases response.json with
      | error e => rfl
      | ok payload => exact Prog.exec_lift h _ _
    · rw [if_neg hok, if_neg hok]

/-- A success with a body that can be read. -/
def ReadableResult (r : Except PyError HttpResponse) : Prop :=
  ∃ response payload, r = .ok response ∧ response.isSuccess = true ∧
    response.body = some payload ∧ Readable payload

/-- The client returns exactly for a result it can read. -/
theorem validateOutcome_isOk {r : Except PyError HttpResponse} :
    (∃ result, validateOutcome r = .ok result) ↔ ReadableResult r := by
  constructor
  · rintro ⟨result, h⟩
    cases r with
    | error e => cases h
    | ok response =>
      rw [validateOutcome] at h
      split at h
      · next hok =>
        unfold HttpResponse.json at h
        cases hbody : response.body with
        | none => rw [hbody] at h; cases h
        | some payload =>
          rw [hbody] at h
          exact ⟨response, payload, rfl, hok, hbody, decodeExtraction_readable.mp ⟨result, h⟩⟩
      · cases h
  · rintro ⟨response, payload, rfl, hok, hbody, hread⟩
    obtain ⟨result, h⟩ :=
      (decodeExtraction_readable (R := WorkerExtractionResult)).mpr hread
    refine ⟨result, ?_⟩
    rw [validateOutcome, if_pos hok, HttpResponse.json, hbody]
    exact h

end HttpWorkerService

open HttpWorkerService

/-! ## runs over HTTP -/

/-- The result of a request, given the calls of the run so far. -/
abbrev Requests := List RecoveryEvent → HttpOp → Except PyError HttpResponse

/-- The result of the request behind a live test. -/
def liveTestResult (post : Requests) (tr : List RecoveryEvent) (url domain : String)
    (fields : List String) (selectors : Dict String String) : Except PyError HttpResponse :=
  post tr (.post "/internal/extract" (extractBody url domain fields selectors))

/-- The collaborators `x`, but for live tests that go over HTTP. -/
def wired (x : Collaborators) (post : Requests) : Collaborators where
  captureScreenshot := x.captureScreenshot
  proposeSelectors := x.proposeSelectors
  validateSelectors tr url domain fields selectors :=
    ((HttpWorkerService.validateSelectors url domain fields selectors).exec
      (fun op _ => (post tr op, ())) ()).1

/-- The run came to a verdict with its attempts accounted for, and each of its live tests that did
not come back as a success was a rejected attempt. -/
def CostsOnlyAttempts (post : Requests) (job : Job) (m : Int)
    (out : Except PyError RecoveryState) (tr : List RecoveryEvent) : Prop :=
  ∃ attempts final, out = .ok final ∧ Accounted job m attempts tr final ∧
    ∀ pre url domain fields selectors r suf,
      tr = pre ++ ⟨.validateSelectors url domain fields selectors, r⟩ :: suf →
      ¬ (∃ response, liveTestResult post pre url domain fields selectors = .ok response ∧
        response.isSuccess = true) →
      (Attempt.tested selectors r).verdict = .rejected

section Wired

variable {x : Collaborators} {post : Requests} {job : Job} {m : Int}

theorem wired_validateSelectors (tr : List RecoveryEvent) (url domain : String)
    (fields : List String) (selectors : Dict String String) :
    (wired x post).validateSelectors tr url domain fields selectors =
      validateOutcome (liveTestResult post tr url domain fields selectors) :=
  congrArg Prod.fst (exec_validateSelectors _ url domain fields selectors ())

/-- The reply in the record of a run is what the client made of the result. -/
theorem wired_reply {limit : Nat} {out : Except PyError RecoveryState} {tr : List RecoveryEvent}
    (hrun : (ainvoke limit (buildInitialState job m)).exec (recorded (wired x post).answer) [] =
      (out, tr))
    {pre suf : List RecoveryEvent} {url domain : String} {fields : List String}
    {selectors : Dict String String} {r : Except PyError WorkerExtractionResult}
    (htr : tr = pre ++ ⟨.validateSelectors url domain fields selectors, r⟩ :: suf) :
    validateOutcome (liveTestResult post pre url domain fields selectors) = r := by
  rw [← wired_validateSelectors]
  exact ((exec_recorded hrun).2 pre _ suf htr (Nat.zero_le _)).symm

/-- **What a bad proposal costs.** A run without a step limit halts; it comes to a verdict, and
its failed live tests cost one attempt each, if and only if the result of each of its live tests
is one that the client can read. -/
theorem costsOnlyAttempts_iff (x : Collaborators) (post : Requests) (job : Job) (m : Int) :
    ∃ tr out, (∃ limit₀, ∀ limit, limit₀ ≤ limit →
      (ainvoke limit (buildInitialState job m)).exec (recorded (wired x post).answer) [] =
        (out, tr)) ∧
    (CostsOnlyAttempts post job m out tr ↔
      ∀ pre url domain fields selectors r suf,
        tr = pre ++ ⟨.validateSelectors url domain fields selectors, r⟩ :: suf →
        ReadableResult (liveTestResult post pre url domain fields selectors)) := by
  obtain ⟨b, init, last, out, hb, hruns⟩ := exec_ainvoke_runsAs (wired x post) job m
  refine ⟨_, out, ⟨_, fun limit hlimit => hruns.ainvoke hlimit⟩, ?_⟩
  have hrun := hruns.ainvoke (Nat.le_refl _)
  have hlive : ∀ selectors r, last = .tested selectors r →
      (⟨.validateSelectors job.url job.domain (expectedSchema job.requiredFields).keys selectors,
        r⟩ : RecoveryEvent) ∈ screenshotEvent job ((wired x post).captureScreenshot [] job.url) ::
          recordFrom job ((wired x post).captureScreenshot [] job.url) [] (init ++ [last]) :=
    fun selectors r h => List.mem_cons_of_mem _
      (liveTest_mem_recordFrom.mpr ⟨⟨rfl, rfl, rfl⟩, by simp [h]⟩)
  have haccounted := hruns.accounted hb
  generalize screenshotEvent job ((wired x post).captureScreenshot [] job.url) ::
    recordFrom job ((wired x post).captureScreenshot [] job.url) [] (init ++ [last]) = tr at *
  constructor
  · rintro ⟨attempts, final, rfl, haccounted, -⟩ pre url domain fields selectors r suf htr
    rw [← validateOutcome_isOk, wired_reply hrun htr]
    obtain ⟨screenshot, hrecord⟩ := haccounted.record
    have hmem : (⟨.validateSelectors url domain fields selectors, r⟩ : RecoveryEvent) ∈
        screenshotEvent job screenshot :: recordFrom job screenshot [] attempts := by
      rw [← hrecord, htr]
      simp
    rcases List.mem_cons.mp hmem with hmem | hmem
    · cases hmem
    · cases r with
      | ok result => exact ⟨result, rfl⟩
      | error e => exact absurd rfl (haccounted.returned _ (liveTest_mem_recordFrom.mp hmem).2 e)
  · intro hreadable
    have hlast : ∀ e, last.verdict ≠ .aborted e := by
      intro e he
      obtain ⟨selectors, rfl⟩ := Attempt.eq_of_aborted he
      obtain ⟨pre, suf, htr⟩ := List.append_of_mem (hlive selectors _ rfl)
      obtain ⟨result, hresult⟩ := validateOutcome_isOk.mpr (hreadable _ _ _ _ _ _ _ htr)
      rw [wired_reply hrun htr] at hresult
      cases hresult
    obtain ⟨final, rfl, hfinal⟩ := haccounted hlast
    refine ⟨_, final, rfl, hfinal, fun pre url domain fields selectors r suf htr hno => ?_⟩
    obtain ⟨response, -, hresponse, hok, -⟩ := hreadable _ _ _ _ _ _ _ htr
    exact absurd ⟨response, hresponse, hok⟩ hno

end Wired

/-! ## a selector that cannot be parsed -/

/-- A page on which every selector but one matches nothing, and that one cannot be parsed. -/
def unparsablePage : (op : BrowserPort.Op) → Unit → Except PyError (BrowserPort.Ans op) × Unit
  | .count selector, s => (if selector = "h1[" then .error (.other "Error") else .ok 0, s)
  | .textContent _, s => (.ok none, s)
  | .screenshot, s => (.ok "png", s)
  | .launch, s | .newPage, s | .goto _, s | .close, s => (.ok (), s)

def unparsableWorker : (op : WorkerPort.Op) → Unit → Except PyError (WorkerPort.Ans op) × Unit
  | .getActiveSelector _ _, s => (.ok none, s)
  | .saveSelector _, s => (.ok (), s)
  | .extractFields url selectors, s =>
    (PlaywrightBrowser.extractFields url selectors).exec unparsablePage s
  | .captureScreenshot url, s => (PlaywrightBrowser.captureScreenshot url).exec unparsablePage s

/-- Requests to the routes of that worker. -/
def unparsablePost : Requests
  | _, .post path json => ((workerApp path json).exec unparsableWorker ()).1

/-- The engine proposes the selector. -/
def unparsableProposal : Collaborators where
  captureScreenshot _ _ := "png"
  proposeSelectors _ _ _ _ := ⟨true, Dict.empty.set "title" "h1["⟩
  validateSelectors _ _ _ _ _ := .error .assertionError

def unparsableJob : Job := Job.create "7" "https://shop.test/1" "shop.test" ["title"]

/-- The worker answers 500, and the run of three attempts aborts in the first. -/
theorem unparsable_aborts : ∃ tr,
    liveTestResult unparsablePost [] "https://shop.test/1" "shop.test" ["title"]
      (Dict.empty.set "title" "h1[") = .ok { status := 500 } ∧
    (∀ limit, 3 ≤ limit → (ainvoke limit (buildInitialState unparsableJob 3)).exec
      (recorded (wired unparsableProposal unparsablePost).answer) [] = (.error .httpError, tr)) ∧
    ¬ CostsOnlyAttempts unparsablePost unparsableJob 3 (.error .httpError) tr := by
  refine ⟨screenshotEvent unparsableJob "png" :: recordFrom unparsableJob "png" []
    [.tested (Dict.empty.set "title" "h1[") (.error .httpError)], rfl, fun limit hlimit => ?_, ?_⟩
  · obtain ⟨n, rfl⟩ := Nat.exists_eq_add_of_le' hlimit
    rfl
  · rintro ⟨attempts, final, h, -⟩
    cases h

end Sentinel
