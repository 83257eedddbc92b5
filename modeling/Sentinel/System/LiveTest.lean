import Sentinel.System.Site

/-!
# Live tests and the selector stores

A live test hands its candidates to the worker, and the worker that has been handed a map of
candidates, be it empty, asks neither store for a selector. So the verdict is the same over any two
stores, and a whole run of the graph comes to the same end over any two that saves can lead to.

* `Storeless` — the requests that the worker answers without its stores
* `Twins`, `Alike` — two sites that differ in their stores only; every such request, and every call
  of the graph, keeps them so
* `liveTest_ignores_stores` — the verdict and the run do not depend on the stores
-/

namespace Sentinel

open Lib Prog ExtractDataUseCase RecoveryQueueConsumer

def OnBrowser : WorkerPort.Op → Prop
  | .getActiveSelector _ _ | .saveSelector _ => False
  | .extractFields _ _ | .captureScreenshot _ => True

/-- A request whose route makes calls on the browser only. -/
def Storeless : HttpPort.Op → Prop
  | .post path json => (workerApp path json).Only OnBrowser

/-! ## the calls of a live test -/

section Calls

variable {α β : Type} {P : WorkerPort.Op → Prop}

theorem serve_only {status : Nat} {render : α → Json} {route : WorkerProg α} (h : route.Only P) :
    (serve status render route).Only P :=
  Only.handle (h.bind fun _ => by trivial) fun _ => by trivial

theorem withBody_only {body : Option β} {k : β → WorkerProg HttpResponse}
    (h : ∀ b, body = some b → (k b).Only P) : (withBody body k).Only P := by
  cases body with
  | none => trivial
  | some b => exact h b rfl

/-- With candidates the use case looks nothing up. -/
theorem execute_onBrowser (url domain : String) (requiredFields : List String)
    (candidates : Dict String String) :
    (execute url domain requiredFields (some candidates)).Only OnBrowser :=
  Only.bind (p := WorkerPort.extractFields url candidates) (only_perform trivial)
    fun _ => by trivial

theorem storeless_extract (url domain : String) (requiredFields : List String)
    (candidates : Dict String String) : Storeless (.post "/internal/extract"
      (HttpWorkerService.extractBody url domain requiredFields candidates)) := by
  rw [Storeless, workerApp, if_pos rfl]
  refine withBody_only fun body hbody => serve_only ?_
  -- whatever the candidates are, they do not arrive as none
  rw [ofJson_extractBody hbody]
  exact (execute_onBrowser _ _ _ _).bind fun _ => by trivial

theorem storeless_screenshot (json : Json) : Storeless (.post "/internal/screenshot" json) := by
  rw [Storeless, workerApp, if_neg (by decide), if_pos rfl]
  exact withBody_only fun _ _ => serve_only (only_perform trivial)

theorem validateSelectors_storeless (url domain : String) (requiredFields : List String)
    (candidates : Dict String String) :
    (HttpWorkerService.validateSelectors url domain requiredFields candidates).Only Storeless :=
  Only.bind (only_perform (storeless_extract _ _ _ _)) fun _ =>
    Only.bind (only_lift _) fun _ => Only.bind (only_lift _) fun _ => only_lift _

theorem captureScreenshot_storeless (url : String) :
    (HttpWorkerService.captureScreenshot url).Only Storeless :=
  Only.bind (only_perform (storeless_screenshot _)) fun _ =>
    Only.bind (only_lift _) fun _ => Only.bind (only_lift _) fun _ => only_lift _

end Calls

/-! ## two sites -/

section Sites

variable {B E α : Type} {browser : Browser B} {s₁ s₂ : SelectorStore} {x y : Site B}

/-- Two sites with these stores and one state of the browser. -/
structure Twins (s₁ s₂ : SelectorStore) (x y : Site B) : Prop where
  left : x.store = s₁
  right : y.store = s₂
  browser : x.browser = y.browser

/-- A program of the browser. -/
theorem Twins.onBrowser (h : Twins s₁ s₂ x y) (p : BrowserProg α) :
    (x.onBrowser browser p).1 = (y.onBrowser browser p).1 ∧
      Twins s₁ s₂ (x.onBrowser browser p).2 (y.onBrowser browser p).2 := by
  unfold Site.onBrowser
  rw [h.browser]
  exact ⟨rfl, h.left, h.right, rfl⟩

theorem siteCall_twins (op : WorkerPort.Op) (x y : Site B) (hop : OnBrowser op)
    (h : Twins s₁ s₂ x y) :
    (siteCall browser op x).1 = (siteCall browser op y).1 ∧
      Twins s₁ s₂ (siteCall browser op x).2 (siteCall browser op y).2 := by
  cases op with
  | getActiveSelector domain fieldName => exact hop.elim
  | saveSelector selector => exact hop.elim
  | extractFields url selectors => exact h.onBrowser _
  | captureScreenshot url => exact h.onBrowser _

theorem sitePost_twins (op : HttpPort.Op) (x y : Site B) (hop : Storeless op)
    (h : Twins s₁ s₂ x y) :
    (sitePost browser op x).1 = (sitePost browser op y).1 ∧
      Twins s₁ s₂ (sitePost browser op x).2 (sitePost browser op y).2 := by
  obtain ⟨path, json⟩ := op
  exact Only.exec_simulates hop siteCall_twins h

/-- A client that makes such requests only gets the same from every store, and leaves it as it
is. -/
theorem exec_storeless {p : HttpProg α} (hp : p.Only Storeless) (b : B) : ∃ r b', ∀ store,
    p.exec (sitePost browser) ⟨store, b⟩ = (r, ⟨store, b'⟩) := by
  refine ⟨(p.exec (sitePost browser) ⟨.empty, b⟩).1,
    (p.exec (sitePost browser) ⟨.empty, b⟩).2.browser, fun store => ?_⟩
  obtain ⟨hout, htwins⟩ := hp.exec_simulates sitePost_twins
    (⟨rfl, rfl, rfl⟩ : Twins SelectorStore.empty store ⟨.empty, b⟩ ⟨store, b⟩)
  rcases h : p.exec (sitePost browser) ⟨store, b⟩ with ⟨r, ⟨store', b'⟩⟩
  rw [h] at hout htwins
  cases htwins.right
  rw [hout, htwins.browser]

/-- Two states of a run, over tables that hold histories. -/
structure Alike (x y : Site B × E) : Prop where
  engine : x.2 = y.2
  browser : x.1.browser = y.1.browser
  left : ∃ H, Represents x.1.store H
  right : ∃ H, Represents y.1.store H

theorem onWorker_alike {x y : Site B × E} (h : Alike x y) {p : HttpProg α}
    (hp : p.Only Storeless) :
    (onWorker browser p x).1 = (onWorker browser p y).1 ∧
      Alike (onWorker browser p x).2 (onWorker browser p y).2 := by
  obtain ⟨⟨store, b⟩, e⟩ := x
  obtain ⟨⟨store', b'⟩, e'⟩ := y
  obtain ⟨rfl, rfl, hleft, hright⟩ := h
  obtain ⟨r, b', hexec⟩ := exec_storeless hp b
  unfold onWorker
  rw [hexec, hexec]
  exact ⟨rfl, rfl, rfl, hleft, hright⟩

/-- **Every call of the graph** gives the same over both stores; a save appends to both
histories. -/
theorem recoveryStep_alike (browser : Browser B) (engine : Engine E) (op : RecoveryPort.Op)
    {x y : Site B × E} (h : Alike x y) :
    (recoveryStep browser engine op x).1 = (recoveryStep browser engine op y).1 ∧
      Alike (recoveryStep browser engine op x).2 (recoveryStep browser engine op y).2 := by
  cases op with
  | captureScreenshot url => exact onWorker_alike h (captureScreenshot_storeless url)
  | validateSelectors url domain requiredFields selectors =>
    exact onWorker_alike h (validateSelectors_storeless url domain requiredFields selectors)
  | saveApprovedSelector domain fieldName selectorValue =>
    obtain ⟨hengine, hbrowser, ⟨H, hleft⟩, ⟨H', hright⟩⟩ := h
    obtain ⟨m, hexec, hm, hrep⟩ :=
      exec_saveApprovedSelector browser hleft domain fieldName selectorValue
    obtain ⟨m', hexec', hm', hrep'⟩ :=
      exec_saveApprovedSelector browser hright domain fieldName selectorValue
    simp only [recoveryStep, onWorker, hexec, hexec']
    exact ⟨trivial, hengine, by rw [hm, hm', hbrowser], ⟨_, hrep⟩, ⟨_, hrep'⟩⟩
  | proposeSelectors screenshot expectedSchema history =>
    simp only [recoveryStep, h.engine]
    exact ⟨trivial, rfl, h.browser, h.left, h.right⟩

/-- A run of the graph over a site: what it comes to, and the calls it makes. -/
def siteRun (browser : Browser B) (engine : Engine E) (limit : Nat) (state : RecoveryState)
    (s : Site B × E) : Except PyError RecoveryState × List RecoveryPort.Op :=
  let run := (ainvoke limit state).exec (logged (recoveryStep browser engine)) (s, [])
  (run.1, run.2.2)

theorem siteRun_alike {x y : Site B × E} (h : Alike x y) (engine : Engine E) (limit : Nat)
    (state : RecoveryState) :
    siteRun browser engine limit state x = siteRun browser engine limit state y := by
  let step := logged (recoveryStep browser engine)
  have hstep : ∀ op x y, True → Alike x.1 y.1 ∧ x.2 = y.2 →
      (step op x).1 = (step op y).1 ∧ Alike (step op x).2.1 (step op y).2.1 ∧
        (step op x).2.2 = (step op y).2.2 := by
    rintro op x y - ⟨halike, hlog⟩
    obtain ⟨hans, hnext⟩ := recoveryStep_alike browser engine op halike
    exact ⟨hans, hnext, congrArg (· ++ [op]) hlog⟩
  obtain ⟨hout, -, hlog⟩ := (only_true (ainvoke limit state)).exec_simulates
    (s := (x, [])) (t := (y, [])) hstep ⟨h, rfl⟩
  exact Prod.ext hout hlog

/--
**A live test neither reads nor writes the stores.** The verdict on any candidates, the empty map
included, is the same over every store and leaves it as it is. So whatever has been saved before, a
run of the graph makes the same calls and comes to the same end.
-/
theorem liveTest_ignores_stores (browser : Browser B) (b : B) (engine : Engine E) (e : E) :
    (∀ url domain requiredFields candidates, ∃ result b', ∀ store,
      (HttpWorkerService.validateSelectors url domain requiredFields candidates).exec
        (sitePost browser) ⟨store, b⟩ = (result, ⟨store, b'⟩)) ∧
    ∀ job maxAttempts limit before before',
      siteRun browser engine limit (buildInitialState job maxAttempts)
          (⟨(replay callStep before SelectorStore.empty).2, b⟩, e) =
        siteRun browser engine limit (buildInitialState job maxAttempts)
          (⟨(replay callStep before' SelectorStore.empty).2, b⟩, e) := by
  constructor
  · intro url domain requiredFields candidates
    exact exec_storeless (validateSelectors_storeless url domain requiredFields candidates) b
  · intro job maxAttempts limit before before'
    have halike : Alike (⟨(replay callStep before SelectorStore.empty).2, b⟩, e)
        (⟨(replay callStep before' SelectorStore.empty).2, b⟩, e) :=
      ⟨rfl, rfl, replay_represents before, replay_represents before'⟩
    exact siteRun_alike halike engine limit _

end Sites

end Sentinel
