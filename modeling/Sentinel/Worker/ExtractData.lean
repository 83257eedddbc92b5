import Sentinel.Shared.ExtractionValidator
import Sentinel.Worker.SelectorRepository

/-!
# Extracting data

The use case of the worker: take the candidate selectors, or look up the known ones, read the
page with them and let the validator judge what came back.

* `ExtractDataUseCase.execute` — the use case, over the repository and the browser
* `ExtractDataUseCase.success_exact` — no hollow success: a positive verdict comes with exactly
  the required fields, all of them filled
-/

namespace Sentinel

open Lib

inductive WorkerOp
  | getActiveSelector (domain fieldName : String)
  | saveSelector (selector : Selector)
  | extractFields (url : String) (selectors : Dict String String)
  | captureScreenshot (url : String)

abbrev WorkerPort : Signature where
  Op := WorkerOp
  Ans
    | .getActiveSelector _ _ => Option Selector
    | .saveSelector _ => Unit
    | .extractFields _ _ => Dict String String
    | .captureScreenshot _ => String

abbrev WorkerProg := Prog WorkerPort PyError

namespace WorkerPort

abbrev getActiveSelector (domain fieldName : String) : WorkerProg (Option Selector) :=
  @Prog.perform WorkerPort PyError (.getActiveSelector domain fieldName)

abbrev saveSelector (selector : Selector) : WorkerProg Unit :=
  @Prog.perform WorkerPort PyError (.saveSelector selector)

abbrev extractFields (url : String) (selectors : Dict String String) :
    WorkerProg (Dict String String) :=
  @Prog.perform WorkerPort PyError (.extractFields url selectors)

abbrev captureScreenshot (url : String) : WorkerProg String :=
  @Prog.perform WorkerPort PyError (.captureScreenshot url)

end WorkerPort

structure ExtractionAttemptResult where
  outcome : ExtractionOutcome
  extractedData : Dict String String

namespace ExtractDataUseCase

/-- One round of the loop over `required_fields`. -/
def resolveField (domain : String) (resolved : Dict String String) (fieldName : String) :
    WorkerProg (Dict String String) := do
  let selector ← WorkerPort.getActiveSelector domain fieldName
  match selector with
  | some selector => return resolved.set fieldName selector.selectorValue
  | none => return resolved

def resolveKnownSelectors (domain : String) (requiredFields : List String) :
    WorkerProg (Dict String String) :=
  requiredFields.foldlM (resolveField domain) Dict.empty

def selectorsFor (domain : String) (requiredFields : List String)
    (candidateSelectors : Option (Dict String String)) : WorkerProg (Dict String String) :=
  match candidateSelectors with
  | some candidates => return candidates
  | none => resolveKnownSelectors domain requiredFields

def execute (url domain : String) (requiredFields : List String)
    (candidateSelectors : Option (Dict String String)) : WorkerProg ExtractionAttemptResult := do
  let selectors ← selectorsFor domain requiredFields candidateSelectors
  let extractedData ← WorkerPort.extractFields url selectors
  return { outcome := ExtractionValidator.validate requiredFields extractedData
           extractedData := extractedData }

/-! ## what a verdict says -/

/-- Exactly the required fields are there, and none of them is blank. -/
def Complete (requiredFields : List String) (data : Dict String String) : Prop :=
  (∀ k, k ∈ data.keys ↔ k ∈ requiredFields) ∧ ∀ k v, data.get? k = some v → isBlank v = false

section Answers

variable {S : Type} {sem : (op : WorkerPort.Op) → S → Except PyError (WorkerPort.Ans op) → S → Prop}
  {s s' : S} {url domain : String} {requiredFields : List String}

/-- A browser that answers only fields it was given a selector for. -/
def OnlyGivenFields
    (sem : (op : WorkerPort.Op) → S → Except PyError (WorkerPort.Ans op) → S → Prop) : Prop :=
  ∀ url selectors s (d : Dict String String) s',
    sem (.extractFields url selectors) s (.ok d) s' → ∀ k ∈ d.keys, k ∈ selectors.keys

theorem resolveField_keys {acc r : Dict String String} {fieldName : String}
    (h : Prog.Evals sem (resolveField domain acc fieldName) s (.ok r) s') :
    ∀ k ∈ r.keys, k = fieldName ∨ k ∈ acc.keys := by
  unfold resolveField at h
  rw [Prog.evals_bind_ok] at h
  obtain ⟨selector, m, -, h⟩ := h
  cases selector with
  | none =>
    rw [Prog.pure_eq, Prog.evals_ret] at h
    cases h.1
    exact fun k hk => Or.inr hk
  | some selector =>
    change Prog.Evals sem (Prog.ret _) _ _ _ at h
    rw [Prog.evals_ret] at h
    cases h.1
    exact fun k hk => Dict.mem_keys_set.mp hk

theorem resolveKnownSelectors_keys {r : Dict String String}
    (h : Prog.Evals sem (resolveKnownSelectors domain requiredFields) s (.ok r) s') :
    ∀ k ∈ r.keys, k ∈ requiredFields := by
  refine Prog.Evals.foldlM (J := fun r => ∀ k ∈ r.keys, k ∈ requiredFields) ?_ h (by simp)
  intro acc fieldName s r s' hmem hacc hround k hk
  rcases resolveField_keys hround k hk with rfl | hk
  · exact hmem
  · exact hacc k hk

theorem selectorsFor_keys {candidates : Option (Dict String String)} {r : Dict String String}
    (hc : ∀ c, candidates = some c → ∀ k ∈ c.keys, k ∈ requiredFields)
    (h : Prog.Evals sem (selectorsFor domain requiredFields candidates) s (.ok r) s') :
    ∀ k ∈ r.keys, k ∈ requiredFields := by
  cases candidates with
  | none => exact resolveKnownSelectors_keys h
  | some c =>
    change Prog.Evals sem (Prog.ret c) _ _ _ at h
    rw [Prog.evals_ret] at h
    cases h.1
    exact hc _ rfl

/-- An attempt reports what the browser read with the selectors it was to use, and the
validator's verdict on it. -/
theorem execute_ok {candidates : Option (Dict String String)} {r : ExtractionAttemptResult}
    (h : Prog.Evals sem (execute url domain requiredFields candidates) s (.ok r) s') :
    (∃ selectors m,
      Prog.Evals sem (selectorsFor domain requiredFields candidates) s (.ok selectors) m ∧
        sem (.extractFields url selectors) m (.ok r.extractedData) s') ∧
      r.outcome = ExtractionValidator.validate requiredFields r.extractedData := by
  unfold execute at h
  rw [Prog.evals_bind_ok] at h
  obtain ⟨selectors, m, hsel, h⟩ := h
  rw [Prog.evals_bind_ok] at h
  obtain ⟨data, m', hdata, h⟩ := h
  rw [Prog.evals_perform] at hdata
  rw [Prog.pure_eq, Prog.evals_ret] at h
  obtain ⟨hr, rfl⟩ := h
  cases hr
  exact ⟨⟨selectors, m, hsel, hdata⟩, rfl⟩

/-- **No hollow success.** If the candidates, when there are any, name required fields only, then
a positive verdict comes with exactly the required fields, all of them filled. -/
theorem success_exact {candidates : Option (Dict String String)} {r : ExtractionAttemptResult}
    (hsem : OnlyGivenFields sem)
    (hc : ∀ c, candidates = some c → ∀ k ∈ c.keys, k ∈ requiredFields)
    (h : Prog.Evals sem (execute url domain requiredFields candidates) s (.ok r) s')
    (hok : r.outcome.isSuccess = true) : Complete requiredFields r.extractedData := by
  obtain ⟨⟨selectors, m, hsel, hdata⟩, houtcome⟩ := execute_ok h
  rw [houtcome, ExtractionValidator.validate_isSuccess] at hok
  have hkeys : ∀ k, k ∈ r.extractedData.keys → k ∈ requiredFields := fun k hk =>
    selectorsFor_keys hc hsel k (hsem _ _ _ _ _ hdata k hk)
  refine ⟨fun k => ⟨hkeys k, fun hk => ?_⟩, fun k v hv => ?_⟩
  · obtain ⟨v, hv, -⟩ := hok k hk
    exact Dict.mem_keys_iff_get?.mpr ⟨v, hv⟩
  · obtain ⟨w, hw, hblank⟩ := hok k (hkeys k (Dict.mem_keys_iff_get?.mpr ⟨v, hv⟩))
    rw [hv] at hw
    cases hw
    exact hblank

end Answers

end ExtractDataUseCase

end Sentinel
