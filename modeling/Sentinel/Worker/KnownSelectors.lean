import Sentinel.Worker.Browser
import Sentinel.Worker.ExtractData
import Sentinel.Worker.SelectorHistory

/-!
# Extraction with the known selectors

The worker with its two selector stores and a page, and nobody else around.

* `workerStep` — what a call of the worker's routes answers and does to the stores
* `served` — the value a lookup answers in a state
* `exec_resolveKnownSelectors` — the known selectors of a domain are what it is served
-/

namespace Sentinel

open Lib PlaywrightBrowser ExtractDataUseCase

/-- A call on the repository or on the browser, run to its end. -/
def workerStep (page : Page) (image : String) : (op : WorkerPort.Op) → SelectorStore →
    Except PyError (WorkerPort.Ans op) × SelectorStore
  | .getActiveSelector domain fieldName, s => (getActiveSelector domain fieldName).exec storeStep s
  | .saveSelector selector, s => (saveSelector selector).exec storeStep s
  | .extractFields url selectors, s =>
    (((extractFields url selectors).exec (pageStep page image) ()).1, s)
  | .captureScreenshot url, s =>
    (((PlaywrightBrowser.captureScreenshot url).exec (pageStep page image) ()).1, s)

/-- The value of the cache entry of a pair or, without one, of its active row. -/
def served (s : SelectorStore) (domain fieldName : String) : Option String :=
  match s.cache (cacheKey domain fieldName) with
  | some payload => some payload.selectorValue
  | none => (s.activeRows domain fieldName).head?.map SelectorModel.selectorValue

section Served

variable {s : SelectorStore} {H : SelectorHistory} {domain fieldName : String}

theorem served_hit {payload : CachedSelector}
    (h : s.cache (cacheKey domain fieldName) = some payload) :
    served s domain fieldName = some payload.selectorValue := by
  simp [served, h]

/-- Without a cache entry, what the history has is served. -/
theorem served_miss (h : Represents s H) (hc : s.cache (cacheKey domain fieldName) = none) :
    served s domain fieldName = (H.active domain fieldName).map Selector.selectorValue := by
  unfold served
  rw [hc]
  rcases h.lookup domain fieldName with ⟨hnil, hnone⟩ | ⟨m, x, hm, hx, hcontent⟩
  · simp [hnil, SelectorHistory.active, hnone]
  · rw [Represents.selector_eq hx hcontent, hm]
    rfl

/-- A lookup answers what is served, and changes nothing of what its domain is served later. -/
theorem served_get (h : Represents s H) (domain fieldName : String) : ∃ a s',
    (getActiveSelector domain fieldName).exec storeStep s = (.ok a, s') ∧ Represents s' H ∧
      a.map Selector.selectorValue = served s domain fieldName ∧
      ∀ f, served s' domain f = served s domain f := by
  rcases h.get domain fieldName with ⟨payload, hcache, hexec⟩ | ⟨hcache, hexec⟩
  · exact ⟨_, s, hexec, h, (served_hit hcache).symm, fun _ => rfl⟩
  · refine ⟨_, _, hexec, ?_, (served_miss h hcache).symm, fun f => ?_⟩
    · split
      · exact h
      · exact h.of_rows rfl
    · cases hact : H.active domain fieldName with
      | none => rfl
      | some selector =>
        by_cases hf : f = fieldName
        · subst hf
          have hset : (s.setCache (cacheKey domain f) selector.payload).cache
              (cacheKey domain f) = some selector.payload := by simp [SelectorStore.setCache]
          rw [served_miss h hcache, hact]
          exact served_hit hset
        · have hk : cacheKey domain f ≠ cacheKey domain fieldName :=
            fun he => hf (cacheKey_right_inj.mp he)
          simp [served, SelectorStore.setCache, SelectorStore.activeRows, hk]

end Served

/-! ## the use case -/

section Exec

variable {s : SelectorStore} {H : SelectorHistory} (page : Page) (image domain : String)

theorem exec_resolveField (h : Represents s H) (acc : Dict String String) (fieldName : String) :
    ∃ r s', (resolveField domain acc fieldName).exec (workerStep page image) s = (.ok r, s') ∧
      Represents s' H ∧ (∀ f, served s' domain f = served s domain f) ∧
      ∀ k, r.get? k =
        (if k = fieldName then served s domain k else none).or (acc.get? k) := by
  obtain ⟨a, s', hexec, hrep, ha, hserved⟩ := served_get h domain fieldName
  have hget : workerStep page image (.getActiveSelector domain fieldName) s = (.ok a, s') := hexec
  unfold resolveField
  rw [Prog.exec_perform_bind _ hget]
  cases a with
  | none =>
    refine ⟨acc, s', rfl, hrep, hserved, fun k => ?_⟩
    by_cases hk : k = fieldName
    · subst hk
      rw [if_pos rfl, ← ha]
      rfl
    · rw [if_neg hk]
      rfl
  | some selector =>
    refine ⟨acc.set fieldName selector.selectorValue, s', rfl, hrep, hserved, fun k => ?_⟩
    rw [Dict.get?_set]
    by_cases hk : k = fieldName
    · subst hk
      rw [if_pos rfl, if_pos rfl, ← ha]
      rfl
    · rw [if_neg hk, if_neg hk]
      rfl

theorem exec_foldlM_resolveField (fields : List String) : ∀ {s : SelectorStore}, Represents s H →
    ∀ acc : Dict String String, ∃ r s',
      (fields.foldlM (resolveField domain) acc).exec (workerStep page image) s = (.ok r, s') ∧
        Represents s' H ∧ ∀ k, r.get? k =
          (if k ∈ fields then served s domain k else none).or (acc.get? k) := by
  induction fields with
  | nil => exact fun {s} h acc => ⟨acc, s, rfl, h, fun k => by simp⟩
  | cons fieldName fields ih =>
    intro s h acc
    obtain ⟨acc', m, hexec, hrep, hserved, hacc'⟩ :=
      exec_resolveField page image domain h acc fieldName
    obtain ⟨r, s', hexec', hrep', hr⟩ := ih hrep acc'
    refine ⟨r, s', ?_, hrep', fun k => ?_⟩
    · rw [List.foldlM_cons, Prog.exec_bind_ok _ hexec]
      exact hexec'
    · rw [hr, hacc', hserved]
      by_cases hm : k ∈ fields
      · rw [if_pos hm, if_pos (List.mem_cons_of_mem _ hm)]
        cases served s domain k <;> simp
      · by_cases hk : k = fieldName
        · rw [if_neg hm, if_pos hk, if_pos (List.mem_cons.mpr (Or.inl hk)), Option.none_or]
        · rw [if_neg hm, if_neg hk, if_neg (by simp [hk, hm]), Option.none_or]

/-- The known selectors are what is served for the required fields. -/
theorem exec_resolveKnownSelectors (h : Represents s H) (fields : List String) : ∃ r s',
    (resolveKnownSelectors domain fields).exec (workerStep page image) s = (.ok r, s') ∧
      Represents s' H ∧ ∀ k, r.get? k = if k ∈ fields then served s domain k else none := by
  obtain ⟨r, s', hexec, hrep, hr⟩ :=
    exec_foldlM_resolveField page image domain fields h Dict.empty
  exact ⟨r, s', hexec, hrep, fun k => by rw [hr, Dict.get?_empty, Option.or_none]⟩

variable {page image domain}

/-- An extraction, after the selectors have been chosen. -/
theorem exec_execute {url : String} {fields : List String}
    {candidates : Option (Dict String String)} {selectors : Dict String String}
    {s' : SelectorStore}
    (h : (selectorsFor domain fields candidates).exec (workerStep page image) s =
      (.ok selectors, s')) :
    (execute url domain fields candidates).exec (workerStep page image) s =
      (.ok ⟨ExtractionValidator.validate fields (readPage page selectors),
        readPage page selectors⟩, s') := by
  have hpage : workerStep page image (.extractFields url selectors) s' =
      (.ok (readPage page selectors), s') := by
    simp only [workerStep, exec_extractFields]
  unfold execute
  rw [Prog.exec_bind_ok _ h, Prog.exec_perform_bind _ hpage]
  rfl

end Exec

end Sentinel
