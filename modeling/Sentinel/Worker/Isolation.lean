import Sentinel.Worker.SelectorHistory
import Sentinel.Worker.SelectorMachine

/-!
# Isolation of selectors

A call for one pair of a domain and a field name leaves the answers for another pair alone
exactly when the two cache keys differ. The key joins the two names with a colon, which either
name may contain.

* `isolated_iff_cacheKey_ne` — the exact condition
* `port_leaks` — a domain with a port against a field name with a prefix
-/

namespace Sentinel

open Lib

variable {s s' : SelectorStore} {domain fieldName : String}

/-- What a lookup answers in a state. -/
def answer (s : SelectorStore) (domain fieldName : String) : Except PyError (Option Selector) :=
  ((getActiveSelector domain fieldName).exec storeStep s).1

/-- An answer depends on the cache entry and on the active rows of the pair. -/
theorem answer_congr
    (hcache : s'.cache (cacheKey domain fieldName) = s.cache (cacheKey domain fieldName))
    (hrows : s'.activeRows domain fieldName = s.activeRows domain fieldName) :
    answer s' domain fieldName = answer s domain fieldName := by
  unfold answer
  cases hc : s.cache (cacheKey domain fieldName) with
  | some payload =>
    rw [exec_getActiveSelector_hit hc, exec_getActiveSelector_hit (hcache.trans hc)]
  | none =>
    rw [exec_getActiveSelector_miss hc, exec_getActiveSelector_miss (hcache.trans hc), hrows]
    rcases scalarOneOrNone (s.activeRows domain fieldName) with e | (_ | m) <;> rfl

/-- A call touches the cache under its own key, and the rows of its own pair. -/
theorem callStep_frame (hs : s.IdsDistinct) {c : SelectorCall} {d f : String}
    (hc : c.pair = some (d, f)) :
    (∀ key, key ≠ cacheKey d f → (callStep c s).2.cache key = s.cache key) ∧
      ∀ domain fieldName, (d, f) ≠ (domain, fieldName) →
        (callStep c s).2.activeRows domain fieldName = s.activeRows domain fieldName := by
  cases c with
  | evict key => cases hc
  | get d' f' =>
    cases hc
    change (∀ key, _ → ((getActiveSelector d f).exec storeStep s).2.cache key = _) ∧
      ∀ domain fieldName, _ → ((getActiveSelector d f).exec storeStep s).2.activeRows _ _ = _
    cases hcache : s.cache (cacheKey d f) with
    | some payload =>
      rw [exec_getActiveSelector_hit hcache]
      exact ⟨fun _ _ => rfl, fun _ _ _ => rfl⟩
    | none =>
      rw [exec_getActiveSelector_miss hcache]
      cases hprev : scalarOneOrNone (s.activeRows d f) with
      | error e => exact ⟨fun _ _ => rfl, fun _ _ _ => rfl⟩
      | ok previous =>
        cases previous with
        | none => exact ⟨fun _ _ => rfl, fun _ _ _ => rfl⟩
        | some m =>
          obtain ⟨-, hd, hf⟩ :=
            SelectorStore.mem_rowsOf.mp (SelectorStore.mem_rowsOf_of_previous hprev rfl)
          refine ⟨fun key hk => ?_, fun _ _ _ => rfl⟩
          simp [SelectorStore.setCache, hd, hf, hk]
  | save selector =>
    cases hc
    change (∀ key, _ → ((saveSelector selector).exec storeStep s).2.cache key = _) ∧
      ∀ domain fieldName, _ → ((saveSelector selector).exec storeStep s).2.activeRows _ _ = _
    rw [exec_saveSelector]
    cases hprev : scalarOneOrNone (s.activeRows selector.domain selector.fieldName) with
    | error e => exact ⟨fun _ _ => rfl, fun _ _ _ => rfl⟩
    | ok previous =>
      refine ⟨fun key hk => ?_, fun domain fieldName hne => ?_⟩
      · simp [SelectorStore.setCache, SelectorStore.commit, hk]
      · rw [SelectorStore.activeRows_eq, SelectorStore.activeRows_eq s,
          ← SelectorStore.rowsOf_commit_of_ne hs hprev hne]
        rfl

@[simp] theorem answer_empty : answer SelectorStore.empty domain fieldName = .ok none := rfl

/-- After the first save of a pair, every pair with the same cache key is answered with it. -/
theorem answer_after_save (selector : Selector)
    (hkey : cacheKey domain fieldName = cacheKey selector.domain selector.fieldName) :
    answer (callStep (.save selector) SelectorStore.empty).2 domain fieldName =
      .ok (some { selector with domain := domain, fieldName := fieldName, version := 1 }) := by
  have hcached : (callStep (.save selector) SelectorStore.empty).2.cache
      (cacheKey domain fieldName) = some ⟨selector.selectorValue, selector.source, 1⟩ := by
    change ((saveSelector selector).exec storeStep SelectorStore.empty).2.cache _ = _
    rw [exec_saveSelector]
    show Function.update _ _ _ _ = _
    rw [hkey, Function.update_self]
    rfl
  exact congrArg Prod.fst (exec_getActiveSelector_hit hcached)

/-- In no reachable state does a call for the first pair change the answer for the second. -/
def Isolated (p q : String × String) : Prop :=
  ∀ s, Reachable s → ∀ c : SelectorCall, c.pair = some p →
    answer (callStep c s).2 q.1 q.2 = answer s q.1 q.2

/-- **Two pairs are isolated exactly when their cache keys differ.** -/
theorem isolated_iff_cacheKey_ne {p q : String × String} (hpq : p ≠ q) :
    Isolated p q ↔ cacheKey p.1 p.2 ≠ cacheKey q.1 q.2 := by
  obtain ⟨d, f⟩ := p
  obtain ⟨domain, fieldName⟩ := q
  constructor
  · intro h hkey
    have hsave := h _ reachable_empty (.save ⟨d, f, "", .manual, 1⟩) rfl
    rw [answer_after_save ⟨d, f, "", .manual, 1⟩ hkey.symm, answer_empty] at hsave
    simp at hsave
  · intro hkey s hs c hc
    obtain ⟨hcache, hrows⟩ := callStep_frame hs.idsDistinct hc
    exact answer_congr (hcache _ (Ne.symm hkey)) (hrows _ _ hpq)

/-- Different fields of one site are isolated. -/
theorem isolated_iff_cacheKey_ne_shop : Isolated ("shop.test", "title") ("shop.test", "price") :=
  (isolated_iff_cacheKey_ne (by decide)).mpr (by decide)

/-- A save for the field `price` of a site on port 8080 is answered to a lookup of the field
`8080:price` of the site itself, for which nothing was ever saved. -/
theorem port_leaks : ("shop.test:8080", "price") ≠ ("shop.test", "8080:price") ∧
    ¬Isolated ("shop.test:8080", "price") ("shop.test", "8080:price") := by
  refine ⟨by decide, fun h => ?_⟩
  have hsave := h _ reachable_empty (.save ⟨"shop.test:8080", "price", ".p", .manual, 1⟩) rfl
  rw [answer_after_save ⟨"shop.test:8080", "price", ".p", .manual, 1⟩ (by decide),
    answer_empty] at hsave
  simp at hsave

end Sentinel
