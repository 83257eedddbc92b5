import Sentinel.System.Site
import Sentinel.Worker.FailedWrites

/-!
# A proposal that is saved in part

The last node saves the selectors of an approved proposal one request after another, and each of
them is committed by itself. If one fails, the node raises and the selectors before it stay.

* `persistFailing` — the node, where one of its requests fails before it reaches the worker
* `SavedOnly` — what some saves have made of the active selectors
* `persist_prefix` — the fields before the failing one are saved, and no others
* `saved_in_part` — the second request fails, and two selectors are active that were never tested
  together
-/

namespace Sentinel

open Lib Prog PlaywrightBrowser

/-- The selector that a save makes active where `before` was. -/
def nextSelector (before : Option Selector) (domain fieldName selectorValue : String) :
    Selector where
  domain := domain
  fieldName := fieldName
  selectorValue := selectorValue
  source := .aiGenerated
  version := (before.map Selector.version).getD 0 + 1

/-- These items have been saved for the domain, and nothing else. -/
structure SavedOnly (domain : String) (items : List (String × String))
    (before after : SelectorStore) : Prop where
  saved : ∀ item ∈ items, activeSelector after domain item.1 =
    some (nextSelector (activeSelector before domain item.1) domain item.1 item.2)
  kept : ∀ d f, (∀ item ∈ items, (d, f) ≠ (domain, item.1)) →
    activeSelector after d f = activeSelector before d f

section Persist

variable {B E : Type}

/-- The node, where the request with number `k`, counted from 0, raises before it reaches the
worker: what it comes to, and the stores after it. -/
def persistFailing (browser : Browser B) (engine : Engine E) (k : Nat) (error : PyError)
    (state : RecoveryState) (s : Site B × E) : Except PyError StateUpdate × SelectorStore :=
  let run := (persistSelector state).exec (failingAt k error (recoveryStep browser engine)) (s, 0)
  (run.1, run.2.1.1.store)

variable (browser : Browser B) (engine : Engine E)

/-- The loop, from the request with number `i` on: `k` more of them go through. -/
theorem exec_failingSaves (error : PyError) (domain : String) (l : List (String × String))
    {s : Site B} (e : E) {H : SelectorHistory} {i k : Nat} (h : Represents s.store H) :
    ∃ (s' : Site B) (i' : Nat),
    (l.forM fun item => RecoveryPort.saveApprovedSelector domain item.1 item.2).exec
        (failingAt (i + k) error (recoveryStep browser engine)) ((s, e), i) =
      (if k < l.length then .error error else .ok (), (s', e), i') ∧
    Represents s'.store (H.recordAll (approvedEntries domain (l.take k))) := by
  induction l generalizing s H i k with
  | nil =>
    rw [List.take_nil]
    exact ⟨s, i, rfl, h⟩
  | cons item l ih =>
    have hcons : ((item :: l).forM fun item =>
        RecoveryPort.saveApprovedSelector domain item.1 item.2) =
          RecoveryPort.saveApprovedSelector domain item.1 item.2 >>= fun _ => l.forM fun item =>
            RecoveryPort.saveApprovedSelector domain item.1 item.2 := rfl
    rw [hcons]
    cases k with
    | zero =>
      -- this is the request that fails
      rw [Nat.add_zero, exec_perform_error _ (failingAt_self _ i error _ _)]
      exact ⟨s, i + 1, rfl, h⟩
    | succ k =>
      obtain ⟨m, hsave, -, hrep⟩ := exec_saveApprovedSelector browser h domain item.1 item.2
      have hop : failingAt (i + (k + 1)) error (recoveryStep browser engine)
          (.saveApprovedSelector domain item.1 item.2) ((s, e), i) = (.ok (), (m, e), i + 1) := by
        rw [failingAt_of_ne _ (by omega)]
        simp only [recoveryStep, onWorker, hsave]
      obtain ⟨s', i', hexec, hrep'⟩ := ih (i := i + 1) (k := k) hrep
      refine ⟨s', i', ?_, hrep'⟩
      rw [exec_perform_bind _ hop, show i + (k + 1) = i + 1 + k by omega, hexec]
      simp

/-- The node: the first `k` items are recorded, and it raises if there are more. -/
theorem persistFailing_records {s : Site B} {H : SelectorHistory} (h : Represents s.store H) (e : E)
    (state : RecoveryState) (selectors : Dict String String) (k : Nat) (error : PyError) :
    ∃ after, persistFailing browser engine k error
        { state with proposedSelectors := some selectors } (s, e) =
      (if k < selectors.entries.length then .error error
        else .ok { finalStatus := some .success }, after) ∧
    Represents after (H.recordAll (approvedEntries state.domain (selectors.entries.take k))) := by
  obtain ⟨s', i', hexec, hrep⟩ :=
    exec_failingSaves browser engine error state.domain selectors.entries e (i := 0) (k := k) h
  rw [Nat.zero_add] at hexec
  refine ⟨s'.store, ?_, hrep⟩
  unfold persistFailing persistSelector
  by_cases hk : k < selectors.entries.length
  · rw [if_pos hk] at hexec ⊢
    simp only [exec_bind_error _ hexec]
  · rw [if_neg hk] at hexec ⊢
    simp only [exec_bind_ok _ hexec]
    rfl

theorem savedOnly_of_recordAll {domain : String} {items : List (String × String)}
    (hitems : (items.map Prod.fst).Nodup) {before after : SelectorStore} {H : SelectorHistory}
    (hbefore : Represents before H)
    (hafter : Represents after (H.recordAll (approvedEntries domain items))) :
    SavedOnly domain items before after := by
  refine ⟨fun item hitem => ?_, fun d f hf => ?_⟩
  · have hlast := History.recordAll_of_mem H (approvedEntries_nodup domain hitems)
      (mem_approvedEntries hitem)
    rw [hafter.activeSelector_eq, hbefore.activeSelector_eq]
    unfold SelectorHistory.active History.current History.version nextSelector
    rw [hlast]
    cases hnone : (H (domain, item.1)).getLast? with
    | none => simp [List.getLast?_eq_none_iff.mp hnone]
    | some x => simp
  · have hsame : H.recordAll (approvedEntries domain items) (d, f) = H (d, f) := by
      refine H.recordAll_of_not_mem fun hmem => ?_
      simp only [approvedEntries, List.map_map, List.mem_map] at hmem
      obtain ⟨item, hitem, heq⟩ := hmem
      exact hf item hitem heq.symm
    rw [hafter.activeSelector_eq, hbefore.activeSelector_eq, SelectorHistory.active_congr hsame]

/-- A save changes what is active, by the version if by nothing else. -/
theorem nextSelector_ne (before : Option Selector) (domain fieldName selectorValue : String) :
    some (nextSelector before domain fieldName selectorValue) ≠ before := by
  intro h
  have hversion := congrArg (fun x => (x.map Selector.version).getD 0) h
  simp only [Option.map_some, Option.getD_some, nextSelector] at hversion
  omega

/-- If nothing has changed for the first items, there were none. -/
theorem SavedOnly.nil_of_same {domain : String} {items : List (String × String)}
    {before after : SelectorStore} (h : SavedOnly domain items before after)
    (hsame : ∀ item ∈ items,
      activeSelector after domain item.1 = activeSelector before domain item.1) : items = [] := by
  cases items with
  | nil => rfl
  | cons item items =>
    have hsaved := h.saved item List.mem_cons_self
    rw [hsame item List.mem_cons_self] at hsaved
    exact absurd hsaved.symm (nextSelector_ne _ _ _ _)

/--
**The items before the failing request are saved**, and no others; without such a request the node
returns. If it raises, what was active before is still active if and only if the first request has
failed.
-/
theorem persist_prefix (b : B) (e : E) (calls : List FaultyCall) (state : RecoveryState)
    (selectors : Dict String String) (k : Nat) (error : PyError) :
    let before := storesAfter calls
    let run := persistFailing browser engine k error
      { state with proposedSelectors := some selectors } (⟨before, b⟩, e)
    run.1 = (if k < selectors.entries.length then .error error
      else .ok { finalStatus := some .success }) ∧
    SavedOnly state.domain (selectors.entries.take k) before run.2 ∧
    (k < selectors.entries.length → ((∀ f ∈ selectors.keys,
      activeSelector run.2 state.domain f = activeSelector before state.domain f) ↔ k = 0)) := by
  intro before run
  have hbefore : Represents before (historyOf calls) := represents_after calls
  obtain ⟨after, hrun, hafter⟩ := persistFailing_records browser engine (s := ⟨before, b⟩) hbefore e
    state selectors k error
  have honly : SavedOnly state.domain (selectors.entries.take k) before run.2 := by
    have hnodup : ((selectors.entries.take k).map Prod.fst).Nodup :=
      selectors.nodup.sublist ((List.take_sublist _ _).map _)
    rw [show run = _ from hrun]
    exact savedOnly_of_recordAll hnodup hbefore hafter
  refine ⟨congrArg Prod.fst hrun, honly, fun hk => ⟨fun hsame => ?_, fun hzero => ?_⟩⟩
  · have hnil := honly.nil_of_same fun item hitem =>
      hsame item.1 (List.mem_map_of_mem (List.mem_of_mem_take hitem))
    rcases List.take_eq_nil_iff.mp hnil with hzero | hnil
    · exact hzero
    · rw [hnil] at hk
      exact absurd hk (Nat.not_lt_zero k)
  · intro f _
    exact honly.kept _ _ (by simp [hzero])

end Persist

/-- Title and price of a shop, entered by hand. -/
def shopSaves : List FaultyCall :=
  [(.save ⟨"shop.test", "title", "h1", .manual, 1⟩, .returns),
    (.save ⟨"shop.test", "price", ".price", .manual, 1⟩, .returns)]

/-- A run that has approved two selectors together. -/
def approvedState : RecoveryState where
  jobId := "1"
  url := "https://shop.test/1"
  domain := "shop.test"
  expectedSchema := RecoveryQueueConsumer.expectedSchema ["title", "price"]
  screenshotBase64 := .str ""
  attemptNumber := 1
  maxAttempts := 3
  proposedSelectors := some ((Dict.empty.set "title" "h2").set "price" ".cost")
  recoveredData := .obj [("title", .str "Hat"), ("price", .str "5")]
  rejectionHistory := []
  validationResult := .valid
  finalStatus := none

/-- **The second request fails**: the node has raised, with the new title active beside the old
price. -/
theorem saved_in_part :
    let run := persistFailing (pageStep (fun _ => none) "")
      (fun _ _ _ e => (.ok ⟨false, .empty⟩, e)) 1 .httpError approvedState
      (⟨storesAfter shopSaves, ()⟩, ())
    run.1 = .error .httpError ∧
      activeSelector (storesAfter shopSaves) "shop.test" "title" =
        some ⟨"shop.test", "title", "h1", .manual, 1⟩ ∧
      activeSelector run.2 "shop.test" "title" =
        some ⟨"shop.test", "title", "h2", .aiGenerated, 2⟩ ∧
      activeSelector run.2 "shop.test" "price" =
        some ⟨"shop.test", "price", ".price", .manual, 1⟩ :=
  ⟨rfl, by decide, by decide, by decide⟩

end Sentinel
