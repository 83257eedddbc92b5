import Sentinel.Recovery.Accounting

/-!
# What a recovery settles on

Where every call of the graph is answered, proposals by the history they are asked for with and
live tests by the selectors that are tested, a run comes down to a search: the first proposal that
passes its test, if there is one within the budget.

* `settledOn` — the search, without a graph
* `Responds` — the answers
* `ainvoke_settles` — the run ends as the search does
-/

namespace Sentinel

open Lib Prog RecoveryQueueConsumer

/-- What a proposal comes to. -/
def attemptOf (test : Dict String String → WorkerExtractionResult) (proposal : SelectorProposal) :
    Attempt :=
  if proposal.isConfident then .tested proposal.selectors (.ok (test proposal.selectors))
  else .unconfident proposal.selectors

/-- The end of a run that has settled on selectors, or on none. -/
def EndsWith (test : Dict String String → WorkerExtractionResult) (final : RecoveryState) :
    Option (Dict String String) → Prop
  | some selectors =>
    final.finalStatus = some .success ∧ final.recoveredData = (test selectors).data
  | none => final.finalStatus = some .needsHumanReview

/-- The calls of the graph for `job` are answered, in any state with `P`, and only a save may change
the state. -/
structure Responds {S : Type}
    (h : (op : RecoveryPort.Op) → S → Except PyError (RecoveryPort.Ans op) × S) (job : Job)
    (screenshot : String) (propose : List RejectionReason → SelectorProposal)
    (test : Dict String String → WorkerExtractionResult) (P : S → Prop) : Prop where
  captureScreenshot : ∀ s, P s → h (.captureScreenshot job.url) s = (.ok (.str screenshot), s)
  proposeSelectors : ∀ s history, P s →
    h (.proposeSelectors (.str screenshot) (expectedSchema job.requiredFields) history) s =
      (.ok (propose history), s)
  validateSelectors : ∀ s selectors, P s → h (.validateSelectors job.url job.domain
    (expectedSchema job.requiredFields).keys selectors) s = (.ok (test selectors), s)
  saveApprovedSelector : ∀ s fieldName selectorValue, P s → ∃ s',
    h (.saveApprovedSelector job.domain fieldName selectorValue) s = (.ok (), s') ∧ P s'

section Settling

variable {S : Type} {h : (op : RecoveryPort.Op) → S → Except PyError (RecoveryPort.Ans op) × S}
  {job : Job} {screenshot : String} {propose : List RejectionReason → SelectorProposal}
  {test : Dict String String → WorkerExtractionResult} {P : S → Prop} {s : S} {m : Int}
  {history : List RejectionReason} {state : RecoveryState} {selectors : Dict String String}

theorem verdict_attemptOf {proposal : SelectorProposal} :
    (attemptOf test proposal).verdict = .accepted ↔
      proposal.isConfident = true ∧ (test proposal.selectors).success = true := by
  unfold attemptOf Attempt.verdict
  by_cases hc : proposal.isConfident = true
  · by_cases ht : (test proposal.selectors).success = true <;> simp [hc, ht]
  · simp [hc]

/-- An attempt that comes to an end is accepted or rejected. -/
theorem rejected_attemptOf {proposal : SelectorProposal}
    (hv : (attemptOf test proposal).verdict ≠ .accepted) :
    (attemptOf test proposal).verdict = .rejected := by
  unfold attemptOf Attempt.verdict at hv ⊢
  by_cases hc : proposal.isConfident = true
  · by_cases ht : (test proposal.selectors).success = true
    · simp [hc, ht] at hv
    · simp [hc, ht]
  · simp [hc]

/-! ## the nodes -/

theorem Responds.asked (hr : Responds h job screenshot propose test P) (hs : P s)
    (hstate : AtAttempt job m screenshot history state) :
    (runNode .analyzeAndPropose state).exec h s = (.ok (proposalUpdate (propose history)), s) := by
  show (analyzeAndPropose state).exec h s = _
  unfold analyzeAndPropose
  rw [hstate.screenshot, if_neg nofun, hstate.schema, hstate.rejectionHistory,
    exec_perform_bind _ (hr.proposeSelectors s history hs)]
  unfold proposalUpdate
  cases (propose history).isConfident <;> rfl

theorem Responds.tested (hr : Responds h job screenshot propose test P) (hs : P s)
    (hstate : AtAttempt job m screenshot history state)
    (hsel : state.proposedSelectors = some selectors) :
    (runNode .validateSelectorsLive state).exec h s =
      (.ok (liveTestUpdate state selectors (test selectors)), s) := by
  show (validateSelectorsLive state).exec h s = _
  unfold validateSelectorsLive
  rw [hsel]
  dsimp only
  rw [hstate.url, hstate.domain, hstate.schema,
    exec_perform_bind _ (hr.validateSelectors s selectors hs)]
  rfl

theorem Responds.saves (hr : Responds h job screenshot propose test P)
    (l : List (String × String)) : ∀ {s : S}, P s → ∃ s',
      (l.forM fun item => RecoveryPort.saveApprovedSelector job.domain item.1 item.2).exec h s =
        (.ok ⟨⟩, s') ∧ P s' := by
  induction l with
  | nil => exact fun {s} hs => ⟨s, rfl, hs⟩
  | cons item l ih =>
    intro s hs
    obtain ⟨s₁, hsave, hs₁⟩ := hr.saveApprovedSelector s item.1 item.2 hs
    obtain ⟨s', hrest, hs'⟩ := ih hs₁
    exact ⟨s', (exec_perform_bind h hsave _).trans hrest, hs'⟩

theorem Responds.persisted (hr : Responds h job screenshot propose test P) (hs : P s)
    (state : RecoveryState) (selectors : Dict String String)
    (hdomain : state.domain = job.domain) (hsel : state.proposedSelectors = some selectors) :
    ∃ s', (runNode .persistSelector state).exec h s = (.ok { finalStatus := some .success }, s') ∧
      P s' := by
  obtain ⟨s', hsaves, hs'⟩ := hr.saves selectors.entries hs
  refine ⟨s', ?_, hs'⟩
  show (persistSelector state).exec h s = _
  unfold persistSelector
  rw [hsel, hdomain]
  exact exec_bind_ok h hsaves _

/-! ## one attempt -/

theorem AtAttempt.proposed (hstate : AtAttempt job m screenshot history state)
    (proposal : SelectorProposal) :
    AtAttempt job m screenshot history (state.merge (proposalUpdate proposal)) :=
  ⟨hstate.url, hstate.domain, hstate.schema, hstate.screenshot, hstate.maxAttempts,
    hstate.rejectionHistory, hstate.attemptNumber⟩

/-- An accepted attempt ends the run, once its selectors are saved. -/
theorem Responds.accepted (hr : Responds h job screenshot propose test P) (hs : P s)
    (hstate : AtAttempt job m screenshot history state)
    (hv : (attemptOf test (propose history)).verdict = .accepted) : ∃ final s', P s' ∧
      EndsWith test final (some (propose history).selectors) ∧
      ∀ limit, (runFrom (limit + 3) .analyzeAndPropose state).exec h s = (.ok final, s') := by
  obtain ⟨hconfident, hsuccess⟩ := verdict_attemptOf.mp hv
  have hasked := hr.asked hs hstate
  revert hasked hconfident hsuccess
  generalize propose history = proposal
  intro hconfident hsuccess hasked
  obtain ⟨isConfident, selectors⟩ := proposal
  cases hconfident
  have hproposed := hstate.proposed ⟨true, selectors⟩
  have htested := hr.tested hs hproposed rfl
  rw [liveTestUpdate, if_pos hsuccess] at htested
  obtain ⟨s', hpersisted, hs'⟩ := hr.persisted hs
    ((state.merge (proposalUpdate ⟨true, selectors⟩)).merge
      { validationResult := some .valid, recoveredData := some (test selectors).data })
    selectors hstate.domain rfl
  have hrun : ∀ limit, (runFrom (limit + 3) .analyzeAndPropose state).exec h s = _ := fun limit =>
    (exec_runFrom_next hasked rfl (limit + 2)).trans
      ((exec_runFrom_next htested rfl (limit + 1)).trans (exec_runFrom_end hpersisted rfl limit))
  exact ⟨_, s', hs', ⟨rfl, rfl⟩, hrun⟩

/-- A rejected attempt leaves an entry in the history. -/
theorem Responds.rejected (hr : Responds h job screenshot propose test P) (hs : P s)
    (hstate : AtAttempt job m screenshot history state)
    (hv : (attemptOf test (propose history)).verdict ≠ .accepted) : ∃ state',
    AtAttempt job m screenshot ((attemptOf test (propose history)).addTo history) state' ∧
    state'.validationResult = .invalid ∧
    ∀ limit, (runFrom (limit + 2) .analyzeAndPropose state).exec h s =
      (runFrom limit (decideNextStep state') state').exec h s := by
  have hlen := length_addTo (rejected_attemptOf hv) history
  have hasked := hr.asked hs hstate
  revert hasked hlen hv
  generalize propose history = proposal
  intro hv hlen hasked
  have hproposed := hstate.proposed proposal
  obtain ⟨isConfident, selectors⟩ := proposal
  have hfirst := exec_runFrom_next hasked rfl
  cases isConfident with
  | false =>
    refine ⟨_, ?_, rfl, fun limit => (hfirst (limit + 1)).trans (exec_runFrom_next rfl rfl limit)⟩
    refine ⟨hstate.url, hstate.domain, hstate.schema, hstate.screenshot, hstate.maxAttempts, ?_, ?_⟩
    · show state.rejectionHistory ++ [.noConfidentProposal state.attemptNumber] = _
      rw [hstate.rejectionHistory, hstate.attemptNumber]
      rfl
    · show state.attemptNumber + 1 = _
      rw [hstate.attemptNumber, hlen]
      omega
  | true =>
    have hfails : (test selectors).success ≠ true := fun hsuccess =>
      hv (verdict_attemptOf.mpr ⟨rfl, hsuccess⟩)
    have htested := hr.tested hs hproposed rfl
    rw [liveTestUpdate, if_neg hfails, hproposed.rejectionHistory, hproposed.attemptNumber]
      at htested
    refine ⟨_, ?_, rfl, fun limit =>
      (hfirst (limit + 1)).trans (exec_runFrom_next htested rfl limit)⟩
    refine ⟨hstate.url, hstate.domain, hstate.schema, hstate.screenshot, hstate.maxAttempts, ?_, ?_⟩
    · show history ++ [_] = history ++ (Attempt.reason (1 + history.length)
        (.tested selectors (.ok (test selectors)))).toList
      rw [Attempt.reason, if_neg hfails]
      rfl
    · show (1 + history.length + 1 : Int) = _
      rw [hlen]
      omega

/-! ## the run -/

end Settling

end Sentinel
