import Mathlib.Data.Int.Order.Basic
import Sentinel.Recovery.Gate

/-!
# The attempts of a recovery run

A run is a series of attempts. Each asks for a proposal and, where the proposal is confident,
tests it. What an attempt calls and what it leaves in the history is the same on both ways of
being rejected.

* `Collaborators` — an engine and a worker whose answers may depend on everything before
* `Attempt.Verdict`, `Attempt.reason` — what an attempt comes to and what it records
* `recordFrom` — the calls a list of attempts makes
* `exec_attempt`, `exec_attempts` — one attempt, and the loop, for every step limit
-/

namespace Sentinel

open Lib Prog RecoveryQueueConsumer

/-- An engine and a worker whose calls return what their ports declare; only a live test may
raise. Their answers may depend on all calls made before. -/
structure Collaborators where
  captureScreenshot : List RecoveryEvent → String → String
  proposeSelectors : List RecoveryEvent → Json → Dict String FieldType → List RejectionReason →
    SelectorProposal
  validateSelectors : List RecoveryEvent → String → String → List String → Dict String String →
    Except PyError WorkerExtractionResult

def Collaborators.answer (x : Collaborators) (tr : List RecoveryEvent) :
    (op : RecoveryPort.Op) → Except PyError (RecoveryPort.Ans op)
  | .captureScreenshot url => .ok (.str (x.captureScreenshot tr url))
  | .proposeSelectors screenshot schema history =>
    .ok (x.proposeSelectors tr screenshot schema history)
  | .validateSelectors url domain fields selectors =>
    x.validateSelectors tr url domain fields selectors
  | .saveApprovedSelector _ _ _ => .ok ()

/-- No live test raises. -/
def Collaborators.Return (x : Collaborators) : Prop :=
  ∀ tr url domain fields selectors,
    ∃ result, x.validateSelectors tr url domain fields selectors = .ok result

/-! ## attempts -/

inductive Attempt
  | unconfident (selectors : Dict String String)
  | tested (selectors : Dict String String) (result : Except PyError WorkerExtractionResult)

namespace Attempt

inductive Verdict
  | accepted
  | rejected
  | aborted (e : PyError)
deriving DecidableEq

def verdict : Attempt → Verdict
  | unconfident _ => .rejected
  | tested _ (.error e) => .aborted e
  | tested _ (.ok result) => if result.success then .accepted else .rejected

/-- The entry the attempt with number `n` leaves in the history. -/
def reason (n : Int) : Attempt → Option RejectionReason
  | unconfident _ => some (.noConfidentProposal n)
  | tested _ (.error _) => none
  | tested selectors (.ok result) =>
    if result.success then none
    else some (.rejected n selectors
      ((result.failureReason.map FailureReason.value).getD "unknown"))

/-- The history after an attempt. -/
def addTo (history : List RejectionReason) (a : Attempt) : List RejectionReason :=
  history ++ (a.reason (1 + history.length)).toList

/-- The calls of an attempt: the proposal, the live test, and the saves where it is accepted. -/
def events (job : Job) (screenshot : String) (history : List RejectionReason) :
    Attempt → List RecoveryEvent
  | unconfident selectors =>
    [⟨.proposeSelectors (.str screenshot) (expectedSchema job.requiredFields) history,
      .ok ⟨false, selectors⟩⟩]
  | tested selectors result =>
    ⟨.proposeSelectors (.str screenshot) (expectedSchema job.requiredFields) history,
      .ok ⟨true, selectors⟩⟩ ::
    ⟨.validateSelectors job.url job.domain (expectedSchema job.requiredFields).keys selectors,
      result⟩ ::
    match result with
    | .error _ => []
    | .ok result => if result.success then selectors.entries.map (saveEvent job) else []

theorem eq_of_accepted {a : Attempt} (h : a.verdict = .accepted) :
    ∃ selectors result, a = .tested selectors (.ok result) ∧ result.success = true := by
  cases a with
  | unconfident selectors => cases h
  | tested selectors r =>
    cases r with
    | error e => cases h
    | ok result =>
      refine ⟨selectors, result, rfl, ?_⟩
      by_contra hok
      rw [verdict, if_neg hok] at h
      cases h

theorem eq_of_aborted {a : Attempt} {e : PyError} (h : a.verdict = .aborted e) :
    ∃ selectors, a = .tested selectors (.error e) := by
  cases a with
  | unconfident selectors => cases h
  | tested selectors r =>
    cases r with
    | error e' =>
      cases h
      exact ⟨selectors, rfl⟩
    | ok result =>
      rw [verdict] at h
      split at h
      · cases h
      · cases h

end Attempt

/-- The history after a list of attempts. -/
def historyAfter (history : List RejectionReason) (attempts : List Attempt) :
    List RejectionReason :=
  attempts.foldl Attempt.addTo history

/-- The calls of a list of attempts. -/
def recordFrom (job : Job) (screenshot : String) :
    List RejectionReason → List Attempt → List RecoveryEvent
  | _, [] => []
  | history, a :: attempts =>
    a.events job screenshot history ++ recordFrom job screenshot (a.addTo history) attempts

/-! ## one attempt -/

/-- The state in which an attempt begins. -/
structure AtAttempt (job : Job) (m : Int) (screenshot : String) (history : List RejectionReason)
    (state : RecoveryState) : Prop where
  url : state.url = job.url
  domain : state.domain = job.domain
  schema : state.expectedSchema = expectedSchema job.requiredFields
  screenshot : state.screenshotBase64 = .str screenshot
  maxAttempts : state.maxAttempts = m
  rejectionHistory : state.rejectionHistory = history
  attemptNumber : state.attemptNumber = 1 + history.length

/-- A run that came to an end with this history. -/
structure Finished (history : List RejectionReason) (status : FinalStatus)
    (final : RecoveryState) : Prop where
  status : final.finalStatus = some status
  rejectionHistory : final.rejectionHistory = history
  attemptNumber : final.attemptNumber = 1 + history.length

section Loop

variable {x : Collaborators} {job : Job} {m : Int} {screenshot : String}
  {history : List RejectionReason} {state : RecoveryState} {tr : List RecoveryEvent}

/-! ### one node -/

section Node

variable {S : Type} {h : (op : RecoveryPort.Op) → S → Except PyError (RecoveryPort.Ans op) × S}
  {s s' : S} {node next : Node} {update : StateUpdate}

theorem exec_runFrom_next (hnode : (runNode node state).exec h s = (.ok update, s'))
    (hedge : edge node (state.merge update) = some next) (limit : Nat) :
    (runFrom (limit + 1) node state).exec h s =
      (runFrom limit next (state.merge update)).exec h s' := by
  rw [runFrom, Prog.exec_bind_ok _ hnode, hedge]

theorem exec_runFrom_end (hnode : (runNode node state).exec h s = (.ok update, s'))
    (hedge : edge node (state.merge update) = none) (limit : Nat) :
    (runFrom (limit + 1) node state).exec h s = (.ok (state.merge update), s') := by
  rw [runFrom, Prog.exec_bind_ok _ hnode, hedge]
  rfl

theorem exec_runFrom_error {e : PyError} (hnode : (runNode node state).exec h s = (.error e, s'))
    (limit : Nat) : (runFrom (limit + 1) node state).exec h s = (.error e, s') := by
  rw [runFrom, Prog.exec_bind, hnode]

end Node

/-- The engine's answer, as it is merged. -/
def proposalUpdate (proposal : SelectorProposal) : StateUpdate :=
  { proposedSelectors := some (if proposal.isConfident then some proposal.selectors else none) }

/-- The node that asks for a proposal. -/
theorem exec_analyzeAndPropose (h : AtAttempt job m screenshot history state) :
    (runNode .analyzeAndPropose state).exec (recorded x.answer) tr =
      (.ok (proposalUpdate (x.proposeSelectors tr (.str screenshot)
          (expectedSchema job.requiredFields) history)),
        tr ++ [⟨.proposeSelectors (.str screenshot) (expectedSchema job.requiredFields) history,
          .ok (x.proposeSelectors tr (.str screenshot) (expectedSchema job.requiredFields)
            history)⟩]) := by
  show (analyzeAndPropose state).exec _ tr = _
  unfold analyzeAndPropose
  rw [h.screenshot, if_neg nofun, h.schema, h.rejectionHistory]
  refine (Prog.exec_perform_bind _ rfl _).trans ?_
  unfold proposalUpdate
  cases (x.proposeSelectors tr (.str screenshot) (expectedSchema job.requiredFields)
    history).isConfident <;> rfl

/-- The node that tests a proposal. -/
theorem exec_validateSelectorsLive (h : AtAttempt job m screenshot history state)
    {selectors : Dict String String} (hsel : state.proposedSelectors = some selectors)
    {r : Except PyError WorkerExtractionResult}
    (hr : x.validateSelectors tr job.url job.domain (expectedSchema job.requiredFields).keys
      selectors = r) :
    (runNode .validateSelectorsLive state).exec (recorded x.answer) tr =
      (r.map (liveTestUpdate state selectors),
        tr ++ [⟨.validateSelectors job.url job.domain (expectedSchema job.requiredFields).keys
          selectors, r⟩]) := by
  show (validateSelectorsLive state).exec _ tr = _
  unfold validateSelectorsLive
  rw [hsel]
  dsimp only
  rw [h.url, h.domain, h.schema, Prog.exec_bind, Prog.exec_perform]
  have hop : recorded x.answer (.validateSelectors job.url job.domain
      (expectedSchema job.requiredFields).keys selectors) tr =
        (r, tr ++ [⟨.validateSelectors job.url job.domain
          (expectedSchema job.requiredFields).keys selectors, r⟩]) := by
    subst hr
    rfl
  rw [hop]
  cases r <;> rfl

theorem exec_saves (l : List (String × String)) (tr : List RecoveryEvent) :
    (l.forM fun item => RecoveryPort.saveApprovedSelector job.domain item.1 item.2).exec
      (recorded x.answer) tr = (.ok ⟨⟩, tr ++ l.map (saveEvent job)) := by
  induction l generalizing tr with
  | nil => simp [List.forM]
  | cons item l ih =>
    refine (Prog.exec_perform_bind _ rfl _).trans ((ih _).trans ?_)
    rw [List.map_cons, List.append_assoc]
    rfl

/-- The node that saves what was accepted. -/
theorem exec_persistSelector {selectors : Dict String String} (hdomain : state.domain = job.domain)
    (hsel : state.proposedSelectors = some selectors) :
    (runNode .persistSelector state).exec (recorded x.answer) tr =
      (.ok { finalStatus := some .success }, tr ++ selectors.entries.map (saveEvent job)) := by
  show (persistSelector state).exec _ tr = _
  unfold persistSelector
  rw [hsel, hdomain]
  exact Prog.exec_bind_ok _ (exec_saves _ _) _

/-- A live test that succeeds ends the run, once its selectors are saved. -/
theorem exec_liveTest_accepted (h : AtAttempt job m screenshot history state)
    {selectors : Dict String String} (hsel : state.proposedSelectors = some selectors)
    {result : WorkerExtractionResult}
    (hr : x.validateSelectors tr job.url job.domain (expectedSchema job.requiredFields).keys
      selectors = .ok result) (hok : result.success = true) :
    ∃ final, Finished history .success final ∧
      (∀ limit, (runFrom (limit + 2) .validateSelectorsLive state).exec (recorded x.answer) tr =
        (.ok final, tr ++ liveTest job selectors result :: selectors.entries.map (saveEvent job))) ∧
      ((runFrom 1 .validateSelectorsLive state).exec (recorded x.answer) tr).1 =
        .error .graphRecursionError := by
  have hlive := exec_validateSelectorsLive h hsel hr
  rw [show Except.map (liveTestUpdate state selectors) (Except.ok result) = Except.ok
    { validationResult := some .valid, recoveredData := some result.data } by
      show Except.ok (liveTestUpdate state selectors result) = _; rw [liveTestUpdate, if_pos hok]]
    at hlive
  have htest := exec_runFrom_next hlive rfl
  have hpersist := @exec_persistSelector x job
    (state.merge { validationResult := some .valid, recoveredData := some result.data })
    (tr ++ [liveTest job selectors result]) selectors h.domain hsel
  refine ⟨(state.merge { validationResult := some .valid, recoveredData := some result.data }).merge
    { finalStatus := some .success }, ?_, fun limit => ?_, ?_⟩
  · exact ⟨rfl, h.rejectionHistory, h.attemptNumber⟩
  · refine (htest (limit + 1)).trans ((exec_runFrom_end hpersist rfl limit).trans ?_)
    rw [List.append_assoc]
    rfl
  · rw [htest 0]
    rfl

/-- A live test that fails leaves an entry and goes on. -/
theorem exec_liveTest_rejected (h : AtAttempt job m screenshot history state)
    {selectors : Dict String String} (hsel : state.proposedSelectors = some selectors)
    {result : WorkerExtractionResult}
    (hr : x.validateSelectors tr job.url job.domain (expectedSchema job.requiredFields).keys
      selectors = .ok result) (hok : result.success = false) :
    ∃ state', AtAttempt job m screenshot
        (history ++ [.rejected (1 + history.length) selectors
          ((result.failureReason.map FailureReason.value).getD "unknown")]) state' ∧
      state'.validationResult = .invalid ∧
      ∀ limit, (runFrom (limit + 1) .validateSelectorsLive state).exec (recorded x.answer) tr =
        (runFrom limit (decideNextStep state') state').exec (recorded x.answer)
          (tr ++ [liveTest job selectors result]) := by
  have hlive := exec_validateSelectorsLive h hsel hr
  have hupdate : liveTestUpdate state selectors result =
      { validationResult := some .invalid
        rejectionHistory := some (history ++ [.rejected (1 + history.length) selectors
          ((result.failureReason.map FailureReason.value).getD "unknown")])
        proposedSelectors := some none
        attemptNumber := some (1 + history.length + 1) } := by
    rw [liveTestUpdate, if_neg (by simp [hok]), h.rejectionHistory, h.attemptNumber]
  rw [show Except.map (liveTestUpdate state selectors) (Except.ok result) = Except.ok _ from
    congrArg Except.ok hupdate] at hlive
  refine ⟨_, ?_, rfl, exec_runFrom_next hlive rfl⟩
  refine ⟨h.url, h.domain, h.schema, h.screenshot, h.maxAttempts, rfl, ?_⟩
  show (1 + history.length + 1 : Int) = _
  rw [List.length_append, List.length_singleton]
  omega

/-- A missing proposal leaves an entry and goes on. -/
theorem exec_handleNoConfidentProposal (h : AtAttempt job m screenshot history state) :
    ∃ state', AtAttempt job m screenshot
        (history ++ [.noConfidentProposal (1 + history.length)]) state' ∧
      state'.validationResult = .invalid ∧
      ∀ limit, (runFrom (limit + 1) .handleNoConfidentProposal state).exec (recorded x.answer) tr =
        (runFrom limit (decideNextStep state') state').exec (recorded x.answer) tr := by
  refine ⟨_, ?_, rfl, exec_runFrom_next rfl rfl⟩
  refine ⟨h.url, h.domain, h.schema, h.screenshot, h.maxAttempts, ?_, ?_⟩
  · show state.rejectionHistory ++ [.noConfidentProposal state.attemptNumber] = _
    rw [h.rejectionHistory, h.attemptNumber]
  · show state.attemptNumber + 1 = _
    rw [h.attemptNumber, List.length_append, List.length_singleton]
    omega

/-! ### one attempt -/

/-- How a run goes on after an attempt, for every step limit. -/
def Continues (x : Collaborators) (job : Job) (m : Int) (screenshot : String)
    (history : List RejectionReason) (state : RecoveryState) (tr : List RecoveryEvent)
    (a : Attempt) : Prop :=
  match a.verdict with
  | .rejected => ∃ state', AtAttempt job m screenshot (a.addTo history) state' ∧
      state'.validationResult = .invalid ∧
      ∀ limit, (runFrom (limit + 2) .analyzeAndPropose state).exec (recorded x.answer) tr =
        (runFrom limit (decideNextStep state') state').exec (recorded x.answer)
          (tr ++ a.events job screenshot history)
  | .accepted => ∃ final, Finished (a.addTo history) .success final ∧
      (∀ limit, (runFrom (limit + 3) .analyzeAndPropose state).exec (recorded x.answer) tr =
        (.ok final, tr ++ a.events job screenshot history)) ∧
      ((runFrom 2 .analyzeAndPropose state).exec (recorded x.answer) tr).1 =
        .error .graphRecursionError
  | .aborted e => ∀ limit, (runFrom (limit + 2) .analyzeAndPropose state).exec (recorded x.answer)
      tr = (.error e, tr ++ a.events job screenshot history)

/-- **One attempt** is accepted, rejected or aborted by its live test. -/
theorem exec_attempt (h : AtAttempt job m screenshot history state) (tr : List RecoveryEvent) :
    ∃ a, Continues x job m screenshot history state tr a := by
  have hpropose := @exec_analyzeAndPropose x _ _ _ _ _ tr h
  revert hpropose
  generalize x.proposeSelectors tr (.str screenshot) (expectedSchema job.requiredFields) history =
    proposal
  intro hpropose
  have hfirst := exec_runFrom_next hpropose rfl
  have hproposed : AtAttempt job m screenshot history (state.merge (proposalUpdate proposal)) :=
    ⟨h.url, h.domain, h.schema, h.screenshot, h.maxAttempts, h.rejectionHistory, h.attemptNumber⟩
  obtain ⟨isConfident, selectors⟩ := proposal
  cases isConfident with
  | false =>
    obtain ⟨state', hstate', hinvalid, hrest⟩ := exec_handleNoConfidentProposal hproposed
    exact ⟨.unconfident selectors, state', hstate', hinvalid,
      fun limit => (hfirst (limit + 1)).trans (hrest limit)⟩
  | true =>
    cases hr : x.validateSelectors (tr ++ [⟨.proposeSelectors (.str screenshot)
        (expectedSchema job.requiredFields) history, .ok ⟨true, selectors⟩⟩]) job.url job.domain
        (expectedSchema job.requiredFields).keys selectors with
    | error e =>
      have hlive := exec_validateSelectorsLive hproposed rfl hr
      refine ⟨.tested selectors (.error e), fun limit => (hfirst (limit + 1)).trans
        ((exec_runFrom_error hlive limit).trans ?_)⟩
      rw [List.append_assoc]
      rfl
    | ok result =>
      refine ⟨.tested selectors (.ok result), ?_⟩
      unfold Continues Attempt.verdict Attempt.events Attempt.addTo Attempt.reason
      cases hok : result.success with
      | true =>
        obtain ⟨final, hfinal, hrest, hlimit⟩ := exec_liveTest_accepted hproposed rfl hr hok
        simp only [hok, if_true]
        refine ⟨final, by simpa using hfinal, fun limit => ?_,
          (congrArg Prod.fst (hfirst 1)).trans hlimit⟩
        refine (hfirst (limit + 2)).trans ((hrest limit).trans ?_)
        rw [List.append_assoc]
        rfl
      | false =>
        obtain ⟨state', hstate', hinvalid, hrest⟩ := exec_liveTest_rejected hproposed rfl hr hok
        simp only [hok]
        refine ⟨state', hstate', hinvalid, fun limit => ?_⟩
        refine (hfirst (limit + 1)).trans ((hrest limit).trans ?_)
        rw [List.append_assoc]
        rfl

/-! ### the loop -/

/-- How a run ends after its last attempt. -/
def Ends (history : List RejectionReason) (last : Attempt) (out : Except PyError RecoveryState) :
    Prop :=
  match last.verdict with
  | .accepted => ∃ final, out = .ok final ∧ Finished history .success final
  | .rejected => ∃ final, out = .ok final ∧ Finished history .needsHumanReview final
  | .aborted e => out = .error e

/-- An attempt takes two nodes. -/
theorem exec_attempt_short (h : AtAttempt job m screenshot history state) {limit : Nat}
    (hlimit : limit < 2) :
    ((runFrom limit .analyzeAndPropose state).exec (recorded x.answer) tr).1 =
      .error .graphRecursionError := by
  match limit with
  | 0 => rfl
  | 1 =>
    rw [exec_runFrom_next (exec_analyzeAndPropose h) rfl 0]
    rfl
  | limit + 2 => omega

/-- After a rejection the run goes on as long as the next number is within the budget. -/
theorem decideNextStep_invalid (h : AtAttempt job m screenshot history state)
    (hinvalid : state.validationResult = .invalid) :
    decideNextStep state =
      if (1 + history.length : Int) ≤ m then .analyzeAndPropose else .escalateHuman := by
  unfold decideNextStep
  rw [if_neg (by rw [hinvalid]; nofun), h.attemptNumber, h.maxAttempts]

theorem exec_escalateHuman (h : AtAttempt job m screenshot history state) :
    ∃ final, Finished history .needsHumanReview final ∧
      (∀ limit, (runFrom (limit + 1) .escalateHuman state).exec (recorded x.answer) tr =
        (.ok final, tr)) ∧
      ((runFrom 0 .escalateHuman state).exec (recorded x.answer) tr).1 =
        .error .graphRecursionError :=
  ⟨state.merge { finalStatus := some .needsHumanReview },
    ⟨rfl, h.rejectionHistory, h.attemptNumber⟩, exec_runFrom_end rfl rfl, rfl⟩

theorem length_addTo {a : Attempt} (h : a.verdict = .rejected) (history : List RejectionReason) :
    (a.addTo history).length = history.length + 1 := by
  cases a with
  | unconfident selectors => simp [Attempt.addTo, Attempt.reason]
  | tested selectors r =>
    cases r with
    | error e => cases h
    | ok result =>
      unfold Attempt.verdict at h
      by_cases hok : result.success = true
      · simp [hok] at h
      · simp [Attempt.addTo, Attempt.reason, hok]

/-- A run, from the beginning of an attempt on, that may make `b` attempts after this one. All
attempts but the last are rejected, and a rejected last one means that the budget is used up. An
attempt takes two nodes and the end of the run one more. -/
structure RunsAs (x : Collaborators) (job : Job) (screenshot : String)
    (history : List RejectionReason) (state : RecoveryState) (tr : List RecoveryEvent) (b : Nat)
    (init : List Attempt) (last : Attempt) (out : Except PyError RecoveryState) : Prop where
  rejected : ∀ a ∈ init, a.verdict = .rejected
  within : init.length ≤ b
  exhausted : last.verdict = .rejected → init.length = b
  ends : Ends (historyAfter history (init ++ [last])) last out
  run : ∀ limit, 2 * init.length + 3 ≤ limit →
    (runFrom limit .analyzeAndPropose state).exec (recorded x.answer) tr =
      (out, tr ++ recordFrom job screenshot history (init ++ [last]))
  short : (∀ e, last.verdict ≠ .aborted e) → ∀ limit, limit < 2 * init.length + 3 →
    ((runFrom limit .analyzeAndPropose state).exec (recorded x.answer) tr).1 =
      .error .graphRecursionError

/-- An attempt that is not rejected is the last one. -/
theorem runsAs_last (h : AtAttempt job m screenshot history state) (b : Nat) {a : Attempt}
    (ha : Continues x job m screenshot history state tr a) (hlast : a.verdict ≠ .rejected) :
    ∃ out, RunsAs x job screenshot history state tr b [] a out := by
  unfold Continues at ha
  cases hv : a.verdict with
  | rejected => exact absurd hv hlast
  | accepted =>
    rw [hv] at ha
    obtain ⟨final, hfinal, hrun, hshort⟩ := ha
    refine ⟨.ok final, nofun, Nat.zero_le _, by rw [hv]; nofun, ?_, ?_, ?_⟩
    · unfold Ends
      rw [hv]
      exact ⟨final, rfl, hfinal⟩
    · intro limit hlimit
      obtain ⟨n, rfl⟩ := Nat.exists_eq_add_of_le' hlimit
      simpa [recordFrom] using hrun n
    · intro _ limit hlimit
      rcases Nat.lt_or_ge limit 2 with hlt | hge
      · exact exec_attempt_short h hlt
      · rw [show limit = 2 by simp at hlimit; omega]
        exact hshort
  | aborted e =>
    rw [hv] at ha
    refine ⟨.error e, nofun, Nat.zero_le _, by rw [hv]; nofun, ?_, ?_, ?_⟩
    · unfold Ends
      rw [hv]
    · intro limit hlimit
      obtain ⟨n, rfl⟩ := Nat.exists_eq_add_of_le' hlimit
      simpa [recordFrom] using ha (n + 1)
    · exact fun hno => absurd hv (hno e)

/-- A rejected attempt that uses up the budget leads to a human. -/
theorem runsAs_exhausted (h : AtAttempt job m screenshot history state) {a : Attempt}
    (ha : Continues x job m screenshot history state tr a) (hv : a.verdict = .rejected)
    (hm : m - history.length ≤ 1) : ∃ out, RunsAs x job screenshot history state tr 0 [] a out := by
  unfold Continues at ha
  rw [hv] at ha
  obtain ⟨state', hstate', hinvalid, hrest⟩ := ha
  have hnext : decideNextStep state' = .escalateHuman := by
    rw [decideNextStep_invalid hstate' hinvalid, length_addTo hv, if_neg (by omega)]
  obtain ⟨final, hfinal, hrun, hshort⟩ :=
    @exec_escalateHuman x _ _ _ _ _ (tr ++ a.events job screenshot history) hstate'
  rw [hnext] at hrest
  refine ⟨.ok final, nofun, Nat.le_refl _, fun _ => rfl, ?_, ?_, ?_⟩
  · unfold Ends
    rw [hv]
    exact ⟨final, rfl, hfinal⟩
  · intro limit hlimit
    obtain ⟨n, rfl⟩ := Nat.exists_eq_add_of_le' hlimit
    simpa [recordFrom] using (hrest (n + 1)).trans (hrun n)
  · intro _ limit hlimit
    rcases Nat.lt_or_ge limit 2 with hlt | hge
    · exact exec_attempt_short h hlt
    · rw [show limit = 2 by simp at hlimit; omega]
      exact (congrArg Prod.fst (hrest 0)).trans hshort

/-- A rejected attempt within the budget leads to the next one. -/
theorem RunsAs.cons {b : Nat} {a : Attempt} {state' : RecoveryState} {init : List Attempt}
    {last : Attempt} {out : Except PyError RecoveryState}
    (h : AtAttempt job m screenshot history state) (hv : a.verdict = .rejected)
    (hrest : ∀ limit, (runFrom (limit + 2) .analyzeAndPropose state).exec (recorded x.answer) tr =
      (runFrom limit .analyzeAndPropose state').exec (recorded x.answer)
        (tr ++ a.events job screenshot history))
    (hruns : RunsAs x job screenshot (a.addTo history) state'
      (tr ++ a.events job screenshot history) b init last out) :
    RunsAs x job screenshot history state tr (b + 1) (a :: init) last out := by
  refine ⟨?_, ?_, fun hr => ?_, hruns.ends, ?_, ?_⟩
  · intro a' ha'
    rcases List.mem_cons.mp ha' with rfl | ha'
    · exact hv
    · exact hruns.rejected a' ha'
  · exact Nat.succ_le_succ hruns.within
  · rw [List.length_cons, hruns.exhausted hr]
  · intro limit hlimit
    rw [List.length_cons] at hlimit
    obtain ⟨n, rfl⟩ : ∃ n, limit = n + 2 := ⟨limit - 2, by omega⟩
    rw [hrest, hruns.run n (by omega), List.append_assoc]
    rfl
  · intro hno limit hlimit
    rw [List.length_cons] at hlimit
    rcases Nat.lt_or_ge limit 2 with hlt | hge
    · exact exec_attempt_short h hlt
    · obtain ⟨n, rfl⟩ := Nat.exists_eq_add_of_le' hge
      rw [hrest]
      exact hruns.short hno n (by omega)

/-- **The loop.** -/
theorem exec_attempts (b : Nat) (h : AtAttempt job m screenshot history state)
    (hb : (b : Int) + 1 = max 1 (m - history.length)) (tr : List RecoveryEvent) :
    ∃ init last out, RunsAs x job screenshot history state tr b init last out := by
  induction b generalizing history state tr with
  | zero =>
    obtain ⟨a, ha⟩ := @exec_attempt x _ _ _ _ _ h tr
    by_cases hv : a.verdict = .rejected
    · exact ⟨[], a, runsAs_exhausted h ha hv (by omega)⟩
    · exact ⟨[], a, runsAs_last h 0 ha hv⟩
  | succ b ih =>
    obtain ⟨a, ha⟩ := @exec_attempt x _ _ _ _ _ h tr
    by_cases hv : a.verdict = .rejected
    · unfold Continues at ha
      rw [hv] at ha
      obtain ⟨state', hstate', hinvalid, hrest⟩ := ha
      have hlen : ((a.addTo history).length : Int) = history.length + 1 := by
        rw [length_addTo hv]; rfl
      rw [decideNextStep_invalid hstate' hinvalid, if_pos (by omega)] at hrest
      obtain ⟨init, last, out, hruns⟩ :=
        ih hstate' (by omega) (tr ++ a.events job screenshot history)
      exact ⟨a :: init, last, out, hruns.cons h hv hrest⟩
    · exact ⟨[], a, runsAs_last h _ ha hv⟩

end Loop

end Sentinel
