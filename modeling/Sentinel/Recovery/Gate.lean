import Sentinel.Lib.RelyGuarantee
import Sentinel.Recovery.Graph

/-!
# The deterministic gate

No selector is persisted unless it passed a live test in the same run. The record of a run is the
list of its calls with their answers; the selectors, the verdict and the data travel in three
fields of the state, and what ties them together is the record.

* `Approved` — a record that ends with a successful live test of a proposal, and saves after it
* `Ready` — what holds of state and record when a node is entered
* `deterministic_gate` — the gate, for every engine, every worker and every answer
-/

namespace Sentinel

open Lib Prog RecoveryQueueConsumer

abbrev RecoveryEvent := Prog.Event RecoveryPort PyError

/-- A live test of `selectors` for `job` that was answered with `result`. -/
def liveTest (job : Job) (selectors : Dict String String) (result : WorkerExtractionResult) :
    RecoveryEvent :=
  ⟨.validateSelectors job.url job.domain (expectedSchema job.requiredFields).keys selectors,
    .ok result⟩

def saveEvent (job : Job) (item : String × String) : RecoveryEvent :=
  ⟨.saveApprovedSelector job.domain item.1 item.2, .ok ()⟩

/-- The live tests ask for exactly the required fields. -/
@[simp] theorem mem_expectedSchema_keys {fields : List String} {k : String} :
    k ∈ (expectedSchema fields).keys ↔ k ∈ fields :=
  Dict.mem_keys_fromKeys

def NoSave (tr : List RecoveryEvent) : Prop :=
  ∀ ev ∈ tr, ∀ domain fieldName value, ev.op ≠ .saveApprovedSelector domain fieldName value

/-- The engine has proposed the map, confidently, for the job's fields. -/
def Proposed (job : Job) (selectors : Dict String String) (tr : List RecoveryEvent) : Prop :=
  ∃ screenshot history, (⟨.proposeSelectors screenshot (expectedSchema job.requiredFields) history,
    .ok ⟨true, selectors⟩⟩ : RecoveryEvent) ∈ tr

/-- The last live test of the record succeeded, with a proposed map, and `rest` came after it. -/
def Approved (job : Job) (tr : List RecoveryEvent) (selectors : Dict String String)
    (result : WorkerExtractionResult) (rest : List RecoveryEvent) : Prop :=
  ∃ pre, tr = pre ++ liveTest job selectors result :: rest ∧ result.success = true ∧
    NoSave pre ∧ Proposed job selectors pre

/-- Nothing was saved, or what was saved are pairs of one map, that of the last live test. -/
def Gated (job : Job) (tr : List RecoveryEvent) : Prop :=
  NoSave tr ∨ ∃ selectors result rest, Approved job tr selectors result rest ∧
    ∀ ev ∈ rest, ∃ item ∈ selectors.entries,
      ev.op = .saveApprovedSelector job.domain item.1 item.2

section Record

variable {job : Job} {tr : List RecoveryEvent}

theorem noSave_nil : NoSave [] := nofun

theorem NoSave.concat (h : NoSave tr) (ev : RecoveryEvent)
    (hev : ∀ d f v, ev.op ≠ .saveApprovedSelector d f v) : NoSave (tr ++ [ev]) := by
  intro e he
  rcases List.mem_append.mp he with he | he
  · exact h e he
  · rw [List.mem_singleton.mp he]
    exact hev

theorem Approved.concat {selectors : Dict String String} {result : WorkerExtractionResult}
    {rest : List RecoveryEvent} (h : Approved job tr selectors result rest) (ev : RecoveryEvent) :
    Approved job (tr ++ [ev]) selectors result (rest ++ [ev]) := by
  obtain ⟨pre, rfl, hpre⟩ := h
  exact ⟨pre, by simp, hpre⟩

end Record

/-! ## the nodes -/

/-- What a finished run has done. -/
def Settled (job : Job) : Except PyError RecoveryState → List RecoveryEvent → Prop
  | .error _, _ => True
  | .ok final, tr =>
    (final.finalStatus = some .needsHumanReview → NoSave tr) ∧
      (final.finalStatus = some .success → ∃ selectors result,
        Approved job tr selectors result (selectors.entries.map (saveEvent job)) ∧
          final.recoveredData = result.data)

/-- When a node is entered: nothing is saved yet, a map that is to be tested has been proposed,
and a map that is to be persisted is that of the last call, a live test with this data. -/
structure Ready (job : Job) (node : Node) (state : RecoveryState) (tr : List RecoveryEvent) :
    Prop where
  url : state.url = job.url
  domain : state.domain = job.domain
  schema : state.expectedSchema = expectedSchema job.requiredFields
  noSave : NoSave tr
  proposed : node = .validateSelectorsLive →
    ∃ selectors, state.proposedSelectors = some selectors ∧ Proposed job selectors tr
  approved : node = .persistSelector → ∃ selectors result,
    state.proposedSelectors = some selectors ∧ state.recoveredData = result.data ∧
      Approved job tr selectors result []

/-- After a node: its successor is ready, or the run is settled. -/
def NodeDone (job : Job) (node : Node) (state : RecoveryState) :
    Except PyError StateUpdate → List RecoveryEvent → Prop
  | .error _, _ => True
  | .ok update, tr =>
    match edge node (state.merge update) with
    | none => Settled job (.ok (state.merge update)) tr
    | some next => Ready job next (state.merge update) tr

/-- The promise at each call: the record stays gated. -/
abbrev gate (job : Job) : Contract RecoveryPort PyError (List RecoveryEvent) :=
  Contract.solo recording fun _ _ tr' => Gated job tr'

section Nodes

variable {job : Job} {state : RecoveryState} {tr : List RecoveryEvent}

theorem captureScreenshot_safe (h : Ready job .captureScreenshot state tr) :
    (captureScreenshot state).Safe (gate job) (NodeDone job .captureScreenshot state) tr := by
  refine safe_solo_perform_bind.mpr ?_
  rintro r _ rfl
  have hno := h.noSave.concat ⟨.captureScreenshot state.url, r⟩ nofun
  refine ⟨Or.inl hno, ?_⟩
  cases r with
  | error e => trivial
  | ok screenshot => exact ⟨h.url, h.domain, h.schema, hno, nofun, nofun⟩

theorem analyzeAndPropose_safe (h : Ready job .analyzeAndPropose state tr) :
    (analyzeAndPropose state).Safe (gate job) (NodeDone job .analyzeAndPropose state) tr := by
  unfold analyzeAndPropose
  split
  · trivial
  · refine safe_solo_perform_bind.mpr ?_
    rintro r _ rfl
    have hno := h.noSave.concat ⟨.proposeSelectors state.screenshotBase64
      state.expectedSchema state.rejectionHistory, r⟩ nofun
    refine ⟨Or.inl hno, ?_⟩
    cases r with
    | error e => trivial
    | ok proposal =>
      obtain ⟨isConfident, selectors⟩ := proposal
      cases isConfident with
      -- the map is cleared, so the route leads to `handleNoConfidentProposal`
      | false => exact ⟨h.url, h.domain, h.schema, hno, nofun, nofun⟩
      | true =>
        refine ⟨h.url, h.domain, h.schema, hno, fun _ => ⟨selectors, rfl,
          state.screenshotBase64, state.rejectionHistory, ?_⟩, nofun⟩
        rw [← h.schema]
        exact List.mem_append_right _ (List.mem_singleton_self _)

/-- The route after a verdict never leads to a live test without a new proposal. -/
theorem ready_decideNextStep {node : Node} {state' : RecoveryState}
    (h : Ready job node state tr) (hurl : state'.url = state.url)
    (hdomain : state'.domain = state.domain)
    (hschema : state'.expectedSchema = state.expectedSchema)
    {tr' : List RecoveryEvent} (hno : NoSave tr')
    (happroved : state'.validationResult = .valid → ∃ selectors result,
      state'.proposedSelectors = some selectors ∧ state'.recoveredData = result.data ∧
        Approved job tr' selectors result []) :
    Ready job (decideNextStep state') state' tr' := by
  refine ⟨hurl.trans h.url, hdomain.trans h.domain, hschema.trans h.schema, hno, ?_, ?_⟩
  · intro hnode
    unfold decideNextStep at hnode
    split at hnode
    · cases hnode
    · split at hnode <;> cases hnode
  · intro hnode
    unfold decideNextStep at hnode
    split at hnode
    · next hv => exact happroved hv
    · split at hnode <;> cases hnode

theorem validateSelectorsLive_safe (h : Ready job .validateSelectorsLive state tr) :
    (validateSelectorsLive state).Safe (gate job) (NodeDone job .validateSelectorsLive state)
      tr := by
  obtain ⟨selectors, hsel, hprop⟩ := h.proposed rfl
  unfold validateSelectorsLive
  rw [hsel]
  refine safe_solo_perform_bind.mpr ?_
  rintro r _ rfl
  have hno := h.noSave.concat ⟨.validateSelectors state.url state.domain
    state.expectedSchema.keys selectors, r⟩ nofun
  refine ⟨Or.inl hno, ?_⟩
  cases r with
  | error e => trivial
  | ok result =>
    show Ready job (decideNextStep (state.merge (liveTestUpdate state selectors result))) _ _
    unfold liveTestUpdate
    split
    · next hok =>
      -- the map in the state is still the one that was tested
      have happ : Approved job (tr ++ [⟨.validateSelectors state.url state.domain
          state.expectedSchema.keys selectors, .ok result⟩]) selectors result [] := by
        rw [h.url, h.domain, h.schema]
        exact ⟨tr, rfl, hok, h.noSave, hprop⟩
      exact ready_decideNextStep h (by rfl) (by rfl) (by rfl) hno
        fun _ => ⟨selectors, result, hsel, rfl, happ⟩
    · -- the map is dropped, and the verdict is not `valid`
      exact ready_decideNextStep h (by rfl) (by rfl) (by rfl) hno (by nofun)

theorem handleNoConfidentProposal_safe (h : Ready job .handleNoConfidentProposal state tr) :
    (handleNoConfidentProposal state).Safe (gate job)
      (NodeDone job .handleNoConfidentProposal state) tr := by
  show Ready job (decideNextStep (state.merge _)) (state.merge _) tr
  exact ready_decideNextStep h (by rfl) (by rfl) (by rfl) h.noSave (by nofun)

theorem persistSelector_safe (h : Ready job .persistSelector state tr) :
    (persistSelector state).Safe (gate job) (NodeDone job .persistSelector state) tr := by
  obtain ⟨selectors, result, hsel, hdata, happ⟩ := h.approved rfl
  unfold persistSelector
  rw [hsel]
  -- what is left of the map, against the saves already recorded
  let J : List (String × String) → List RecoveryEvent → Prop := fun left tr' => ∃ done,
    selectors.entries = done ++ left ∧ Approved job tr' selectors result (done.map (saveEvent job))
  have hloop : (selectors.entries.forM fun item =>
      RecoveryPort.saveApprovedSelector state.domain item.1 item.2).Safe (gate job)
      (fun out tr' => match out with
        | .ok _ => Approved job tr' selectors result (selectors.entries.map (saveEvent job))
        | .error _ => True) tr := by
    refine Safe.forM (J := J) ?_ ?_ _ _ ⟨[], rfl, happ⟩
    · rintro item left tr' ⟨done, hent, happ'⟩
      refine safe_perform.mpr ?_
      rintro _ rfl - r _ rfl
      refine ⟨⟨Or.inr ⟨selectors, result, _, happ'.concat _, ?_⟩, trivial⟩, ?_⟩
      · intro ev hev
        rcases List.mem_append.mp hev with hev | hev
        · obtain ⟨item', hmem, rfl⟩ := List.mem_map.mp hev
          exact ⟨item', by rw [hent]; exact List.mem_append_left _ hmem, rfl⟩
        · rw [List.mem_singleton.mp hev, h.domain]
          exact ⟨item, by rw [hent]; simp, rfl⟩
      · cases r with
        | error e => trivial
        | ok u =>
          refine ⟨done ++ [item], by simp [hent], ?_⟩
          have happ'' := happ'.concat (saveEvent job item)
          rw [List.map_append]
          rw [h.domain]
          exact happ''
    · rintro tr' ⟨done, hent, happ'⟩
      rw [List.append_nil] at hent
      rw [hent]
      exact happ'
  refine hloop.bind (fun _ tr' happ' => ?_) fun _ _ _ => trivial
  exact ⟨nofun, fun _ => ⟨selectors, result, happ', hdata⟩⟩

theorem escalateHuman_safe (h : Ready job .escalateHuman state tr) :
    (escalateHuman state).Safe (gate job) (NodeDone job .escalateHuman state) tr :=
  ⟨fun _ => h.noSave, nofun⟩

theorem runNode_safe (node : Node) (h : Ready job node state tr) :
    (runNode node state).Safe (gate job) (NodeDone job node state) tr := by
  cases node with
  | captureScreenshot => exact captureScreenshot_safe h
  | analyzeAndPropose => exact analyzeAndPropose_safe h
  | validateSelectorsLive => exact validateSelectorsLive_safe h
  | handleNoConfidentProposal => exact handleNoConfidentProposal_safe h
  | persistSelector => exact persistSelector_safe h
  | escalateHuman => exact escalateHuman_safe h

end Nodes

/-! ## runs -/

theorem runFrom_safe {job : Job} (limit : Nat) (node : Node) {state : RecoveryState}
    {tr : List RecoveryEvent} (h : Ready job node state tr) :
    (runFrom limit node state).Safe (gate job) (Settled job) tr := by
  -- each node hands `Ready` on to its successor
  induction limit generalizing node state tr with
  | zero => trivial
  | succ limit ih =>
    refine (runNode_safe node h).bind (fun update tr' hdone => ?_) fun _ _ _ => trivial
    simp only [NodeDone] at hdone
    cases he : edge node (state.merge update) with
    | none => rw [he] at hdone; exact hdone
    | some next => rw [he] at hdone; exact ih next hdone

theorem ainvoke_safe (job : Job) (maxAttempts : Int) (limit : Nat) :
    (ainvoke limit (buildInitialState job maxAttempts)).Safe (gate job) (Settled job) [] :=
  runFrom_safe limit _ ⟨rfl, rfl, rfl, noSave_nil, nofun, nofun⟩

/-- What a run that has ended has done, for the engine and the worker it ran with. -/
theorem ainvoke_settled {job : Job} {maxAttempts : Int} {limit : Nat} {tr : List RecoveryEvent}
    {out : Except PyError RecoveryState}
    (h : Runs (ainvoke limit (buildInitialState job maxAttempts)) tr (lift out)) :
    Settled job out tr := by
  have hend := ((ainvoke_safe job maxAttempts limit).runs h).2
  cases out with
  | error e => trivial
  | ok final => exact hend

/--
**The deterministic gate.** At every moment of every run, nothing is saved, or the saved pairs
belong to one proposed map that just passed the last live test whole. A run that escalates saves
nothing; a run that succeeds has saved all of the map and recovered the data of that test.
-/
theorem deterministic_gate (job : Job) (maxAttempts : Int) (limit : Nat)
    {tr : List RecoveryEvent} {p : RecoveryProg RecoveryState}
    (h : Runs (ainvoke limit (buildInitialState job maxAttempts)) tr p) :
    Gated job tr ∧ ∀ final, p = .ret final →
      (final.finalStatus = some .needsHumanReview → NoSave tr) ∧
      (final.finalStatus = some .success → ∃ selectors result,
        Approved job tr selectors result (selectors.entries.map (saveEvent job)) ∧
          final.recoveredData = result.data) := by
  obtain ⟨hcalls, hend⟩ := (ainvoke_safe job maxAttempts limit).runs h
  refine ⟨?_, ?_⟩
  · rcases List.eq_nil_or_concat tr with rfl | ⟨pre, ev, rfl⟩
    · exact Or.inl noSave_nil
    · rw [List.concat_eq_append] at hcalls ⊢
      exact hcalls pre ev [] rfl
  · rintro final rfl
    exact hend

def shopJob : Job where
  id := "7"
  url := "https://shop.test/1"
  domain := "shop.test"
  requiredFields := ["title", "title"]
  status := .recoveryPending

/-- A run with one rejected proposal, which ends in the middle of saving the second one. -/
def shopRun : List RecoveryEvent :=
  [⟨.captureScreenshot "https://shop.test/1", .ok (.str "png")⟩,
    ⟨.proposeSelectors (.str "png") (Dict.fromKeys ["title"] .str) [],
      .ok ⟨true, Dict.empty.set "title" "h1"⟩⟩,
    liveTest shopJob (Dict.empty.set "title" "h1") ⟨false, .obj [], none⟩,
    ⟨.proposeSelectors (.str "png") (Dict.fromKeys ["title"] .str)
        [.rejected 1 (Dict.empty.set "title" "h1") "unknown"],
      .ok ⟨true, Dict.empty.set "title" "h2"⟩⟩,
    liveTest shopJob (Dict.empty.set "title" "h2") ⟨true, .obj [("title", .str "Hat")], none⟩,
    saveEvent shopJob ("title", "h2")]

theorem deterministic_gate_shop : Gated shopJob shopRun := by
  have h : ∃ p, Runs (ainvoke 25 (buildInitialState shopJob 3)) shopRun p := by
    apply Exists.intro
    iterate 6 apply Runs.call
    exact Runs.refl _
  obtain ⟨p, h⟩ := h
  exact (deterministic_gate shopJob 3 25 h).1

end Sentinel
