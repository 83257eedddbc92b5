import Sentinel.Recovery.Graph

/-!
# The guards of the nodes

Three nodes check fields of the state that other nodes are to have set, and the last step of a
recovery takes the recovered data without a check. The wiring sees to it that no check fails, as
long as the worker and the engine answer with values of the declared types.

* `Declared` — the types of the answers in the two ports
* `Entered` — the nodes a run goes through, each with the node before it
* `Guarded` — what holds when a node is entered; every node hands it on
* `guards_unreachable` — a run raises nothing but what one of its calls has raised
-/

namespace Sentinel

open Lib Prog RecoveryQueueConsumer

/-- A `str`, or a result whose data are a `dict[str, str]`. -/
def Declared : (op : RecoveryPort.Op) → RecoveryPort.Ans op → Prop
  | .captureScreenshot _, screenshot => ∃ png, screenshot = Json.str png
  | .validateSelectors _ _ _ _, result => ∃ data, result.data.asDict = some data
  | .saveApprovedSelector _ _ _, _ => True
  | .proposeSelectors _ _ _, _ => True

/-- Each call answers with any value of its type or raises any exception of `E`. -/
def declaredSem (E : PyError → Prop) : (op : RecoveryPort.Op) → Unit →
    Except PyError (RecoveryPort.Ans op) → Unit → Prop
  | op, _, .ok a, _ => Declared op a
  | _, _, .error e, _ => E e

/-- A run from `init` enters the node in the state; `prev` is the node before, if there is one. -/
inductive Entered (E : PyError → Prop) (init : RecoveryState) :
    Option Node → Node → RecoveryState → Prop
  | start : Entered E init none .captureScreenshot init
  | next {prev : Option Node} {node next : Node} {state : RecoveryState} {update : StateUpdate} :
      Entered E init prev node state →
      Evals (declaredSem E) (runNode node state) () (.ok update) () →
      edge node (state.merge update) = some next →
      Entered E init (some node) next (state.merge update)

/-- What the guards of the node ask for. -/
structure Guarded (prev : Option Node) (node : Node) (state : RecoveryState) : Prop where
  screenshot : node ≠ .captureScreenshot → state.screenshotBase64 ≠ .null
  proposed : node = .validateSelectorsLive → ∃ selectors, state.proposedSelectors = some selectors
  approved : node = .persistSelector → prev = some .validateSelectorsLive ∧
    (∃ selectors, state.proposedSelectors = some selectors) ∧ state.recoveredData ≠ .null

section Nodes

variable {E : PyError → Prop} {prev : Option Node} {node next : Node} {state : RecoveryState}
  {update : StateUpdate}

theorem asDict_ne_null {json : Json} {data : Dict String String}
    (h : json.asDict = some data) : json ≠ .null := by
  rintro rfl
  cases h

/-- After a node: it has raised what a call has raised, or its successor is guarded, or the run
ends and a success comes with data. -/
def Handed (E : PyError → Prop) (node : Node) (state : RecoveryState) :
    Except PyError StateUpdate → Prop
  | .error e => E e
  | .ok update =>
    match edge node (state.merge update) with
    | none => (state.merge update).finalStatus = some .success →
        (state.merge update).recoveredData ≠ .null
    | some next => Guarded (some node) next (state.merge update)

/-- The route after a verdict leads back to the engine or to the end, unless the verdict is
`valid`. -/
theorem guarded_decideNextStep {state' : RecoveryState}
    (hscreenshot : state'.screenshotBase64 ≠ .null)
    (hvalid : state'.validationResult = .valid → node = .validateSelectorsLive ∧
      (∃ selectors, state'.proposedSelectors = some selectors) ∧ state'.recoveredData ≠ .null) :
    Guarded (some node) (decideNextStep state') state' := by
  unfold decideNextStep
  split
  · next hv =>
    obtain ⟨rfl, hsel, hdata⟩ := hvalid hv
    exact ⟨fun _ => hscreenshot, nofun, fun _ => ⟨rfl, hsel, hdata⟩⟩
  · split
    · exact ⟨fun _ => hscreenshot, nofun, nofun⟩
    · exact ⟨fun _ => hscreenshot, nofun, nofun⟩

theorem captureScreenshot_handed {out : Except PyError StateUpdate}
    (h : Evals (declaredSem E) (captureScreenshot state) () out ()) :
    Handed E .captureScreenshot state out := by
  unfold captureScreenshot at h
  rw [evals_bind] at h
  rcases h with ⟨screenshot, _, hop, h⟩ | ⟨e, hop, rfl⟩
  · rw [evals_perform] at hop
    obtain ⟨png, rfl⟩ := hop
    rw [pure_eq, evals_ret] at h
    cases h.1
    exact ⟨fun _ => nofun, nofun, nofun⟩
  · exact evals_perform.mp hop

theorem analyzeAndPropose_handed (hg : Guarded prev .analyzeAndPropose state)
    {out : Except PyError StateUpdate}
    (h : Evals (declaredSem E) (analyzeAndPropose state) () out ()) :
    Handed E .analyzeAndPropose state out := by
  have hscreenshot := hg.screenshot nofun
  unfold analyzeAndPropose at h
  rw [if_neg hscreenshot, evals_bind] at h
  rcases h with ⟨proposal, _, -, h⟩ | ⟨e, hop, rfl⟩
  · -- the route looks at the very field the live test will look at
    split at h
    · rw [pure_eq, evals_ret] at h
      cases h.1
      exact ⟨fun _ => hscreenshot, nofun, nofun⟩
    · rw [pure_eq, evals_ret] at h
      cases h.1
      exact ⟨fun _ => hscreenshot, fun _ => ⟨_, rfl⟩, nofun⟩
  · exact evals_perform.mp hop

theorem validateSelectorsLive_handed (hg : Guarded prev .validateSelectorsLive state)
    {out : Except PyError StateUpdate}
    (h : Evals (declaredSem E) (validateSelectorsLive state) () out ()) :
    Handed E .validateSelectorsLive state out := by
  have hscreenshot := hg.screenshot nofun
  obtain ⟨selectors, hsel⟩ := hg.proposed rfl
  unfold validateSelectorsLive at h
  rw [hsel] at h
  simp only at h
  rw [evals_bind] at h
  rcases h with ⟨result, _, hop, h⟩ | ⟨e, hop, rfl⟩
  · rw [evals_perform] at hop
    obtain ⟨data, hdata⟩ := hop
    rw [pure_eq, evals_ret] at h
    cases h.1
    show Guarded _ (decideNextStep _) _
    unfold liveTestUpdate
    split
    · -- the map is kept, and the data are those of the answer
      exact guarded_decideNextStep hscreenshot fun _ =>
        ⟨rfl, ⟨selectors, hsel⟩, asDict_ne_null hdata⟩
    · exact guarded_decideNextStep hscreenshot nofun
  · exact evals_perform.mp hop

theorem handleNoConfidentProposal_handed (hg : Guarded prev .handleNoConfidentProposal state)
    {out : Except PyError StateUpdate}
    (h : Evals (declaredSem E) (handleNoConfidentProposal state) () out ()) :
    Handed E .handleNoConfidentProposal state out := by
  unfold handleNoConfidentProposal at h
  rw [pure_eq, evals_ret] at h
  cases h.1
  show Guarded _ (decideNextStep _) _
  exact guarded_decideNextStep (hg.screenshot nofun) nofun

/-- The saves raise what one of them has raised. -/
theorem saves_raise {domain : String} {l : List (String × String)} {e : PyError}
    (h : Evals (declaredSem E) (l.forM fun item =>
      RecoveryPort.saveApprovedSelector domain item.1 item.2) () (.error e) ()) : E e := by
  induction l with
  | nil => cases h
  | cons item l ih =>
    rw [List.forM_eq_forM, List.forM_cons, evals_bind] at h
    rcases h with ⟨_, _, -, h⟩ | ⟨e', hop, he⟩
    · exact ih h
    · cases he
      exact evals_perform.mp hop

theorem persistSelector_handed (hg : Guarded prev .persistSelector state)
    {out : Except PyError StateUpdate}
    (h : Evals (declaredSem E) (persistSelector state) () out ()) :
    Handed E .persistSelector state out := by
  obtain ⟨-, ⟨selectors, hsel⟩, hdata⟩ := hg.approved rfl
  unfold persistSelector at h
  rw [hsel] at h
  simp only at h
  rw [evals_bind] at h
  rcases h with ⟨_, _, -, h⟩ | ⟨e, hsaves, rfl⟩
  · rw [pure_eq, evals_ret] at h
    cases h.1
    exact fun _ => hdata
  · exact saves_raise hsaves

theorem escalateHuman_handed {out : Except PyError StateUpdate}
    (h : Evals (declaredSem E) (escalateHuman state) () out ()) :
    Handed E .escalateHuman state out := by
  unfold escalateHuman at h
  rw [pure_eq, evals_ret] at h
  cases h.1
  exact nofun

/-- A guarded node raises nothing of its own, and hands the guards on. -/
theorem runNode_handed (hg : Guarded prev node state) {out : Except PyError StateUpdate}
    (h : Evals (declaredSem E) (runNode node state) () out ()) : Handed E node state out := by
  cases node with
  | captureScreenshot => exact captureScreenshot_handed h
  | analyzeAndPropose => exact analyzeAndPropose_handed hg h
  | validateSelectorsLive => exact validateSelectorsLive_handed hg h
  | handleNoConfidentProposal => exact handleNoConfidentProposal_handed hg h
  | persistSelector => exact persistSelector_handed hg h
  | escalateHuman => exact escalateHuman_handed h

end Nodes

/-! ## runs -/

section Runs

variable {E : PyError → Prop} {job : Job} {maxAttempts : Int} {prev : Option Node} {node : Node}
  {state : RecoveryState}

theorem Entered.guarded
    (h : Entered E (buildInitialState job maxAttempts) prev node state) :
    Guarded prev node state := by
  induction h with
  | start => exact ⟨fun hne => absurd rfl hne, nofun, nofun⟩
  | next _ hrun hedge ih =>
    have hhanded := runNode_handed ih hrun
    simp only [Handed] at hhanded
    rw [hedge] at hhanded
    exact hhanded

/-- A run goes from one entered node to the next, and ends in one of them. -/
theorem runFrom_entered {init : RecoveryState} {limit : Nat}
    {out : Except PyError RecoveryState} (hentered : Entered E init prev node state)
    (h : Evals (declaredSem E) (runFrom limit node state) () out ()) :
    out = .error .graphRecursionError ∨ ∃ prev node state result,
      Entered E init prev node state ∧
        Evals (declaredSem E) (runNode node state) () result () ∧
        ((∃ e, result = .error e ∧ out = .error e) ∨
          ∃ update, result = .ok update ∧ edge node (state.merge update) = none ∧
            out = .ok (state.merge update)) := by
  induction limit generalizing prev node state with
  | zero => exact Or.inl (evals_raise.mp h).1
  | succ limit ih =>
    rw [runFrom, evals_bind] at h
    rcases h with ⟨update, _, hnode, h⟩ | ⟨e, hnode, rfl⟩
    · cases hedge : edge node (state.merge update) with
      | none =>
        rw [hedge] at h
        exact Or.inr ⟨_, _, _, _, hentered, hnode,
          Or.inr ⟨update, rfl, hedge, (evals_ret.mp h).1⟩⟩
      | some next =>
        rw [hedge] at h
        exact ih (hentered.next hnode hedge) h
    · exact Or.inr ⟨_, _, _, _, hentered, hnode, Or.inl ⟨e, rfl, rfl⟩⟩

end Runs

/--
**The guards are unreachable.** Whatever the calls answer within the declared types, and whatever
they raise: every node is entered with what it asks for, `persistSelector` right after the live
test, and it raises nothing of its own. So a run raises what one of its calls has raised, unless it
comes to the step limit, and a success comes with data.
-/
theorem guards_unreachable (E : PyError → Prop) (job : Job) (maxAttempts : Int) :
    (∀ prev node state, Entered E (buildInitialState job maxAttempts) prev node state →
      Guarded prev node state ∧
        ∀ e, Evals (declaredSem E) (runNode node state) () (.error e) () → E e) ∧
    ∀ limit,
      (∀ e, Evals (declaredSem E) (ainvoke limit (buildInitialState job maxAttempts)) ()
        (.error e) () → E e ∨ e = .graphRecursionError) ∧
      ∀ final, Evals (declaredSem E) (ainvoke limit (buildInitialState job maxAttempts)) ()
        (.ok final) () → final.finalStatus = some .success → final.recoveredData ≠ .null := by
  refine ⟨fun prev node state h => ⟨h.guarded, fun e hrun => runNode_handed h.guarded hrun⟩,
    fun limit => ⟨fun e h => ?_, fun final h => ?_⟩⟩
  · rcases runFrom_entered .start h with he | ⟨_, _, _, result, hentered, hrun, hend⟩
    · cases he
      exact Or.inr rfl
    · rcases hend with ⟨e', rfl, he⟩ | ⟨_, _, _, he⟩
      · cases he
        exact Or.inl (runNode_handed hentered.guarded hrun)
      · cases he
  · rcases runFrom_entered .start h with he | ⟨_, _, _, result, hentered, hrun, hend⟩
    · cases he
    · rcases hend with ⟨_, _, he⟩ | ⟨update, rfl, hedge, he⟩
      · cases he
      · have hhanded := runNode_handed hentered.guarded hrun
        simp only [Handed] at hhanded
        rw [hedge] at hhanded
        cases he
        exact hhanded

end Sentinel
