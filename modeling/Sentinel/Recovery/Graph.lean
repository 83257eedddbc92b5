import Sentinel.Recovery.State

/-!
# The recovery graph

Six nodes over one state. A node makes its calls and returns the keys it changes; the graph
merges them and goes on along the edge of the node, until an edge leads to the end.

* `runNode`, `edge` — the nodes and the wiring
* `ainvoke` — a run, which raises if it needs more nodes than the step limit allows
-/

namespace Sentinel

open Lib

inductive Node
  | captureScreenshot
  | analyzeAndPropose
  | validateSelectorsLive
  | handleNoConfidentProposal
  | persistSelector
  | escalateHuman
deriving DecidableEq, Repr

/-! ## nodes -/

def captureScreenshot (state : RecoveryState) : RecoveryProg StateUpdate := do
  let screenshotBase64 ← RecoveryPort.captureScreenshot state.url
  return { screenshotBase64 := some screenshotBase64 }

def analyzeAndPropose (state : RecoveryState) : RecoveryProg StateUpdate :=
  if state.screenshotBase64 = .null then
    throw (.valueError ("analyze_and_propose requires a screenshot_base64 already captured - " ++
      "this node must run after capture_screenshot in the graph."))
  else do
    let proposal ← RecoveryPort.proposeSelectors state.screenshotBase64 state.expectedSchema
      state.rejectionHistory
    if !proposal.isConfident then
      return { proposedSelectors := some none }
    else
      return { proposedSelectors := some (some proposal.selectors) }

/-- The update after a live test of `proposedSelectors`. -/
def liveTestUpdate (state : RecoveryState) (proposedSelectors : Dict String String)
    (result : WorkerExtractionResult) : StateUpdate :=
  if result.success then
    { validationResult := some .valid, recoveredData := some result.data }
  else
    { validationResult := some .invalid
      rejectionHistory := some (state.rejectionHistory ++
        [.rejected state.attemptNumber proposedSelectors
          ((result.failureReason.map FailureReason.value).getD "unknown")])
      proposedSelectors := some none
      attemptNumber := some (state.attemptNumber + 1) }

def validateSelectorsLive (state : RecoveryState) : RecoveryProg StateUpdate :=
  match state.proposedSelectors with
  | none => throw .assertionError
  | some proposedSelectors => do
    let result ← RecoveryPort.validateSelectors state.url state.domain state.expectedSchema.keys
      proposedSelectors
    return liveTestUpdate state proposedSelectors result

def handleNoConfidentProposal (state : RecoveryState) : RecoveryProg StateUpdate :=
  return { validationResult := some .invalid
           rejectionHistory := some (state.rejectionHistory ++
             [.noConfidentProposal state.attemptNumber])
           attemptNumber := some (state.attemptNumber + 1) }

def persistSelector (state : RecoveryState) : RecoveryProg StateUpdate :=
  match state.proposedSelectors with
  | none => throw .assertionError
  | some proposedSelectors => do
    proposedSelectors.entries.forM fun item =>
      RecoveryPort.saveApprovedSelector state.domain item.1 item.2
    return { finalStatus := some .success }

def escalateHuman (_state : RecoveryState) : RecoveryProg StateUpdate :=
  return { finalStatus := some .needsHumanReview }

/-! ## wiring -/

def routeAfterProposal (state : RecoveryState) : Node :=
  match state.proposedSelectors with
  | none => .handleNoConfidentProposal
  | some _ => .validateSelectorsLive

def decideNextStep (state : RecoveryState) : Node :=
  if state.validationResult = .valid then .persistSelector
  else if state.attemptNumber ≤ state.maxAttempts then .analyzeAndPropose
  else .escalateHuman

def runNode : Node → RecoveryState → RecoveryProg StateUpdate
  | .captureScreenshot => captureScreenshot
  | .analyzeAndPropose => analyzeAndPropose
  | .validateSelectorsLive => validateSelectorsLive
  | .handleNoConfidentProposal => handleNoConfidentProposal
  | .persistSelector => persistSelector
  | .escalateHuman => escalateHuman

/-- The node after this one in the merged state; `none` is the end. -/
def edge : Node → RecoveryState → Option Node
  | .captureScreenshot, _ => some .analyzeAndPropose
  | .analyzeAndPropose, state => some (routeAfterProposal state)
  | .validateSelectorsLive, state => some (decideNextStep state)
  | .handleNoConfidentProposal, state => some (decideNextStep state)
  | .persistSelector, _ => none
  | .escalateHuman, _ => none

/-- Run from a node on, for at most `limit` nodes. -/
def runFrom : Nat → Node → RecoveryState → RecoveryProg RecoveryState
  | 0, _, _ => throw .graphRecursionError
  | limit + 1, node, state => do
    let update ← runNode node state
    match edge node (state.merge update) with
    | none => return state.merge update
    | some next => runFrom limit next (state.merge update)

/-- `graph.ainvoke(state)` under a step limit. -/
def ainvoke (limit : Nat) (state : RecoveryState) : RecoveryProg RecoveryState :=
  runFrom limit .captureScreenshot state

end Sentinel
