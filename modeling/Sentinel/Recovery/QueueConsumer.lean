import Mathlib.Data.List.Infix
import Sentinel.System.Port

/-!
# The consumer of the recovery queue

A consumer reads a message of the recovery stream, or claims messages that others have left
pending, runs the recovery graph for the job it names, writes the outcome back and acknowledges
the message after that.

The recovery engine is a process that takes one message after another for as long as it lives.
Nothing else in it reads the stream: stale messages are never reclaimed.
-/

namespace Sentinel

open Lib

namespace SqlJobRepository

def get (jobId : String) : SystemProg (Option Job) := do
  let model ← await (.selectJob jobId)
  match model with
  | none => return none
  | some model => do
    let job ← Prog.lift (modelToJob model)
    return some job

def update (job : Job) : SystemProg Unit := do
  let model ← await (.sessionGet job.id)
  match model with
  | none => throw (.valueError ("Cannot update unknown job " ++ job.id))
  | some model => await (.commitUpdate model (model.assign job))

end SqlJobRepository

/-- The configuration of a consumer. -/
structure RecoveryQueueConsumer where
  consumerName : String
  maxAttempts : Int

namespace RecoveryQueueConsumer

/-- Creating the group answers `BUSYGROUP` when it exists. -/
def ensureGroupExists : SystemProg Unit :=
  Prog.handle (await .xgroupCreate) fun
    | .responseError message =>
      if "BUSYGROUP".toList <:+: message.toList then Prog.ret ()
      else Prog.raise (.responseError message)
    | e => Prog.raise e

def applyFinalState (job : Job) (finalState : RecoveryState) : SystemProg Unit :=
  SqlJobRepository.update (finalJob job finalState)

def processJob (self : RecoveryQueueConsumer) (jobId : String) (messageId : Nat) :
    SystemProg (Option String) := do
  let job ← SqlJobRepository.get jobId
  match job with
  | none => do
    let _ ← await (.xack messageId)
    return none
  | some job => do
    let finalState ← await (.ainvoke (buildInitialState job self.maxAttempts))
    applyFinalState job finalState
    let _ ← await (.xack messageId)
    return some jobId

/-- `fields[key]`. -/
def field (fields : Dict String String) (key : String) : Except PyError String :=
  match fields.get? key with
  | some value => .ok value
  | none => .error (.keyError key)

def handleMessage (self : RecoveryQueueConsumer) (message : Message) :
    SystemProg (Option String) := do
  let jobId ← Prog.lift (field message.fields "job_id")
  processJob self jobId message.id

def processNextJob (self : RecoveryQueueConsumer) : SystemProg (Option String) := do
  ensureGroupExists
  let response ← await (.xreadgroup self.consumerName)
  match response with
  | none => return none
  | some message => handleMessage self message

/-- One round of the loop over the claimed messages. -/
def reclaimMessage (self : RecoveryQueueConsumer) (reclaimedJobIds : List String)
    (message : Message) : SystemProg (List String) := do
  let jobId ← handleMessage self message
  return reclaimedJobIds ++ jobId.toList

def reclaimStaleMessages (self : RecoveryQueueConsumer) (minIdleTimeMs : Nat) :
    SystemProg (List String) := do
  ensureGroupExists
  let (_, claimedMessages) ← await (.xautoclaim self.consumerName minIdleTimeMs)
  claimedMessages.foldlM (reclaimMessage self) []

end RecoveryQueueConsumer

/--
The first `rounds` rounds of `_consume_forever`. An exception ends its round; the pause of a second
that follows makes no call.
-/
def consumeForever (self : RecoveryQueueConsumer) : Nat → SystemProg Unit
  | 0 => return ()
  | rounds + 1 => do
    Prog.handle (self.processNextJob >>= fun _ => pure ()) fun _ => pure ()
    consumeForever self rounds

end Sentinel
