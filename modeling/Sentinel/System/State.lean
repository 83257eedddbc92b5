import Sentinel.Gateway.ProcessScrapeRequest
import Sentinel.Lib.Machine
import Sentinel.Recovery.QueueConsumer

/-!
# The system

One table `jobs`, one recovery stream, any number of gateway requests and of consumers. Every
call may raise, before or after it has taken effect, and every process may die between two calls.

* `commandStep` — what a call answers and does when it goes through
* `systemMachine` — the machine: requests, consumers and the clock
* `stepFaulty` — scripts over `commandStep` are runs of the machine

A request is known by the id of the job it creates, so no id is given out twice. A consumer
process is one call of the consumer; its loop is a series of such processes.
-/

namespace Sentinel

open Lib RecoveryQueueConsumer

/-- How a commit writes a changed row. -/
inductive WriteMode
  /-- Status, result and failure reason together. -/
  | atomic
  /-- Those of the three that differ from the row as it was loaded. -/
  | changedColumns
deriving DecidableEq, Repr

structure SystemState where
  jobs : String → Option JobModel
  stream : Stream (Dict String String)
  /-- The clock of the stream, in milliseconds. -/
  now : Nat

namespace SystemState

def initial : SystemState := ⟨fun _ => none, Stream.empty, 0⟩

def setJob (s : SystemState) (jobId : String) (row : JobModel) : SystemState :=
  { s with jobs := Function.update s.jobs jobId (some row) }

@[simp] theorem setJob_jobs_self (s : SystemState) (jobId : String) (row : JobModel) :
    (s.setJob jobId row).jobs jobId = some row := by
  simp [setJob]

theorem setJob_jobs_of_ne (s : SystemState) {jobId jobId' : String} (row : JobModel)
    (h : jobId' ≠ jobId) : (s.setJob jobId row).jobs jobId' = s.jobs jobId' := by
  simp [setJob, h]

/-- A row that is stored afterwards is the one that was written, or was stored before. -/
theorem setJob_cases {s : SystemState} {jobId jobId' : String} {row row' : JobModel}
    (h : (s.setJob jobId row).jobs jobId' = some row') :
    (jobId' = jobId ∧ row' = row) ∨ (jobId' ≠ jobId ∧ s.jobs jobId' = some row') := by
  by_cases hid : jobId' = jobId
  · subst hid
    rw [setJob_jobs_self] at h
    exact Or.inl ⟨rfl, (Option.some.inj h).symm⟩
  · rw [s.setJob_jobs_of_ne row hid] at h
    exact Or.inr ⟨hid, h⟩

end SystemState

/-- The row after a commit of `model`, which was `loaded` before it was changed. -/
def written (mode : WriteMode) (loaded model row : JobModel) : JobModel :=
  match mode with
  | .atomic =>
    { row with
      status := model.status, result := model.result, failureReason := model.failureReason }
  | .changedColumns =>
    { row with
      status := if model.status = loaded.status then row.status else model.status
      result := if model.result = loaded.result then row.result else model.result
      failureReason :=
        if model.failureReason = loaded.failureReason then row.failureReason
        else model.failureReason }

theorem ite_eq_new {α : Type} [DecidableEq α] (new old : α) :
    (if new = old then old else new) = new := by
  split
  · next h => exact h.symm
  · rfl

/-- A commit on the very row that was loaded makes it the new row. -/
@[simp] theorem written_self (mode : WriteMode) (row : JobModel) (job : Job) :
    written mode row (row.assign job) row = row.assign job := by
  cases mode with
  | atomic => rfl
  | changedColumns =>
    simp only [written, JobModel.assign]
    congr 1 <;> exact ite_eq_new _ _

/-! ## calls -/

/-- The commit of a new row; the id is the primary key. -/
def insertJob (model : JobModel) (s : SystemState) : Except PyError Unit × SystemState :=
  match s.jobs model.id with
  | some _ => (.error .integrityError, s)
  | none => (.ok (), s.setJob model.id model)

/-- The commit of a changed row. -/
def updateJob (mode : WriteMode) (loaded model : JobModel) (s : SystemState) :
    Except PyError Unit × SystemState :=
  match s.jobs model.id with
  | none => (.error .staleDataError, s)
  | some row => (.ok (), s.setJob model.id (written mode loaded model row))

/-- What the extraction service, the compiled graph and the tracer answer. -/
structure Replies where
  extract : String → String → List String → ExtractionResultDTO
  ainvoke : RecoveryState → RecoveryState
  traceContext : Dict String String := Dict.empty

/-- The answer of a stream command; the start id and the batch size are those of the defaults. -/
def streamStep {α : Type} (s : SystemState) :
    Except StreamError (α × Stream (Dict String String)) → Except PyError α × SystemState
  | .ok (a, stream) => (.ok a, { s with stream := stream })
  | .error .busyGroup =>
    (.error (.responseError "BUSYGROUP Consumer Group name already exists"), s)
  | .error .noGroup => (.error (.responseError "NOGROUP No such key or consumer group"), s)

def commandStep (mode : WriteMode) (reply : Replies) : (op : SystemPort.Op) → SystemState →
    Except PyError (SystemPort.Ans op) × SystemState
  | .sessionGet jobId, s => (.ok (s.jobs jobId), s)
  | .selectJob jobId, s => (.ok (s.jobs jobId), s)
  | .commitInsert model, s => insertJob model s
  | .commitUpdate loaded model, s => updateJob mode loaded model s
  | .extract url domain requiredFields, s => (.ok (reply.extract url domain requiredFields), s)
  | .ainvoke state, s => (.ok (reply.ainvoke state), s)
  | .injectTraceContext, s => (.ok reply.traceContext, s)
  | .xadd fields, s => streamStep s (.ok (s.stream.xadd fields))
  | .xgroupCreate, s => streamStep s (s.stream.xgroupCreate.map ((), ·))
  | .xreadgroup consumerName, s => streamStep s (s.stream.xreadgroup consumerName s.now)
  | .xautoclaim consumerName minIdleTimeMs, s =>
    streamStep s (s.stream.xautoclaim consumerName minIdleTimeMs 0 100 s.now)
  | .xack messageId, s => streamStep s (.ok (s.stream.xack messageId))

/-- The results that the services behind the two ports can return. -/
structure Services where
  extract : String → String → List String → ExtractionResultDTO → Prop
  ainvoke : RecoveryState → RecoveryState → Prop

/-- Services that may return anything. -/
def anyServices : Services := ⟨fun _ _ _ _ => True, fun _ _ => True⟩

/-- The tracer writes keys of its own, none of which is the key of the job id. -/
def Replies.Allowed (reply : Replies) (X : Services) : SystemOp → Prop
  | .extract url domain requiredFields =>
    X.extract url domain requiredFields (reply.extract url domain requiredFields)
  | .ainvoke state => X.ainvoke state (reply.ainvoke state)
  | .injectTraceContext => reply.traceContext.get? "job_id" = none
  | _ => True

/-- A call that goes through. -/
def commandOk (X : Services) (mode : WriteMode) (op : SystemPort.Op) (s : SystemState)
    (a : SystemPort.Ans op) (s' : SystemState) : Prop :=
  ∃ reply : Replies, reply.Allowed X op ∧ commandStep mode reply op s = (.ok a, s')

/-! ## what a call that goes through has done -/

section Ok

variable {X : Services} {mode : WriteMode} {s s' : SystemState}

theorem commandOk_sessionGet {jobId : String} {a : Option JobModel}
    (h : commandOk X mode (.sessionGet jobId) s a s') : a = s.jobs jobId ∧ s' = s := by
  obtain ⟨reply, -, h⟩ := h
  cases h
  exact ⟨rfl, rfl⟩

theorem commandOk_selectJob {jobId : String} {a : Option JobModel}
    (h : commandOk X mode (.selectJob jobId) s a s') : a = s.jobs jobId ∧ s' = s := by
  obtain ⟨reply, -, h⟩ := h
  cases h
  exact ⟨rfl, rfl⟩

theorem commandOk_extract {url domain : String} {requiredFields : List String}
    {a : ExtractionResultDTO} (h : commandOk X mode (.extract url domain requiredFields) s a s') :
    X.extract url domain requiredFields a ∧ s' = s := by
  obtain ⟨reply, hreply, h⟩ := h
  cases h
  exact ⟨hreply, rfl⟩

theorem commandOk_ainvoke {state a : RecoveryState}
    (h : commandOk X mode (.ainvoke state) s a s') : X.ainvoke state a ∧ s' = s := by
  obtain ⟨reply, hreply, h⟩ := h
  cases h
  exact ⟨hreply, rfl⟩

theorem commandOk_injectTraceContext {a : Dict String String}
    (h : commandOk X mode .injectTraceContext s a s') : a.get? "job_id" = none ∧ s' = s := by
  obtain ⟨reply, hreply, h⟩ := h
  cases h
  exact ⟨hreply, rfl⟩

theorem commandOk_commitInsert {model : JobModel}
    (h : commandOk X mode (.commitInsert model) s () s') :
    s.jobs model.id = none ∧ s' = s.setJob model.id model := by
  obtain ⟨reply, -, h⟩ := h
  change insertJob model s = _ at h
  unfold insertJob at h
  split at h
  · cases h
  · next hnone =>
    cases h
    exact ⟨hnone, rfl⟩

theorem commandOk_commitUpdate {loaded model : JobModel}
    (h : commandOk X mode (.commitUpdate loaded model) s () s') :
    ∃ row, s.jobs model.id = some row ∧
      s' = s.setJob model.id (written mode loaded model row) := by
  obtain ⟨reply, -, h⟩ := h
  change updateJob mode loaded model s = _ at h
  unfold updateJob at h
  split at h
  · cases h
  · next row hrow =>
    cases h
    exact ⟨row, hrow, rfl⟩

theorem streamStep_ok {α : Type} {x : Except StreamError (α × Stream (Dict String String))}
    {a : α} (h : streamStep s x = (.ok a, s')) :
    x = .ok (a, s'.stream) ∧ s' = { s with stream := s'.stream } := by
  unfold streamStep at h
  split at h
  · cases h
    exact ⟨rfl, rfl⟩
  · cases h
  · cases h

theorem commandOk_xadd {fields : Dict String String} {a : Nat}
    (h : commandOk X mode (.xadd fields) s a s') :
    s.stream.xadd fields = (a, s'.stream) ∧ s' = { s with stream := s'.stream } := by
  obtain ⟨reply, -, h⟩ := h
  change streamStep s (.ok (s.stream.xadd fields)) = _ at h
  obtain ⟨hx, hs'⟩ := streamStep_ok h
  exact ⟨Except.ok.inj hx, hs'⟩

theorem commandOk_xack {messageId a : Nat} (h : commandOk X mode (.xack messageId) s a s') :
    s.stream.xack messageId = (a, s'.stream) ∧ s' = { s with stream := s'.stream } := by
  obtain ⟨reply, -, h⟩ := h
  change streamStep s (.ok (s.stream.xack messageId)) = _ at h
  obtain ⟨hx, hs'⟩ := streamStep_ok h
  exact ⟨Except.ok.inj hx, hs'⟩

theorem commandOk_xgroupCreate (h : commandOk X mode .xgroupCreate s () s') :
    s.stream.xgroupCreate = .ok s'.stream ∧ s' = { s with stream := s'.stream } := by
  obtain ⟨reply, -, h⟩ := h
  obtain ⟨hx, hs'⟩ := streamStep_ok h
  refine ⟨?_, hs'⟩
  cases hc : s.stream.xgroupCreate with
  | error e => rw [hc] at hx; cases hx
  | ok stream =>
    rw [hc] at hx
    cases hx
    rfl

theorem commandOk_xreadgroup {consumerName : String} {a : Option Message}
    (h : commandOk X mode (.xreadgroup consumerName) s a s') :
    s.stream.xreadgroup consumerName s.now = .ok (a, s'.stream) ∧
      s' = { s with stream := s'.stream } := by
  obtain ⟨reply, -, h⟩ := h
  exact streamStep_ok h

theorem commandOk_xautoclaim {consumerName : String} {minIdleTimeMs : Nat}
    {a : Nat × List Message}
    (h : commandOk X mode (.xautoclaim consumerName minIdleTimeMs) s a s') :
    s.stream.xautoclaim consumerName minIdleTimeMs 0 100 s.now = .ok (a, s'.stream) ∧
      s' = { s with stream := s'.stream } := by
  obtain ⟨reply, -, h⟩ := h
  exact streamStep_ok h

end Ok

/-! ## processes -/

inductive SystemRole
  | gateway (jobId : String)
  | consumer (n : Nat)
deriving DecidableEq, Repr

inductive SystemSpawn : SystemRole → SystemProg Unit → Prop
  | request (jobId url domain : String) (requiredFields : List String) :
      SystemSpawn (.gateway jobId)
        (ProcessScrapeRequestUseCase.execute jobId url domain requiredFields >>= fun _ => pure ())
  | next (n : Nat) (self : RecoveryQueueConsumer) :
      SystemSpawn (.consumer n) (processNextJob self >>= fun _ => pure ())
  | reclaim (n : Nat) (self : RecoveryQueueConsumer) (minIdleTimeMs : Nat) :
      SystemSpawn (.consumer n) (reclaimStaleMessages self minIdleTimeMs >>= fun _ => pure ())

def systemMachine (X : Services) (mode : WriteMode) :
    Machine SystemPort PyError SystemRole SystemState where
  sem := fun _ op s r s' => withFaults (commandOk X mode) op s r s'
  spawn := fun _ i p => SystemSpawn i p
  env := fun s s' => ∃ d, s' = { s with now := s.now + d }
  crashes := True

abbrev SystemPool := Pool SystemPort PyError SystemRole SystemState

abbrev SystemGuard := Machine.Guard SystemPort PyError SystemRole SystemState

def systemInitial : SystemPool := Pool.initial SystemState.initial

/-! ## scripts -/

theorem insertJob_error {model : JobModel} {s : SystemState} {e : PyError}
    (h : (insertJob model s).1 = .error e) : (insertJob model s).2 = s := by
  unfold insertJob at h ⊢
  split at h
  · rfl
  · cases h

theorem updateJob_error {mode : WriteMode} {loaded model : JobModel} {s : SystemState}
    {e : PyError} (h : (updateJob mode loaded model s).1 = .error e) :
    (updateJob mode loaded model s).2 = s := by
  unfold updateJob at h ⊢
  split at h
  · rfl
  · cases h

theorem streamStep_error {α : Type} {s : SystemState}
    {x : Except StreamError (α × Stream (Dict String String))} {e : PyError}
    (h : (streamStep s x).1 = .error e) : (streamStep s x).2 = s := by
  unfold streamStep at h ⊢
  split at h
  · cases h
  · rfl
  · rfl

/-- A call that fails by itself does nothing. -/
theorem commandStep_error {mode : WriteMode} {reply : Replies} {op : SystemPort.Op}
    {s : SystemState} {e : PyError} (h : (commandStep mode reply op s).1 = .error e) :
    (commandStep mode reply op s).2 = s := by
  cases op with
  | commitInsert model => exact insertJob_error h
  | commitUpdate loaded model => exact updateJob_error h
  | xgroupCreate => exact streamStep_error h
  | xreadgroup consumerName => exact streamStep_error h
  | xautoclaim consumerName minIdleTimeMs => exact streamStep_error h
  | xadd fields => cases h
  | xack messageId => cases h
  | _ => rfl

/-- The calls of a script are calls of the machine. -/
theorem stepFaulty {X : Services} {mode : WriteMode} {reply : Replies} {op : SystemPort.Op}
    (hreply : reply.Allowed X op) (s : SystemState) :
    withFaults (commandOk X mode) op s (commandStep mode reply op s).1
      (commandStep mode reply op s).2 := by
  cases h : (commandStep mode reply op s).1 with
  | ok a => exact ⟨reply, hreply, Prod.ext h rfl⟩
  | error e => exact Or.inl (commandStep_error h)

end Sentinel
