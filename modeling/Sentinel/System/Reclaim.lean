import Sentinel.System.Processing
import Sentinel.System.Stored

/-!
# Reclaiming the backlog

A consumer claims the stale messages and processes them one by one. `XAUTOCLAIM` hands out at most
a hundred and a cursor for the rest, and the consumer drops the cursor.

* `Claimed` — what the claim finds and leaves behind
* `BatchProcessed` — what processing a list of messages comes to
* `Reclaimed` — what reclaiming is for
* `reclaim_complete` — it is achieved exactly if there is no more than one page of stale messages
-/

namespace Sentinel

open Lib RecoveryQueueConsumer

variable {graph : SystemState → RecoveryState → Except PyError RecoveryState} {mode : WriteMode}
  {reply : Replies} {self : RecoveryQueueConsumer} {s s' s₁ s₂ : SystemState}

/-! ## the claim -/

/-- The claim has found these messages in `s`, and has left `s'` behind. -/
structure Claimed (minIdleTimeMs : Nat) (s : SystemState) (batch : List Message)
    (s' : SystemState) : Prop where
  jobs : s'.jobs = s.jobs
  entries : s'.stream.entries = s.stream.entries
  pending : ∀ e, s'.stream.IsPending e ↔ s.stream.IsPending e
  ordered : s'.stream.Ordered
  batch : batch = (s.stream.stale minIdleTimeMs s.now).take 100

/-- How Redis says that the group exists. -/
def busyGroup : PyError := .responseError "BUSYGROUP Consumer Group name already exists"

/-- The first two commands: the group is there afterwards, and the claim goes through. -/
theorem claim_steps (hs : s.stream.Ordered)
    (graph : SystemState → RecoveryState → Except PyError RecoveryState) (mode : WriteMode)
    (reply : Replies) (consumerName : String) (minIdleTimeMs : Nat) :
    ∃ r s₁ cursor batch s₂, consumerStep graph mode reply .xgroupCreate s = (r, s₁) ∧
      (r = .ok () ∨ r = .error busyGroup) ∧
      consumerStep graph mode reply (.xautoclaim consumerName minIdleTimeMs) s₁ =
        (.ok (cursor, batch), s₂) ∧
      Claimed minIdleTimeMs s batch s₂ := by
  -- the second command, once there is a group
  have hclaim : ∀ s₁ g, s₁.stream.group = some g → s₁.stream.Ordered →
      ∃ cursor batch s₂,
        consumerStep graph mode reply (.xautoclaim consumerName minIdleTimeMs) s₁ =
          (.ok (cursor, batch), s₂) ∧ Claimed minIdleTimeMs s₁ batch s₂ := by
    intro s₁ g hg hordered
    obtain ⟨⟨cursor, batch⟩, stream, h⟩ :=
      Stream.xautoclaim_returns hg consumerName minIdleTimeMs 0 100 s₁.now
    refine ⟨cursor, batch, { s₁ with stream := stream }, ?_, ?_⟩
    · show streamStep s₁ (s₁.stream.xautoclaim consumerName minIdleTimeMs 0 100 s₁.now) = _
      rw [h]
      rfl
    · exact ⟨rfl, (Stream.xautoclaim_ok h).1, fun _ => Stream.isPending_xautoclaim h,
        hordered.xautoclaim h, Stream.xautoclaim_stale hordered h⟩
  rcases s.stream.xgroupCreate_cases with ⟨⟨g, hg⟩, hbusy⟩ | ⟨stream, g, hcreate, hg⟩
  · obtain ⟨cursor, batch, s₂, hstep, hclaimed⟩ := hclaim s g hg hs
    refine ⟨.error busyGroup, s, cursor, batch, s₂, ?_, Or.inr rfl, hstep, hclaimed⟩
    show streamStep s (s.stream.xgroupCreate.map ((), ·)) = _
    rw [hbusy]
    rfl
  · obtain ⟨cursor, batch, s₂, hstep, hclaimed⟩ :=
      hclaim { s with stream := stream } g hg (Stream.Ordered.xgroupCreate hcreate)
    refine ⟨.ok (), { s with stream := stream }, cursor, batch, s₂, ?_, Or.inl rfl, hstep, ?_⟩
    · show streamStep s (s.stream.xgroupCreate.map ((), ·)) = _
      rw [hcreate]
      rfl
    · refine ⟨hclaimed.jobs, hclaimed.entries.trans (Stream.xgroupCreate_ok hcreate).1,
        fun e => (hclaimed.pending e).trans (Stream.isPending_xgroupCreate hcreate),
        hclaimed.ordered, ?_⟩
      rw [hclaimed.batch]
      exact congrArg (List.take 100) (Stream.stale_xgroupCreate hcreate minIdleTimeMs s.now)

section Handler

variable {S : Type} {h : (op : SystemPort.Op) → S → Except PyError (SystemPort.Ans op) × S}
  {st st₁ st₂ : S}

theorem exec_ensureGroupExists {r : Except PyError Unit} (hr : r = .ok () ∨ r = .error busyGroup)
    (hcreate : h .xgroupCreate st = (r, st₁)) : ensureGroupExists.exec h st = (.ok (), st₁) := by
  unfold ensureGroupExists
  rw [Prog.exec_handle, Prog.exec_perform, hcreate]
  rcases hr with rfl | rfl
  · rfl
  · show Prog.exec h (if _ then _ else _) st₁ = _
    rw [if_pos (by decide)]
    rfl

/-- Up to the loop over the claimed messages. -/
theorem exec_reclaimStaleMessages {r : Except PyError Unit}
    (hr : r = .ok () ∨ r = .error busyGroup) (hcreate : h .xgroupCreate st = (r, st₁))
    {minIdleTimeMs cursor : Nat} {batch : List Message}
    (hclaim : h (.xautoclaim self.consumerName minIdleTimeMs) st₁ = (.ok (cursor, batch), st₂)) :
    (reclaimStaleMessages self minIdleTimeMs).exec h st =
      (batch.foldlM (reclaimMessage self) []).exec h st₂ := by
  unfold reclaimStaleMessages
  rw [Prog.exec_bind_ok _ (exec_ensureGroupExists hr hcreate), Prog.exec_perform_bind _ hclaim]

theorem exec_handleMessage {message : Message} {jobId : String} (hname : Names message jobId) :
    (handleMessage self message).exec h st = (processJob self jobId message.id).exec h st := by
  unfold handleMessage field
  rw [show message.fields.get? "job_id" = some jobId from hname]
  rfl

end Handler

/-! ## processing, message by message -/

def acknowledges : SystemOp → Option Nat
  | .xack messageId => some messageId
  | _ => none

def looksUp : SystemOp → Option String
  | .selectJob jobId => some jobId
  | _ => none

/-- The job a run of the graph is for. -/
def recovers : SystemOp → Option String
  | .ainvoke state => some state.jobId
  | _ => none

def updates : SystemOp → Option String
  | .commitUpdate _ model => some model.id
  | _ => none

/-- The jobs of these messages, as far as they exist. -/
def knownJobs (s : SystemState) (batch : List Message) : List String :=
  batch.filterMap fun message =>
    (message.fields.get? "job_id").filter fun jobId => (s.jobs jobId).isSome

theorem knownJobs_append (s : SystemState) (batch batch' : List Message) :
    knownJobs s (batch ++ batch') = knownJobs s batch ++ knownJobs s batch' :=
  List.filterMap_append

theorem knownJobs_congr (h : ∀ jobId, (s'.jobs jobId).isSome = (s.jobs jobId).isSome)
    (batch : List Message) : knownJobs s' batch = knownJobs s batch := by
  unfold knownJobs
  simp only [h]

/-- Each of these messages has been processed once, in this order, by the calls `ops`, which have
led from `s` to `s'` and have answered `ids`. -/
structure BatchProcessed (s : SystemState) (batch : List Message) (ids : List String)
    (ops : List SystemOp) (s' : SystemState) : Prop where
  stream : s'.stream = s.stream.xackAll (batch.map Entry.id)
  rows : ∀ jobId, (s'.jobs jobId).isSome = (s.jobs jobId).isSome
  rowIds : ∀ jobId row, s'.jobs jobId = some row → row.id = jobId
  lookedUp : (ops.filterMap looksUp).map some = batch.map (·.fields.get? "job_id")
  recovered : ops.filterMap recovers = knownJobs s batch
  updated : ops.filterMap updates = knownJobs s batch
  acknowledged : ops.filterMap acknowledges = batch.map Entry.id
  returned : ids = knownJobs s batch

theorem BatchProcessed.nil (hids : ∀ jobId row, s.jobs jobId = some row → row.id = jobId) :
    BatchProcessed s [] [] [] s :=
  ⟨rfl, fun _ => rfl, hids, rfl, rfl, rfl, rfl, rfl⟩

theorem BatchProcessed.append {batch batch' : List Message} {ids ids' : List String}
    {ops ops' : List SystemOp} (h : BatchProcessed s batch ids ops s₁)
    (h' : BatchProcessed s₁ batch' ids' ops' s₂) :
    BatchProcessed s (batch ++ batch') (ids ++ ids') (ops ++ ops') s₂ := by
  have hknown := knownJobs_congr h.rows batch'
  refine ⟨?_, fun jobId => (h'.rows jobId).trans (h.rows jobId), h'.rowIds, ?_, ?_, ?_, ?_, ?_⟩
  · rw [h'.stream, h.stream, List.map_append, Stream.xackAll_append]
  · rw [List.filterMap_append, List.map_append, List.map_append, h.lookedUp, h'.lookedUp]
  · rw [List.filterMap_append, knownJobs_append, h.recovered, h'.recovered, hknown]
  · rw [List.filterMap_append, knownJobs_append, h.updated, h'.updated, hknown]
  · rw [List.filterMap_append, List.map_append, h.acknowledged, h'.acknowledged]
  · rw [knownJobs_append, h.returned, h'.returned, hknown]

section Loop

variable {message : Message} {batch : List Message} {log log' : List SystemOp}

/-- The job of the message does not exist. -/
theorem processed_unknown (hids : ∀ jobId row, s.jobs jobId = some row → row.id = jobId)
    {jobId : String} (hname : Names message jobId) (hrow : s.jobs jobId = none) :
    BatchProcessed s [message] [] [.selectJob jobId, .xack message.id]
      { s with stream := (s.stream.xack message.id).2 } := by
  have hknown : knownJobs s [message] = [] := by
    unfold knownJobs
    rw [List.filterMap_cons_none, List.filterMap_nil]
    rw [show message.fields.get? "job_id" = some jobId from hname]
    simp [hrow]
  refine ⟨rfl, fun _ => rfl, hids, ?_, hknown.symm, hknown.symm, rfl, hknown.symm⟩
  exact congrArg (fun name => [name]) hname.symm

/-- The job of the message exists, and its graph runs to the end. -/
theorem processed_known (hids : ∀ jobId row, s.jobs jobId = some row → row.id = jobId)
    {row : JobModel} {job : Job} (hname : Names message row.id) (hrow : s.jobs row.id = some row)
    (hjob : modelToJob row = .ok job) (maxAttempts : Int) (final : RecoveryState) :
    BatchProcessed s [message] [row.id]
      [.selectJob row.id, .ainvoke (buildInitialState job maxAttempts),
        .sessionGet (finalJob job final).id,
        .commitUpdate row (row.assign (finalJob job final)), .xack message.id]
      (processed s row job final message.id) := by
  have hknown : knownJobs s [message] = [row.id] := by
    unfold knownJobs
    rw [List.filterMap_cons_some, List.filterMap_nil]
    rw [show message.fields.get? "job_id" = some row.id from hname]
    simp [hrow]
  refine ⟨rfl, fun jobId => ?_, fun jobId row' hrow' => ?_, ?_, ?_, hknown.symm, rfl,
    hknown.symm⟩
  · show ((s.setJob row.id _).jobs jobId).isSome = _
    by_cases hid : jobId = row.id
    · rw [hid, SystemState.setJob_jobs_self, hrow]
      rfl
    · rw [s.setJob_jobs_of_ne _ hid]
  · rcases SystemState.setJob_cases (s := s) hrow' with ⟨rfl, rfl⟩ | ⟨-, hrow'⟩
    · rfl
    · exact hids jobId row' hrow'
  · exact congrArg (fun name => [name]) hname.symm
  · rw [hknown]
    exact congrArg (fun jobId => [jobId]) (modelToJob_ok hjob).1

/-- **One message.** If processing it returns, it has been processed. -/
theorem handleMessage_processed (hids : ∀ jobId row, s.jobs jobId = some row → row.id = jobId)
    {r : Option String}
    (h : (handleMessage self message).exec (Prog.logged (consumerStep graph mode reply)) (s, log) =
      (.ok r, s', log')) :
    ∃ ops, log' = log ++ ops ∧ BatchProcessed s [message] r.toList ops s' := by
  cases hname : message.fields.get? "job_id" with
  | none =>
    unfold handleMessage field at h
    rw [hname] at h
    cases h
  | some jobId =>
    rw [exec_handleMessage hname] at h
    have hselect : consumerStep graph mode reply (.selectJob jobId) s = (.ok (s.jobs jobId), s) :=
      rfl
    cases hrow : s.jobs jobId with
    | none =>
      rw [hrow] at hselect
      have hlookup := Prog.logged_eq (h := consumerStep graph mode reply) hselect log
      rw [exec_processJob_unknown hlookup (Prog.logged_eq rfl _)] at h
      cases h
      exact ⟨_, List.append_assoc _ _ _, processed_unknown hids hname hrow⟩
    | some row =>
      rw [hrow] at hselect
      have hlookup := Prog.logged_eq (h := consumerStep graph mode reply) hselect log
      obtain rfl : row.id = jobId := hids jobId row hrow
      cases hjob : modelToJob row with
      | error e =>
        rw [exec_unreadable hlookup hjob] at h
        cases h
      | ok job =>
        cases hfinal : graph s (buildInitialState job self.maxAttempts) with
        | error e =>
          have hraise : consumerStep graph mode reply
              (.ainvoke (buildInitialState job self.maxAttempts)) s = (.error e, s) :=
            congrArg (·, s) hfinal
          rw [exec_graph_error hlookup hjob (Prog.logged_eq hraise _)] at h
          cases h
        | ok final =>
          have hanswers : Answers graph mode reply self s row job final :=
            answers_of_row hrow hjob hfinal
          rw [exec_processJob hlookup hjob (Prog.logged_eq hanswers.ainvoke _)
            (Prog.logged_eq hanswers.get _) (Prog.logged_eq hanswers.commit _)
            (Prog.logged_eq (hanswers.acknowledge message.id) _)] at h
          obtain ⟨hr, hrest⟩ := Prod.mk.inj h
          obtain ⟨rfl, rfl⟩ := Prod.mk.inj hrest
          obtain rfl := Except.ok.inj hr
          refine ⟨_, ?_, processed_known hids hname hrow hjob self.maxAttempts final⟩
          simp only [List.append_assoc]
          rfl

/-- **The loop.** If it returns, every message of the batch has been processed. -/
theorem loop_processed (hids : ∀ jobId row, s.jobs jobId = some row → row.id = jobId)
    {acc ids : List String}
    (h : (batch.foldlM (reclaimMessage self) acc).exec
      (Prog.logged (consumerStep graph mode reply)) (s, log) = (.ok ids, s', log')) :
    ∃ new ops, ids = acc ++ new ∧ log' = log ++ ops ∧ BatchProcessed s batch new ops s' := by
  induction batch generalizing s log acc with
  | nil =>
    cases h
    exact ⟨[], [], (List.append_nil _).symm, (List.append_nil _).symm, BatchProcessed.nil hids⟩
  | cons message batch ih =>
    rw [List.foldlM_cons] at h
    unfold reclaimMessage at h
    rw [bind_assoc] at h
    rcases hm : (handleMessage self message).exec (Prog.logged (consumerStep graph mode reply))
      (s, log) with ⟨e | r, s₁, log₁⟩
    · rw [Prog.exec_bind_error _ hm] at h
      cases h
    · rw [Prog.exec_bind_ok _ hm] at h
      obtain ⟨ops, rfl, hfirst⟩ := handleMessage_processed hids hm
      obtain ⟨new, ops', rfl, rfl, hrest⟩ := ih hfirst.rowIds h
      exact ⟨_, _, List.append_assoc _ _ _, List.append_assoc _ _ _, hfirst.append hrest⟩

/-- **Up to the first page.** What reclaiming has done, if it returns. -/
theorem firstPage_processed (hs : s.stream.Ordered)
    (hids : ∀ jobId row, s.jobs jobId = some row → row.id = jobId) {minIdleTimeMs : Nat}
    {ids : List String} {ops : List SystemOp}
    (h : (reclaimStaleMessages self minIdleTimeMs).exec
      (Prog.logged (consumerStep graph mode reply)) (s, []) = (.ok ids, s', ops)) :
    ∃ s₂ ops', Claimed minIdleTimeMs s ((s.stream.stale minIdleTimeMs s.now).take 100) s₂ ∧
      ops = .xgroupCreate :: .xautoclaim self.consumerName minIdleTimeMs :: ops' ∧
      BatchProcessed s₂ ((s.stream.stale minIdleTimeMs s.now).take 100) ids ops' s' := by
  obtain ⟨r, s₁, cursor, batch, s₂, hcreate, hr, hclaim, hclaimed⟩ :=
    claim_steps hs graph mode reply self.consumerName minIdleTimeMs
  have hcreate' := Prog.logged_eq (h := consumerStep graph mode reply) hcreate []
  have hclaim' := Prog.logged_eq (h := consumerStep graph mode reply) hclaim [.xgroupCreate]
  rw [exec_reclaimStaleMessages hr hcreate' hclaim'] at h
  have hids₂ : ∀ jobId row, s₂.jobs jobId = some row → row.id = jobId := by
    rw [hclaimed.jobs]
    exact hids
  obtain ⟨new, ops', rfl, rfl, hloop⟩ := loop_processed hids₂ h
  rw [← hclaimed.batch]
  exact ⟨s₂, ops', hclaimed, rfl, hloop⟩

end Loop

/-! ## reclaiming returns -/

theorem Served.processed (hs : Served s) (row : JobModel) (job : Job) (final : RecoveryState)
    (messageId : Nat) :
    Served (processed s row job final messageId) := by
  have hstored : Stored (s.setJob row.id (row.assign (finalJob job final))) :=
    hs.toStored.setJob (row.readable_assign _)
  refine ⟨⟨hs.ordered.xack messageId, hstored.readable⟩, fun jobId row' hrow' => ?_,
    fun message hm => ?_⟩
  · rcases SystemState.setJob_cases (s := s) hrow' with ⟨rfl, rfl⟩ | ⟨-, hrow'⟩
    · rfl
    · exact hs.rowIds jobId row' hrow'
  · change message ∈ (s.stream.xack messageId).2.entries at hm
    rw [Stream.entries_xack] at hm
    obtain ⟨jobId, row', hname, hrow'⟩ := hs.entries message hm
    refine ⟨jobId, ?_⟩
    show ∃ row', _ ∧ (s.setJob row.id _).jobs jobId = some row'
    by_cases hid : jobId = row.id
    · subst hid
      exact ⟨_, hname, SystemState.setJob_jobs_self _ _ _⟩
    · exact ⟨row', hname, (s.setJob_jobs_of_ne _ hid).trans hrow'⟩

theorem Served.claimed (hs : Served s) {minIdleTimeMs : Nat} {batch : List Message}
    (h : Claimed minIdleTimeMs s batch s') : Served s' := by
  refine ⟨⟨h.ordered, ?_⟩, ?_, ?_⟩
  · rw [h.jobs]
    exact hs.readable
  · rw [h.jobs]
    exact hs.rowIds
  · rw [h.jobs, h.entries]
    exact hs.entries

theorem Claimed.mem_entries {minIdleTimeMs : Nat} {batch : List Message}
    (h : Claimed minIdleTimeMs s batch s') {message : Message} (hm : message ∈ batch) :
    message ∈ s'.stream.entries := by
  rw [h.batch] at hm
  rw [h.entries]
  exact (s.stream.stale_sublist _ _).subset (List.mem_of_mem_take hm)

/-- As long as the graph does not raise, no message ends the loop. -/
theorem loop_returns (hgraph : ∀ s state, ∃ final, graph s state = .ok final) (hs : Served s)
    (mode : WriteMode) (reply : Replies) (self : RecoveryQueueConsumer) {batch : List Message}
    (hbatch : ∀ message ∈ batch, message ∈ s.stream.entries) (acc : List String) :
    ∃ ids s', (batch.foldlM (reclaimMessage self) acc).exec (consumerStep graph mode reply) s =
      (.ok ids, s') := by
  induction batch generalizing s acc with
  | nil => exact ⟨acc, s, rfl⟩
  | cons message batch ih =>
    obtain ⟨row, job, hname, hrow, hjob⟩ := hs.job (hbatch message List.mem_cons_self)
    obtain ⟨final, hfinal⟩ := hgraph s (buildInitialState job self.maxAttempts)
    have hm : (handleMessage self message).exec (consumerStep graph mode reply) s =
        (.ok (some row.id), Sentinel.processed s row job final message.id) := by
      rw [exec_handleMessage hname, exec_processJob_alone hrow rfl hjob, hfinal]
    rw [List.foldlM_cons]
    unfold reclaimMessage
    rw [bind_assoc, Prog.exec_bind_ok _ hm]
    refine ih (hs.processed row job final message.id) (fun m hm => ?_) _
    show m ∈ (s.stream.xack message.id).2.entries
    rw [Stream.entries_xack]
    exact hbatch m (List.mem_cons_of_mem _ hm)

/-- **Reclaiming returns** if the graph never raises. -/
theorem reclaim_returns (hgraph : ∀ s state, ∃ final, graph s state = .ok final) (hs : Served s)
    (mode : WriteMode) (reply : Replies) (self : RecoveryQueueConsumer) (minIdleTimeMs : Nat) :
    ∃ ids s' ops, (reclaimStaleMessages self minIdleTimeMs).exec
      (Prog.logged (consumerStep graph mode reply)) (s, []) = (.ok ids, s', ops) := by
  obtain ⟨r, s₁, cursor, batch, s₂, hcreate, hr, hclaim, hclaimed⟩ :=
    claim_steps hs.ordered graph mode reply self.consumerName minIdleTimeMs
  obtain ⟨ids, s', hloop⟩ := loop_returns hgraph (hs.claimed hclaimed) mode reply self
    (fun message hm => hclaimed.mem_entries hm) []
  obtain ⟨ops, hops⟩ := Prog.exec_logged (consumerStep graph mode reply)
    (reclaimStaleMessages self minIdleTimeMs) s []
  rw [exec_reclaimStaleMessages hr hcreate hclaim, hloop] at hops
  exact ⟨ids, s', ops, hops⟩

/-! ## a backlog -/

/-- The row of a job that waits for its recovery. -/
def waitingRow (jobId : String) : JobModel where
  id := jobId
  url := "https://shop.test/1"
  domain := "shop.test"
  requiredFields := ["title"]
  status := JobStatus.recoveryPending.value
  result := .null
  failureReason := none

/-- A consumer has read `n` messages at once and died. -/
def backlogStream (n : Nat) : Stream (Dict String String) where
  entries := (List.range n).map fun i => ⟨i + 1, Dict.empty.set "job_id" (toString i)⟩
  lastId := n
  group := some ⟨n, (List.range n).map fun i => ⟨i + 1, "consumer-1", 0⟩, []⟩
  sorted := by
    rw [List.pairwise_map]
    exact List.pairwise_lt_range.imp Nat.succ_lt_succ
  bounded := by
    intro e he
    obtain ⟨i, hi, rfl⟩ := List.mem_map.mp he
    exact ⟨Nat.succ_pos i, List.mem_range.mp hi⟩
  delivered := by
    rintro g ⟨⟩
    exact Nat.le_refl n
  accounted := by
    rintro g ⟨⟩ e he -
    obtain ⟨i, hi, rfl⟩ := List.mem_map.mp he
    exact Or.inl ⟨_, List.mem_map_of_mem hi, rfl⟩
  known := by
    rintro g ⟨⟩
    refine ⟨fun p hp => ?_, nofun⟩
    obtain ⟨i, hi, rfl⟩ := List.mem_map.mp hp
    exact List.mem_range.mp hi

/-- Half a minute later. -/
def backlog (n : Nat) : SystemState where
  jobs jobId := if jobId ∈ (List.range n).map toString then some (waitingRow jobId) else none
  stream := backlogStream n
  now := 30000

theorem backlog_served (n : Nat) : Served (backlog n) := by
  have hrow : ∀ jobId row, (backlog n).jobs jobId = some row → row = waitingRow jobId := by
    intro jobId row h
    unfold backlog at h
    dsimp only at h
    split at h
    · exact (Option.some.inj h).symm
    · cases h
  refine ⟨⟨⟨?_, ?_⟩, fun jobId row h => ?_⟩, fun jobId row h => ?_, fun message hm => ?_⟩
  · rintro g ⟨⟩
    rw [List.pairwise_map]
    exact List.pairwise_lt_range.imp Nat.succ_lt_succ
  · rintro g ⟨⟩ p hp
    obtain ⟨i, hi, rfl⟩ := List.mem_map.mp hp
    exact ⟨List.mem_range.mp hi, _, List.mem_map_of_mem hi, rfl⟩
  · rw [hrow jobId row h]
    exact ⟨_, rfl⟩
  · rw [hrow jobId row h]
    rfl
  · obtain ⟨i, hi, rfl⟩ := List.mem_map.mp hm
    exact ⟨toString i, waitingRow (toString i), by simp [Names],
      if_pos (List.mem_map_of_mem hi)⟩

theorem backlog_stale (n : Nat) :
    (backlog n).stream.stale 30000 (backlog n).now = (backlog n).stream.entries := by
  rw [Stream.stale_eq (g := ⟨n, (List.range n).map fun i => ⟨i + 1, "consumer-1", 0⟩, []⟩) rfl,
    List.filter_eq_self]
  intro e he
  obtain ⟨i, hi, rfl⟩ := List.mem_map.mp he
  refine List.any_eq_true.mpr ⟨⟨i + 1, "consumer-1", 0⟩, ?_, beq_self_eq_true _⟩
  exact List.mem_filter.mpr ⟨List.mem_map_of_mem hi, by simp [backlog]⟩

theorem backlog_stale_length (n : Nat) :
    ((backlog n).stream.stale 30000 (backlog n).now).length = n := by
  rw [backlog_stale]
  exact (List.length_map _).trans List.length_range

/-- Every recovery is left to a human. -/
def givesUp (_ : SystemState) (state : RecoveryState) : Except PyError RecoveryState :=
  .ok { state with finalStatus := some .needsHumanReview }

theorem backlog_returns (n : Nat) : ∃ ids s' ops,
    (reclaimStaleMessages ⟨"consumer-2", 3⟩ 30000).exec
      (Prog.logged (consumerStep givesUp .changedColumns (titleReplies (.consumer 1))))
      (backlog n, []) = (.ok ids, s', ops) :=
  reclaim_returns (fun _ _ => ⟨_, rfl⟩) (backlog_served n) _ _ _ _

/-! ## what reclaiming is for -/

/--
All messages that were stale in `s` have been dealt with by the calls `ops`: none is pending any
more; each was looked up once, run and written back once if its job exists, and acknowledged once,
in the order of the stream; and the answer is the list of the jobs that exist.
-/
structure Reclaimed (minIdleTimeMs : Nat) (s : SystemState) (ids : List String)
    (ops : List SystemOp) (s' : SystemState) : Prop where
  settled : ∀ message ∈ s.stream.stale minIdleTimeMs s.now, ¬s'.stream.IsPending message
  lookedUp : (ops.filterMap looksUp).map some =
    (s.stream.stale minIdleTimeMs s.now).map (·.fields.get? "job_id")
  recovered : ops.filterMap recovers = knownJobs s (s.stream.stale minIdleTimeMs s.now)
  updated : ops.filterMap updates = knownJobs s (s.stream.stale minIdleTimeMs s.now)
  acknowledged : ops.filterMap acknowledges =
    (s.stream.stale minIdleTimeMs s.now).map Entry.id
  returned : ids = knownJobs s (s.stream.stale minIdleTimeMs s.now)

section Reclaim

variable {minIdleTimeMs : Nat} {ids : List String} {ops : List SystemOp}

/-- A message beyond the first page is left pending. -/
theorem secondPage_pending (hs : s.stream.Ordered)
    (hids : ∀ jobId row, s.jobs jobId = some row → row.id = jobId)
    (h : (reclaimStaleMessages self minIdleTimeMs).exec
      (Prog.logged (consumerStep graph mode reply)) (s, []) = (.ok ids, s', ops))
    (hlong : 100 < (s.stream.stale minIdleTimeMs s.now).length) :
    ∃ message ∈ s.stream.stale minIdleTimeMs s.now, s'.stream.IsPending message := by
  obtain ⟨s₂, ops', hclaimed, -, hloop⟩ := firstPage_processed hs hids h
  have hmem : (s.stream.stale minIdleTimeMs s.now)[100] ∈
      (s.stream.stale minIdleTimeMs s.now).drop 100 := by
    rw [List.drop_eq_getElem_cons hlong]
    exact List.mem_cons_self
  refine ⟨_, List.mem_of_mem_drop hmem, ?_⟩
  rw [hloop.stream, Stream.isPending_xackAll, hclaimed.pending]
  refine ⟨Stream.stale_isPending (List.mem_of_mem_drop hmem), fun hid => ?_⟩
  -- its id is larger than those of the first page
  have hsorted := s.stream.stale_sorted minIdleTimeMs s.now
  rw [← List.take_append_drop 100 (s.stream.stale minIdleTimeMs s.now),
    List.pairwise_append] at hsorted
  obtain ⟨message, hpage, heq⟩ := List.mem_map.mp hid
  exact Nat.ne_of_lt (hsorted.2.2 message hpage _ hmem) heq

/--
**Reclaiming is complete exactly up to one page.** A call that returns has dealt with all messages
that were stale when it began, if and only if there were at most a hundred.
-/
theorem reclaim_complete (hs : s.stream.Ordered)
    (hids : ∀ jobId row, s.jobs jobId = some row → row.id = jobId)
    (h : (reclaimStaleMessages self minIdleTimeMs).exec
      (Prog.logged (consumerStep graph mode reply)) (s, []) = (.ok ids, s', ops)) :
    Reclaimed minIdleTimeMs s ids ops s' ↔
      (s.stream.stale minIdleTimeMs s.now).length ≤ 100 := by
  constructor
  · intro hreclaimed
    by_contra hlong
    obtain ⟨message, hstale, hpending⟩ := secondPage_pending hs hids h (Nat.lt_of_not_le hlong)
    exact hreclaimed.settled message hstale hpending
  · intro hshort
    obtain ⟨s₂, ops', hclaimed, rfl, hloop⟩ := firstPage_processed hs hids h
    rw [List.take_of_length_le hshort] at hclaimed hloop
    have hknown : knownJobs s₂ (s.stream.stale minIdleTimeMs s.now) =
        knownJobs s (s.stream.stale minIdleTimeMs s.now) :=
      knownJobs_congr (fun jobId => by rw [hclaimed.jobs]) _
    refine ⟨fun message hstale hpending => ?_, hloop.lookedUp, hloop.recovered.trans hknown,
      hloop.updated.trans hknown, hloop.acknowledged, hloop.returned.trans hknown⟩
    rw [hloop.stream, Stream.isPending_xackAll] at hpending
    exact hpending.2 (List.mem_map_of_mem hstale)

end Reclaim

/-- Three messages are all dealt with. -/
theorem reclaim_complete_three :
    ∃ s' ops, Reclaimed 30000 (backlog 3) ["0", "1", "2"] ops s' := by
  obtain ⟨ids, s', ops, h⟩ := backlog_returns 3
  have hreclaimed := (reclaim_complete (backlog_served 3).ordered (backlog_served 3).rowIds h).mpr
    (by rw [backlog_stale_length]; decide)
  have hknown : knownJobs (backlog 3) ((backlog 3).stream.stale 30000 (backlog 3).now) =
      ["0", "1", "2"] := rfl
  rw [← hknown, ← hreclaimed.returned]
  exact ⟨s', ops, hreclaimed⟩

/-- Of a hundred and one messages one is left. -/
theorem reclaim_incomplete : ∃ ids s' ops,
    (reclaimStaleMessages ⟨"consumer-2", 3⟩ 30000).exec
      (Prog.logged (consumerStep givesUp .changedColumns (titleReplies (.consumer 1))))
      (backlog 101, []) = (.ok ids, s', ops) ∧ ¬Reclaimed 30000 (backlog 101) ids ops s' := by
  obtain ⟨ids, s', ops, h⟩ := backlog_returns 101
  refine ⟨ids, s', ops, h, fun hreclaimed => ?_⟩
  obtain ⟨message, hstale, hpending⟩ := secondPage_pending (backlog_served 101).ordered
    (backlog_served 101).rowIds h (by rw [backlog_stale_length]; decide)
  exact hreclaimed.settled message hstale hpending

end Sentinel
