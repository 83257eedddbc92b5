import Sentinel.System.Reclaim

/-!
# A poisoned message

Processing a claimed message may raise, in any of its calls. The loop over the batch has no handler
for that, so the first message that raises is also the last one that is processed.

* `Failure`, `poisonedStep` — a plan says which message raises, and where
* `Unblocked` — the other messages are processed, those that raise stay pending
* `FailuresLast` — the messages that raise are at the end of the batch
* `unblocked_iff` — nothing is blocked exactly if they are
-/

namespace Sentinel

open Lib RecoveryQueueConsumer

/-! ## which message raises, and where -/

/-- The calls that processing a message takes. -/
inductive Stage
  | lookup
  | graph
  | load
  | commit
  | acknowledge
deriving DecidableEq, Repr

def stage : SystemOp → Option Stage
  | .selectJob _ => some .lookup
  | .ainvoke _ => some .graph
  | .sessionGet _ => some .load
  | .commitUpdate _ _ => some .commit
  | .xack _ => some .acknowledge
  | _ => none

/-- A call that raises, before or after it has taken effect. -/
structure Failure where
  stage : Stage
  tookEffect : Bool
  error : PyError

/-- The acknowledgement raises, but the message is acknowledged. -/
def Failure.Acknowledged (failure : Failure) : Prop :=
  failure.stage = .acknowledge ∧ failure.tookEffect = true

instance (failure : Failure) : Decidable failure.Acknowledged :=
  inferInstanceAs (Decidable (_ ∧ _))

/-- What goes wrong with each message, by its id. -/
abbrev Plan := Nat → Option Failure

structure Reclaiming where
  system : SystemState
  /-- The claimed messages that are still to be processed; the first is at hand. -/
  batch : List Message

namespace Reclaiming

/-- What goes wrong with this call, if it is one for the message at hand. -/
def failure (plan : Plan) (batch : List Message) (op : SystemOp) : Option Failure :=
  match batch with
  | [] => none
  | message :: _ => (plan message.id).filter fun failure => stage op = some failure.stage

/-- A claim hands out the batch, and an acknowledgement goes on to the next message. -/
def advance : (op : SystemOp) → Except PyError (SystemPort.Ans op) → List Message → List Message
  | .xautoclaim _ _, .ok claimed, _ => claimed.2
  | .xack _, _, batch => batch.tail
  | _, _, batch => batch

end Reclaiming

section Poison

variable (plan : Plan) (graph : SystemState → RecoveryState → RecoveryState) (mode : WriteMode)
  (reply : Replies)

/-- The calls of a consumer that nobody interferes with, where those of the plan raise. -/
def poisonedStep (op : SystemPort.Op) (st : Reclaiming) :
    Except PyError (SystemPort.Ans op) × Reclaiming :=
  let done := consumerStep (fun s state => .ok (graph s state)) mode reply op st.system
  match Reclaiming.failure plan st.batch op with
  | some failure =>
    (.error failure.error, ⟨if failure.tookEffect then done.2 else st.system, st.batch⟩)
  | none => (done.1, ⟨done.2, Reclaiming.advance op done.1 st.batch⟩)

variable {plan graph mode reply} {self : RecoveryQueueConsumer} {s s' : SystemState}
  {message : Message} {batch : List Message}

theorem poisonedStep_ok {op : SystemPort.Op} {r : Except PyError (SystemPort.Ans op)}
    (hplan : Reclaiming.failure plan batch op = none)
    (hop : consumerStep (fun s state => .ok (graph s state)) mode reply op s = (r, s')) :
    poisonedStep plan graph mode reply op ⟨s, batch⟩ =
      (r, ⟨s', Reclaiming.advance op r batch⟩) := by
  unfold poisonedStep
  rw [hplan, hop]

theorem poisonedStep_error {op : SystemPort.Op} {failure : Failure}
    (hplan : Reclaiming.failure plan batch op = some failure) :
    poisonedStep plan graph mode reply op ⟨s, batch⟩ = (.error failure.error,
      ⟨if failure.tookEffect then
        (consumerStep (fun s state => .ok (graph s state)) mode reply op s).2 else s, batch⟩) := by
  unfold poisonedStep
  rw [hplan]

/-- A call that only reads leaves the state alone, even if it raises. -/
theorem poisonedStep_read {op : SystemPort.Op} {r : Except PyError (SystemPort.Ans op)}
    {failure : Failure} (hplan : Reclaiming.failure plan batch op = some failure)
    (hop : consumerStep (fun s state => .ok (graph s state)) mode reply op s = (r, s)) :
    poisonedStep plan graph mode reply op ⟨s, batch⟩ = (.error failure.error, ⟨s, batch⟩) := by
  rw [poisonedStep_error hplan, hop, ite_self]

theorem failure_none (hplan : plan message.id = none) (op : SystemOp) :
    Reclaiming.failure plan (message :: batch) op = none := by
  unfold Reclaiming.failure
  simp only [hplan]
  rfl

theorem failure_ne {failure : Failure} (hplan : plan message.id = some failure) {op : SystemOp}
    (hop : stage op ≠ some failure.stage) :
    Reclaiming.failure plan (message :: batch) op = none := by
  unfold Reclaiming.failure
  simp only [hplan]
  exact Option.filter_some_neg (by simpa using hop)

theorem failure_eq {failure : Failure} (hplan : plan message.id = some failure) {op : SystemOp}
    (hop : stage op = some failure.stage) :
    Reclaiming.failure plan (message :: batch) op = some failure := by
  unfold Reclaiming.failure
  simp only [hplan]
  exact Option.filter_some_pos (by simpa using hop)

/-! ## one message -/

/-- A job that is resolved stays so when a final row is written. -/
theorem Resolved.setJob {jobId : String} {row : JobModel} (h : Resolved s message)
    (hfinal : row.Final) : Resolved (s.setJob jobId row) message := by
  obtain ⟨id, r, hname, hr, hf⟩ := h
  by_cases hid : id = jobId
  · subst hid
    exact ⟨id, row, hname, SystemState.setJob_jobs_self _ _ _, hfinal⟩
  · exact ⟨id, r, hname, (s.setJob_jobs_of_ne row hid).trans hr, hf⟩

theorem final_assign (row : JobModel) (job : Job) (final : RecoveryState) :
    (row.assign (finalJob job final)).Final :=
  (finalJob_status job final).imp (fun h => congrArg JobStatus.value h)
    (fun h => congrArg JobStatus.value h)

/-- The job of a message, and what the calls for it answer when nothing goes wrong. -/
theorem Served.answers (hs : Served s) (hm : message ∈ s.stream.entries)
    (graph : SystemState → RecoveryState → RecoveryState) (mode : WriteMode) (reply : Replies)
    (self : RecoveryQueueConsumer) :
    ∃ row job final, Names message row.id ∧
      Answers (fun s state => .ok (graph s state)) mode reply self s row job final := by
  obtain ⟨row, job, hname, hrow, hjob⟩ := hs.job hm
  exact ⟨row, job, _, hname, answers_of_row hrow hjob rfl⟩

variable (graph mode reply self) in
/-- A message of which nothing goes wrong is processed. -/
theorem healthy_processed (hs : Served s) (hm : message ∈ s.stream.entries)
    (hplan : plan message.id = none) :
    ∃ jobId s', (handleMessage self message).exec (poisonedStep plan graph mode reply)
        ⟨s, message :: batch⟩ = (.ok (some jobId), ⟨s', batch⟩) ∧
      Served s' ∧ s'.stream = (s.stream.xack message.id).2 ∧ Resolved s' message ∧
      ∀ m, Resolved s m → Resolved s' m := by
  obtain ⟨row, job, final, hname, h⟩ := hs.answers hm graph mode reply self
  have hnone : ∀ op, Reclaiming.failure plan (message :: batch) op = none := failure_none hplan
  refine ⟨row.id, processed s row job final message.id, ?_, hs.processed row job final message.id,
    rfl, ?_, fun m hres => ?_⟩
  · rw [exec_handleMessage hname, exec_processJob (poisonedStep_ok (hnone _) h.select) h.read
      (poisonedStep_ok (hnone _) h.ainvoke) (poisonedStep_ok (hnone _) h.get)
      (poisonedStep_ok (hnone _) h.commit)
      (poisonedStep_ok (hnone _) (h.acknowledge message.id))]
    rfl
  · exact ⟨row.id, _, hname, SystemState.setJob_jobs_self _ _ _, final_assign row job final⟩
  · exact hres.setJob (final_assign row job final)

variable (graph mode reply self) in
/-- A message with which something goes wrong raises, and is acknowledged only if the call that
raises has done so. -/
theorem poisoned_raises (hs : Served s) (hm : message ∈ s.stream.entries) {failure : Failure}
    (hplan : plan message.id = some failure) :
    ∃ s', (handleMessage self message).exec (poisonedStep plan graph mode reply)
        ⟨s, message :: batch⟩ = (.error failure.error, ⟨s', message :: batch⟩) ∧
      s'.stream = (if failure.Acknowledged then (s.stream.xack message.id).2 else s.stream) ∧
      ∀ m, Resolved s m → Resolved s' m := by
  obtain ⟨row, job, final, hname, h⟩ := hs.answers hm graph mode reply self
  have hok : ∀ op, stage op ≠ some failure.stage →
      Reclaiming.failure plan (message :: batch) op = none := fun _ => failure_ne hplan
  have hraise : ∀ op, stage op = some failure.stage →
      Reclaiming.failure plan (message :: batch) op = some failure := fun _ => failure_eq hplan
  have hkept : failure.stage ≠ .acknowledge →
      (if failure.Acknowledged then (s.stream.xack message.id).2 else s.stream) = s.stream :=
    fun hne => if_neg fun hack => hne hack.1
  rw [exec_handleMessage hname]
  cases hstage : failure.stage with
  | lookup =>
    rw [hstage] at hok hraise
    refine ⟨s, ?_, (hkept (by rw [hstage]; nofun)).symm, fun _ hres => hres⟩
    exact exec_lookup_error (poisonedStep_read (hraise _ rfl) h.select)
  | graph =>
    rw [hstage] at hok hraise
    refine ⟨s, ?_, (hkept (by rw [hstage]; nofun)).symm, fun _ hres => hres⟩
    exact exec_graph_error (poisonedStep_ok (hok _ nofun) h.select) h.read
      (poisonedStep_read (hraise _ rfl) h.ainvoke)
  | load =>
    rw [hstage] at hok hraise
    refine ⟨s, ?_, (hkept (by rw [hstage]; nofun)).symm, fun _ hres => hres⟩
    exact exec_load_error (poisonedStep_ok (hok _ nofun) h.select) h.read
      (poisonedStep_ok (hok _ nofun) h.ainvoke) (poisonedStep_read (hraise _ rfl) h.get)
  | commit =>
    rw [hstage] at hok hraise
    refine ⟨_, exec_commit_error (poisonedStep_ok (hok _ nofun) h.select) h.read
      (poisonedStep_ok (hok _ nofun) h.ainvoke) (poisonedStep_ok (hok _ nofun) h.get)
      (poisonedStep_error (hraise _ rfl)), ?_, fun m hres => ?_⟩
    · rw [h.commit, hkept (by rw [hstage]; nofun)]
      split <;> rfl
    · rw [h.commit]
      split
      · exact hres.setJob (final_assign row job final)
      · exact hres
  | acknowledge =>
    rw [hstage] at hok hraise
    refine ⟨_, exec_processJob (poisonedStep_ok (hok _ nofun) h.select) h.read
      (poisonedStep_ok (hok _ nofun) h.ainvoke) (poisonedStep_ok (hok _ nofun) h.get)
      (poisonedStep_ok (hok _ nofun) h.commit) (poisonedStep_error (hraise _ rfl)), ?_,
      fun m hres => ?_⟩
    · by_cases htook : failure.tookEffect = true
      · rw [if_pos htook, if_pos ⟨hstage, htook⟩]
        rfl
      · rw [if_neg htook, if_neg fun hack => htook hack.2]
        rfl
    · split <;> exact hres.setJob (final_assign row job final)

/-! ## the batch -/

variable (plan) in
/-- The messages that are acknowledged before the call ends: those up to the first that raises. -/
def acknowledgedBy : List Message → List Nat
  | [] => []
  | message :: batch =>
    match plan message.id with
    | none => message.id :: acknowledgedBy batch
    | some failure => if failure.Acknowledged then [message.id] else []

variable (plan graph mode reply self) in
/-- **The loop** acknowledges these messages and no others, and resolves those of them of which
nothing goes wrong. -/
theorem loop_poisoned (hs : Served s) (hbatch : ∀ message ∈ batch, message ∈ s.stream.entries)
    (acc : List String) :
    ∃ out s' rest, (batch.foldlM (reclaimMessage self) acc).exec
        (poisonedStep plan graph mode reply) ⟨s, batch⟩ = (out, ⟨s', rest⟩) ∧
      s'.stream = s.stream.xackAll (acknowledgedBy plan batch) ∧
      (∀ m, Resolved s m → Resolved s' m) ∧
      ∀ m ∈ batch, plan m.id = none → m.id ∈ acknowledgedBy plan batch → Resolved s' m := by
  induction batch generalizing s acc with
  | nil => exact ⟨.ok acc, s, [], rfl, rfl, fun _ h => h, nofun⟩
  | cons message batch ih =>
    have hm := hbatch message List.mem_cons_self
    rw [List.foldlM_cons]
    unfold reclaimMessage acknowledgedBy
    rw [bind_assoc]
    cases hplan : plan message.id with
    | none =>
      obtain ⟨jobId, s₁, hexec, hs₁, hstream, hres, hkept⟩ :=
        healthy_processed graph mode reply self hs hm hplan
      have hentries : s₁.stream.entries = s.stream.entries := by
        rw [hstream, Stream.entries_xack]
      obtain ⟨out, s', rest, hloop, hstream', hkept', hres'⟩ := ih hs₁
        (fun m hmem => hentries ▸ hbatch m (List.mem_cons_of_mem _ hmem))
        (acc ++ (some jobId).toList)
      refine ⟨out, s', rest, ?_, ?_, fun m h => hkept' m (hkept m h), fun m hmem hnone hack => ?_⟩
      · rw [Prog.exec_bind_ok _ hexec]
        exact hloop
      · rw [hstream', hstream]
        rfl
      · rcases List.mem_cons.mp hack with hid | hack
        · rw [s.stream.eq_of_id_eq (hbatch m hmem) hm hid]
          exact hkept' message hres
        · rcases List.mem_cons.mp hmem with rfl | hmem
          · exact hkept' m hres
          · exact hres' m hmem hnone hack
    | some failure =>
      obtain ⟨s', hexec, hstream, hkept⟩ :=
        poisoned_raises graph mode reply self hs hm hplan
      refine ⟨_, s', _, Prog.exec_bind_error _ hexec _, ?_, hkept, fun m _ hnone hack => ?_⟩
      · rw [hstream]
        dsimp only
        split <;> rfl
      · -- the only one that may be acknowledged is the one that raises
        dsimp only at hack
        split at hack
        · rw [List.mem_singleton.mp hack, hplan] at hnone
          cases hnone
        · cases hack

/-- The messages a consumer claims in `s`. -/
def claimedMessages (s : SystemState) (minIdleTimeMs : Nat) : List Message :=
  (s.stream.stale minIdleTimeMs s.now).take 100

variable (plan graph mode reply self) in
/-- **The whole call**: what is acknowledged, and what is resolved. -/
theorem reclaim_poisoned (hs : Served s) (minIdleTimeMs : Nat) :
    ∃ out s' rest, (reclaimStaleMessages self minIdleTimeMs).exec
        (poisonedStep plan graph mode reply) ⟨s, []⟩ = (out, ⟨s', rest⟩) ∧
      (∀ m ∈ claimedMessages s minIdleTimeMs,
        (s'.stream.IsPending m ↔ m.id ∉ acknowledgedBy plan (claimedMessages s minIdleTimeMs)) ∧
        (m.id ∈ acknowledgedBy plan (claimedMessages s minIdleTimeMs) → s'.stream.Acked m)) ∧
      ∀ m ∈ claimedMessages s minIdleTimeMs, plan m.id = none →
        m.id ∈ acknowledgedBy plan (claimedMessages s minIdleTimeMs) → Resolved s' m := by
  obtain ⟨r, s₁, cursor, batch, s₂, hcreate, hr, hclaim, hclaimed⟩ := claim_steps hs.ordered
    (fun s state => .ok (graph s state)) mode reply self.consumerName minIdleTimeMs
  have hbatch : batch = claimedMessages s minIdleTimeMs := hclaimed.batch
  obtain ⟨out, s', rest, hloop, hstream, -, hres⟩ := loop_poisoned plan graph mode reply self
    (hs.claimed hclaimed) (fun m hm => hclaimed.mem_entries hm) []
  have hcreate' : poisonedStep plan graph mode reply .xgroupCreate ⟨s, []⟩ = (r, ⟨s₁, []⟩) := by
    rw [poisonedStep_ok rfl hcreate]
    rfl
  have hclaim' : poisonedStep plan graph mode reply
      (.xautoclaim self.consumerName minIdleTimeMs) ⟨s₁, []⟩ =
        (.ok (cursor, batch), ⟨s₂, batch⟩) := poisonedStep_ok rfl hclaim
  rw [← exec_reclaimStaleMessages hr hcreate' hclaim'] at hloop
  rw [← hbatch]
  refine ⟨out, s', rest, hloop, fun m hm => ?_, hres⟩
  have hpending : s₂.stream.IsPending m := by
    rw [hclaimed.pending]
    rw [hbatch] at hm
    exact Stream.stale_isPending (List.mem_of_mem_take hm)
  rw [hstream]
  exact ⟨by rw [Stream.isPending_xackAll, and_iff_right hpending],
    fun hid => Stream.acked_xackAll hpending hid⟩

end Poison

/-! ## what a poisoned message blocks -/

/-- Every message of the batch of which nothing goes wrong has been processed: its row is final and
it is acknowledged; and every other one is still pending. -/
structure Unblocked (plan : Plan) (batch : List Message) (s' : SystemState) : Prop where
  processed : ∀ message ∈ batch, plan message.id = none →
    Resolved s' message ∧ s'.stream.Acked message ∧ ¬s'.stream.IsPending message
  pending : ∀ message ∈ batch, plan message.id ≠ none → s'.stream.IsPending message

/-- From the first message that raises on, all of them do; and that first one is not acknowledged
by the very call that raises. -/
def FailuresLast (plan : Plan) : List Message → Prop
  | [] => True
  | message :: batch =>
    match plan message.id with
    | none => FailuresLast plan batch
    | some failure => ¬failure.Acknowledged ∧ ∀ later ∈ batch, plan later.id ≠ none

/-- Then exactly the messages of which nothing goes wrong are acknowledged. -/
theorem failuresLast_iff {plan : Plan} {batch : List Message}
    (hnodup : (batch.map Entry.id).Nodup) : FailuresLast plan batch ↔
      ∀ message ∈ batch, plan message.id = none ↔ message.id ∈ acknowledgedBy plan batch := by
  induction batch with
  | nil => exact iff_of_true trivial nofun
  | cons message batch ih =>
    rw [List.map_cons, List.nodup_cons] at hnodup
    unfold FailuresLast acknowledgedBy
    cases hplan : plan message.id with
    | none =>
      rw [ih hnodup.2, List.forall_mem_cons]
      dsimp only
      rw [and_iff_right (iff_of_true hplan List.mem_cons_self)]
      refine forall_congr' fun later => forall_congr' fun hlater => ?_
      have hne : later.id ≠ message.id := fun h => hnodup.1 (h ▸ List.mem_map_of_mem hlater)
      rw [List.mem_cons, or_iff_right hne]
    | some failure =>
      rw [List.forall_mem_cons, hplan]
      dsimp only
      by_cases hack : failure.Acknowledged
      · rw [if_pos hack]
        refine iff_of_false (fun h => h.1 hack) fun h => ?_
        cases h.1.mpr (List.mem_singleton_self _)
      · rw [if_neg hack]
        constructor
        · intro h
          refine ⟨iff_of_false nofun nofun, fun later hlater => ?_⟩
          exact iff_of_false (h.2 later hlater) nofun
        · intro h
          refine ⟨hack, fun later hlater hnone => ?_⟩
          cases (h.2 later hlater).mp hnone

theorem claimedMessages_nodup (s : SystemState) (minIdleTimeMs : Nat) :
    ((claimedMessages s minIdleTimeMs).map Entry.id).Nodup := by
  rw [List.Nodup, List.pairwise_map]
  exact ((s.stream.stale_sorted minIdleTimeMs s.now).sublist (List.take_sublist 100 _)).imp
    Nat.ne_of_lt

/--
**Poisoned messages block those after them.** Whatever messages of the batch raise, in whatever
call: the others are processed and those that raise stay pending, if and only if the messages that
raise are the last ones of the batch.
-/
theorem unblocked_iff {plan : Plan} {graph : SystemState → RecoveryState → RecoveryState}
    {mode : WriteMode} {reply : Replies} {self : RecoveryQueueConsumer} {s : SystemState}
    (hs : Served s) {minIdleTimeMs : Nat} :
    Unblocked plan (claimedMessages s minIdleTimeMs)
        ((reclaimStaleMessages self minIdleTimeMs).exec
          (poisonedStep plan graph mode reply) ⟨s, []⟩).2.system ↔
      FailuresLast plan (claimedMessages s minIdleTimeMs) := by
  obtain ⟨out, s', rest, hexec, hstream, hres⟩ :=
    reclaim_poisoned plan graph mode reply self hs minIdleTimeMs
  rw [hexec, failuresLast_iff (claimedMessages_nodup s minIdleTimeMs)]
  dsimp only
  constructor
  · intro h m hm
    constructor
    · intro hnone
      by_contra hack
      exact (h.processed m hm hnone).2.2 ((hstream m hm).1.mpr hack)
    · intro hack
      by_contra hsome
      exact (hstream m hm).1.mp (h.pending m hm hsome) hack
  · intro h
    refine ⟨fun m hm hnone => ?_, fun m hm hsome => ?_⟩
    · have hack := (h m hm).mp hnone
      exact ⟨hres m hm hnone hack, (hstream m hm).2 hack, fun hp => (hstream m hm).1.mp hp hack⟩
    · exact (hstream m hm).1.mpr fun hack => hsome ((h m hm).mpr hack)

/-- The graph raises for one message. -/
def poisonedBy (id : Nat) : Plan := fun messageId =>
  if messageId = id then some ⟨.graph, false, .other "RuntimeError"⟩ else none

/-- Of two messages the second one raises. -/
theorem unblocked_second :
    Unblocked (poisonedBy 2) (claimedMessages (backlog 2) 30000)
      ((reclaimStaleMessages ⟨"consumer-2", 3⟩ 30000).exec
        (poisonedStep (poisonedBy 2) (fun _ state => state) .changedColumns
          (titleReplies (.consumer 1))) ⟨backlog 2, []⟩).2.system :=
  (unblocked_iff (backlog_served 2)).mpr ⟨nofun, nofun⟩

/-- Of two messages the first one raises, and the second one is not processed. -/
theorem blocked_second :
    ¬Unblocked (poisonedBy 1) (claimedMessages (backlog 2) 30000)
      ((reclaimStaleMessages ⟨"consumer-2", 3⟩ 30000).exec
        (poisonedStep (poisonedBy 1) (fun _ state => state) .changedColumns
          (titleReplies (.consumer 1))) ⟨backlog 2, []⟩).2.system := by
  obtain ⟨out, s', rest, hexec, hstream, -⟩ := reclaim_poisoned (poisonedBy 1)
    (fun _ state => state) .changedColumns (titleReplies (.consumer 1)) ⟨"consumer-2", 3⟩
    (backlog_served 2) 30000
  rw [hexec]
  intro h
  have hm : (⟨2, Dict.empty.set "job_id" "1"⟩ : Message) ∈ claimedMessages (backlog 2) 30000 :=
    List.mem_cons_of_mem _ List.mem_cons_self
  exact (h.processed _ hm rfl).2.2 ((hstream _ hm).1.mpr nofun)

end Sentinel
