import Sentinel.System.Finality
import Sentinel.System.Transitions

/-!
# The life cycle of a job

The status column is text that two services write. Over a whole run it moves along the edges of a
small graph, whatever the interleaving, the faults and the redeliveries.

* `StatusStep` — the edges
* `Tracked` — every status is one that is in use, and a job with an entry has left the request
* `row_step` — one call moves a row along one edge or leaves it as it is
* `row_lifecycle` — so a run moves it along a path; a failed job is never touched again
-/

namespace Sentinel

open Lib Machine RecoveryQueueConsumer

/-- The outcome of a recovery. -/
def JobStatus.Final (st : JobStatus) : Prop := st = .success ∨ st = .needsHumanReview

inductive StatusStep : JobStatus → JobStatus → Prop
  | concluded {st : JobStatus} :
      st = .success ∨ st = .recoveryPending ∨ st = .failed → StatusStep .pending st
  | recovered {st : JobStatus} : st.Final → StatusStep .recoveryPending st
  /-- A message that is delivered again is processed again. -/
  | reprocessed {st st' : JobStatus} : st.Final → st'.Final → StatusStep st st'

theorem JobModel.Final.status {row : JobModel} (h : row.Final) :
    ∃ st : JobStatus, row.status = st.value ∧ st.Final := by
  rcases h with h | h
  · exact ⟨_, h, Or.inl rfl⟩
  · exact ⟨_, h, Or.inr rfl⟩

/-- The status of a row, as a value of the enumeration; no row is ever `recovering`. -/
def HasStatus (row : JobModel) (st : JobStatus) : Prop :=
  row.status = st.value ∧ st ≠ .recovering

theorem HasStatus.unique {row : JobModel} {st st' : JobStatus} (h : HasStatus row st)
    (h' : HasStatus row st') : st = st' :=
  JobStatus.value_inj.mp (h.1.symm.trans h'.1)

structure Tracked (s : SystemState) : Prop where
  status : ∀ jobId row, s.jobs jobId = some row → ∃ st, HasStatus row st
  covered : ∀ jobId row, s.jobs jobId = some row → HasEntry s jobId →
    ∃ st : JobStatus, row.status = st.value ∧ (st = .recoveryPending ∨ st.Final)

theorem Tracked.initial : Tracked SystemState.initial := ⟨nofun, nofun⟩

/-- A row that is written: its job has no entry, or its status fits one. -/
theorem Tracked.setJob {s : SystemState} (h : Tracked s) {jobId : String} {row : JobModel}
    {st : JobStatus} (hst : HasStatus row st)
    (hcovered : HasEntry s jobId → st = .recoveryPending ∨ st.Final) :
    Tracked (s.setJob jobId row) := by
  refine ⟨fun id r hr => ?_, fun id r hr he => ?_⟩
  · rcases SystemState.setJob_cases hr with ⟨rfl, rfl⟩ | ⟨-, hr⟩
    · exact ⟨st, hst⟩
    · exact h.status id r hr
  · rcases SystemState.setJob_cases hr with ⟨rfl, rfl⟩ | ⟨-, hr⟩
    · exact ⟨st, hst.1, hcovered he⟩
    · exact h.covered id r hr he

/-! ## one step -/

/-- A row after a step: it is there, and it is as it was or has moved along an edge. -/
def RowMoved (row row' : JobModel) : Prop :=
  SameJob row row' ∧ (row' = row ∨ ∃ st st', HasStatus row st ∧ HasStatus row' st' ∧
    StatusStep st st')

theorem RowMoved.refl (row : JobModel) : RowMoved row row := ⟨SameJob.refl row, Or.inl rfl⟩

section Step

variable {X : Services} {mode : WriteMode} {s s' : SystemState} {jobId : String} {row : JobModel}

theorem Concluded.hasStatus {url domain : String} {requiredFields : List String} {job : Job}
    (h : Concluded X jobId url domain requiredFields job) :
    HasStatus (jobToModel job) job.status := by
  refine ⟨rfl, ?_⟩
  rcases h.status with h | h | h <;> rw [h] <;> decide

theorem hasStatus_create (jobId url domain : String) (requiredFields : List String) :
    HasStatus (jobToModel (Job.create jobId url domain requiredFields)) .pending :=
  ⟨rfl, by decide⟩

/-- What a request does to its own row. -/
theorem RequestStep.moved (h : RequestStep X jobId s s') (hrow : s.jobs jobId = some row) :
    ∃ row', s'.jobs jobId = some row' ∧ RowMoved row row' := by
  cases h with
  | idle => exact ⟨row, hrow, .refl row⟩
  | create hnone _ =>
    rw [hnone] at hrow
    cases hrow
  | @conclude url domain requiredFields job halone hjob =>
    rw [halone.1] at hrow
    cases hrow
    obtain ⟨hid, hurl, hdomain, hfields⟩ := hjob.identity
    exact ⟨_, SystemState.setJob_jobs_self _ _ _, ⟨hid, hurl, hdomain, hfields⟩,
      Or.inr ⟨_, _, hasStatus_create .., hjob.hasStatus, .concluded hjob.status⟩⟩
  | announce halone _ _ _ =>
    exact ⟨row, hrow, .refl row⟩

theorem RequestStep.tracked (h : RequestStep X jobId s s') (hs : Tracked s)
    (hguar : GatewayGuar jobId s s') : Tracked s' := by
  cases h with
  | idle => exact hs
  | create hnone hno => exact hs.setJob (hasStatus_create ..) fun he => absurd he hno
  | conclude halone hjob => exact hs.setJob hjob.hasStatus fun he => absurd he halone.2
  | @announce _ _ _ job fields halone hjob hst hname =>
    refine ⟨hs.status, fun id r hr he => ?_⟩
    by_cases hid : id = jobId
    · -- the job that is announced waits for its recovery
      subst hid
      cases halone.1.symm.trans hr
      exact ⟨job.status, rfl, Or.inl hst⟩
    · exact hs.covered id r hr (hguar.hasEntry hid he)

/-- A consumer makes rows final, and they had an entry before. -/
theorem ConsumerGuar.moved (h : ConsumerGuar s s') (hs : Tracked s)
    (hrow : s.jobs jobId = some row) : ∃ row', s'.jobs jobId = some row' ∧ RowMoved row row' := by
  rcases h.rows jobId with heq | ⟨r, row', hr, hrow', he, hsame, hfinal⟩
  · exact ⟨row, heq.trans hrow, .refl row⟩
  · rw [hrow] at hr
    cases hr
    obtain ⟨st', hst', hfinal'⟩ := hfinal.status
    have hnew : HasStatus row' st' := ⟨hst', by rcases hfinal' with rfl | rfl <;> decide⟩
    obtain ⟨st, hst, hcase⟩ := hs.covered jobId row hrow he
    refine ⟨row', hrow', hsame, Or.inr ⟨st, st', ⟨hst, ?_⟩, hnew, ?_⟩⟩
    · rcases hcase with rfl | rfl | rfl <;> decide
    · rcases hcase with rfl | hcase
      · exact .recovered hfinal'
      · exact .reprocessed hcase hfinal'

theorem ConsumerGuar.tracked (h : ConsumerGuar s s') (hs : Tracked s) : Tracked s' := by
  have hrows : ∀ jobId row', s'.jobs jobId = some row' → s.jobs jobId = some row' ∨
      row'.Final := by
    intro jobId row' hrow'
    rcases h.rows jobId with heq | ⟨_, r, -, hr, -, -, hfinal⟩
    · exact Or.inl (heq ▸ hrow')
    · rw [hr] at hrow'
      cases hrow'
      exact Or.inr hfinal
  refine ⟨fun jobId row' hrow' => ?_, fun jobId row' hrow' he => ?_⟩
  · rcases hrows jobId row' hrow' with hrow | hfinal
    · exact hs.status jobId row' hrow
    · obtain ⟨st, hst, hfinal⟩ := hfinal.status
      exact ⟨st, hst, by rcases hfinal with rfl | rfl <;> decide⟩
  · rcases hrows jobId row' hrow' with hrow | hfinal
    · exact hs.covered jobId row' hrow (h.hasEntry.mp he)
    · obtain ⟨st, hst, hfinal⟩ := hfinal.status
      exact ⟨st, hst, Or.inr hfinal⟩

/-- **One call** moves a row along one edge or leaves it as it is. -/
theorem row_step {i : SystemRole} {op : SystemOp}
    (h : (requestDiscipline X mode).guar i op s s') (hs : Tracked s) :
    Tracked s' ∧ ∀ jobId row, s.jobs jobId = some row →
      ∃ row', s'.jobs jobId = some row' ∧ RowMoved row row' := by
  obtain ⟨hguar, hstep⟩ := h
  cases i with
  | consumer n =>
    have hguar : ConsumerGuar s s' := hguar
    exact ⟨hguar.tracked hs, fun _ _ hrow => hguar.moved hs hrow⟩
  | gateway id =>
    have hguar : GatewayGuar id s s' := hguar
    have hstep : RequestStep X id s s' := hstep
    refine ⟨hstep.tracked hs hguar, fun jobId row hrow => ?_⟩
    by_cases hid : jobId = id
    · subst hid
      exact hstep.moved hrow
    · exact ⟨row, (hguar.others jobId hid).trans hrow, .refl row⟩

end Step

/-! ## runs -/

/-- A row after a run of the system. -/
structure RowLived (row row' : JobModel) : Prop where
  same : SameJob row row'
  status : ∃ st st', HasStatus row st ∧ HasStatus row' st' ∧
    Relation.ReflTransGen StatusStep st st'
  failed : row.status = JobStatus.failed.value → row' = row

theorem RowLived.refl {row : JobModel} {st : JobStatus} (h : HasStatus row st) :
    RowLived row row :=
  ⟨SameJob.refl row, ⟨st, st, h, h, .refl⟩, fun _ => rfl⟩

theorem RowLived.tail {row row' row'' : JobModel} (h : RowLived row row')
    (hmove : RowMoved row' row'') : RowLived row row'' := by
  obtain ⟨hsame, hmove⟩ := hmove
  obtain ⟨st, st', hst, hst', hpath⟩ := h.status
  rcases hmove with rfl | ⟨st₁, st₂, hst₁, hst₂, hedge⟩
  · exact h
  · refine ⟨h.same.trans hsame, ⟨st, st₂, hst, hst₂, hpath.tail (hst₁.unique hst' ▸ hedge)⟩, ?_⟩
    intro hfailed
    -- no edge leaves `failed`
    have hf : st₁ = .failed := by
      have := h.failed hfailed
      subst this
      exact JobStatus.value_inj.mp (hst₁.1.symm.trans hfailed)
    subst hf
    cases hedge with
    | reprocessed hfinal _ => rcases hfinal with hfinal | hfinal <;> cases hfinal

section Runs

variable {X : Services} {mode : WriteMode} {c c' : SystemPool}

theorem fire_rows (hrun : (systemMachine X mode).Steps anyStep systemInitial c)
    (hs : Tracked c.state) {l : Label SystemPort PyError SystemRole}
    (hf : (systemMachine X mode).Fire c l c') :
    Tracked c'.state ∧ ∀ jobId row, c.state.jobs jobId = some row →
      ∃ row', c'.state.jobs jobId = some row' ∧ RowMoved row row' := by
  cases hf with
  | spawn => exact ⟨hs, fun _ row hrow => ⟨row, hrow, .refl row⟩⟩
  | crash => exact ⟨hs, fun _ row hrow => ⟨row, hrow, .refl row⟩⟩
  | env henv =>
    obtain ⟨d, rfl⟩ := henv
    exact ⟨⟨hs.status, hs.covered⟩, fun _ row hrow => ⟨row, hrow, .refl row⟩⟩
  | call hi hsem =>
    exact row_step (request_guar hrun (Fire.call hi hsem)) hs

theorem run_tracked (hrun : (systemMachine X mode).Steps anyStep systemInitial c) :
    Tracked c.state :=
  hrun.induct (P := fun c => Tracked c.state) Tracked.initial fun _ _ _ hrun hs hf _ =>
    (fire_rows hrun hs hf).1

/--
**The life cycle of a job**, over any run with any interleaving, faults, deaths and redeliveries.
A row that is stored is never removed, and its id, url, domain and required fields never change.
Its status moves along a path of the life cycle: `pending` to `success`, `recovery_pending` or
`failed`; `recovery_pending` to `success` or `needs_human_review`; between these two if the job is
processed again. No row is ever `recovering`, and the row of a failed job never changes at all. A
job with an entry in the stream is in `recovery_pending`, `success` or `needs_human_review`.
-/
theorem row_lifecycle (hrun : (systemMachine X mode).Steps anyStep systemInitial c)
    (hrun' : (systemMachine X mode).Steps anyStep c c') {jobId : String} {row : JobModel}
    (hrow : c.state.jobs jobId = some row) :
    ∃ row', c'.state.jobs jobId = some row' ∧ RowLived row row' ∧
      (HasEntry c'.state jobId →
        ∃ st : JobStatus, HasStatus row' st ∧ (st = .recoveryPending ∨ st.Final)) := by
  have hlived : ∃ row', c'.state.jobs jobId = some row' ∧ RowLived row row' := by
    refine hrun'.induct
      (P := fun c' => ∃ row', c'.state.jobs jobId = some row' ∧ RowLived row row') ?_ ?_
    · obtain ⟨st, hst⟩ := (run_tracked hrun).status jobId row hrow
      exact ⟨row, hrow, .refl hst⟩
    · rintro c₁ l c₂ hsteps ⟨row₁, hrow₁, hlived⟩ hf -
      have hrun₁ := hrun.trans hsteps
      obtain ⟨row₂, hrow₂, hmove⟩ := (fire_rows hrun₁ (run_tracked hrun₁) hf).2 jobId row₁ hrow₁
      exact ⟨row₂, hrow₂, hlived.tail hmove⟩
  obtain ⟨row', hrow', hlived⟩ := hlived
  refine ⟨row', hrow', hlived, fun he => ?_⟩
  obtain ⟨st, hst, hcase⟩ := (run_tracked (hrun.trans hrun')).covered jobId row' hrow' he
  exact ⟨st, ⟨hst, by rcases hcase with rfl | rfl | rfl <;> decide⟩, hcase⟩

/-- A job that is recovered by one consumer and given up by the next. -/
theorem row_lifecycle_secondRun : ∃ row row',
    (play titleStep (titleRequest 7) systemInitial).state.jobs "7" = some row ∧
      (play titleStep (recoveringRun.drop 2 ++ secondRun)
        (play titleStep (titleRequest 7) systemInitial)).state.jobs "7" = some row' ∧
      RowLived row row' ∧ HasStatus row .recoveryPending ∧ HasStatus row' .needsHumanReview ∧
      ∃ st : JobStatus, HasStatus row' st ∧ (st = .recoveryPending ∨ st.Final) := by
  have hrun : (systemMachine anyServices .atomic).Steps anyStep systemInitial
      (play titleStep (titleRequest 7) systemInitial) :=
    Steps.play titleStep_faulty _ _
      ⟨⟨⟨rfl, .request _ _ _ _⟩, trivial⟩, turnAllowed_anyStep _ _ _, trivial⟩
  have hrun' : (systemMachine anyServices .atomic).Steps anyStep
      (play titleStep (titleRequest 7) systemInitial)
      (play titleStep (recoveringRun.drop 2 ++ secondRun)
        (play titleStep (titleRequest 7) systemInitial)) :=
    Steps.play titleStep_faulty _ _ ⟨⟨⟨rfl, .next _ _⟩, trivial⟩, turnAllowed_anyStep _ _ _,
      ⟨⟨trivial, _, rfl⟩, trivial⟩, ⟨⟨30000, rfl⟩, trivial⟩,
      ⟨⟨rfl, .reclaim _ _ _⟩, trivial⟩, turnAllowed_anyStep _ _ _, trivial⟩
  have hrow : (play titleStep (titleRequest 7) systemInitial).state.jobs "7" = some _ := rfl
  obtain ⟨row', hrow', hlived, hcovered⟩ := row_lifecycle hrun hrun' hrow
  have hst : ((play titleStep (recoveringRun.drop 2 ++ secondRun)
      (play titleStep (titleRequest 7) systemInitial)).state.jobs "7").map JobModel.status =
        some JobStatus.needsHumanReview.value := rfl
  rw [hrow'] at hst
  exact ⟨_, row', hrow, hrow', hlived, ⟨rfl, by decide⟩, ⟨Option.some.inj hst, by decide⟩,
    hcovered ⟨titleMessage, List.mem_singleton_self _, rfl⟩⟩

end Runs

end Sentinel
