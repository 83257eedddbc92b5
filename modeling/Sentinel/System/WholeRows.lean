import Sentinel.System.Finality
import Sentinel.System.Success

/-!
# Whole rows

A row is whole if it has a result exactly in status `success` and a failure reason exactly in
status `failed`. A commit writes only the columns that differ from the row as it was loaded, so
two processings of one job can leave a row to which each has written a part.

* `Agrees` — the commit cannot mix its own columns with those of another processing
* `whole_written_iff` — a commit leaves the row whole exactly if it agrees
* `rows_whole` — if every commit of a consumer agrees, every row of every run is whole
* `row_torn` — two consumers that load the row of one job before either of them commits
-/

namespace Sentinel

open Lib Machine Prog RecoveryQueueConsumer

/-! ## jobs and rows that are whole -/

structure JobModel.Whole (row : JobModel) : Prop where
  result : row.result ≠ .null ↔ row.status = JobStatus.success.value
  failureReason : row.failureReason ≠ none ↔ row.status = JobStatus.failed.value

structure Job.Whole (job : Job) : Prop where
  result : job.result ≠ .null ↔ job.status = .success
  failureReason : job.failureReason ≠ none ↔ job.status = .failed

/-- Assigning a job to a row makes the row as whole as the job. -/
theorem Job.Whole.assign {job : Job} (h : job.Whole) (row : JobModel) :
    (row.assign job).Whole := by
  refine ⟨h.result.trans JobStatus.value_inj.symm, ?_⟩
  rw [show (row.assign job).failureReason = job.failureReason.map FailureReason.value from rfl,
    ne_eq, Option.map_eq_none_iff]
  exact h.failureReason.trans JobStatus.value_inj.symm

theorem Job.Whole.toModel {job : Job} (h : job.Whole) : (jobToModel job).Whole :=
  h.assign (jobToModel job)

theorem JobModel.Whole.reason_none {row : JobModel} (h : row.Whole)
    (hst : row.status ≠ JobStatus.failed.value) : row.failureReason = none := by
  by_contra hne
  exact hst (h.failureReason.mp hne)

/-- The outcome of a request is whole, if successful extractions have data. -/
theorem applyExtractionResult_whole {job job' : Job} {result : ExtractionResultDTO}
    (hnew : job.result = .null ∧ job.failureReason = none)
    (hdata : result.success = true → result.data ≠ .null)
    (h : ProcessScrapeRequestUseCase.applyExtractionResult job result = .ok job') :
    job'.Whole := by
  obtain ⟨hresult, hreason⟩ := hnew
  unfold ProcessScrapeRequestUseCase.applyExtractionResult at h
  split at h
  · next hok =>
    cases h
    exact ⟨by simp [Job.markSucceeded, hdata hok], by simp [Job.markSucceeded, hreason]⟩
  · split at h
    · cases h
      exact ⟨by simp [Job.markRecoveryPending, hresult],
        by simp [Job.markRecoveryPending, hreason]⟩
    · split at h
      · cases h
      · cases h
        exact ⟨by simp [Job.markFailed, hresult], by simp [Job.markFailed]⟩

/-- The outcome of a run is whole, if the job had not failed and recoveries have data. -/
theorem finalJob_whole {job : Job} {final : RecoveryState} (hreason : job.failureReason = none)
    (hdata : final.finalStatus = some .success → final.recoveredData ≠ .null) :
    (finalJob job final).Whole := by
  unfold finalJob
  split
  · next hs =>
    exact ⟨by simp [Job.markSucceeded, hdata hs], by simp [Job.markSucceeded, hreason]⟩
  · exact ⟨by simp, by simp⟩

/-! ## one commit -/

/--
The commit of `model`, which was `loaded` before it was changed, does not mix with the `row` it
finds: the job is recovered in that row if and only if it was when the row was loaded, or the
commit writes status and result both, or neither of them.
-/
def Agrees (loaded model row : JobModel) : Prop :=
  (row.status = JobStatus.success.value ↔ loaded.status = JobStatus.success.value) ∨
    (model.status = loaded.status ↔ model.result = loaded.result)

/-- The part of a whole row that a recovery writes. -/
def JobModel.ResultFits (row : JobModel) : Prop :=
  row.result ≠ .null ↔ row.status = JobStatus.success.value

/-- The two columns that are written may come from different processings. -/
theorem resultFits_written_iff {loaded model row : JobModel} (hl : loaded.ResultFits)
    (hm : model.ResultFits) (hr : row.ResultFits) :
    (written .changedColumns loaded model row).ResultFits ↔ Agrees loaded model row := by
  unfold JobModel.ResultFits Agrees written at *
  dsimp only
  by_cases hst : model.status = loaded.status <;> by_cases hres : model.result = loaded.result
  · -- nothing is written
    rw [if_pos hst, if_pos hres]
    exact iff_of_true hr (Or.inr (iff_of_true hst hres))
  · -- only the result is written, so both outcomes are successes
    rw [if_pos hst, if_neg hres]
    have hsuccess : loaded.status = JobStatus.success.value := by
      by_contra hne
      have hl' : loaded.result = .null := not_not.mp (mt hl.mp hne)
      have hm' : model.result = .null := not_not.mp (mt hm.mp (hst ▸ hne))
      exact hres (hm'.trans hl'.symm)
    have hmodel : model.result ≠ .null := hm.mpr (hst.trans hsuccess)
    constructor
    · exact fun h => Or.inl (iff_of_true (h.mp hmodel) hsuccess)
    · rintro (h | h)
      · exact iff_of_true hmodel (h.mpr hsuccess)
      · exact absurd (h.mp hst) hres
  · -- only the status is written, beside the result of the row
    rw [if_neg hst, if_pos hres]
    have hmodel : model.status = JobStatus.success.value ↔
        loaded.status = JobStatus.success.value := by
      rw [← hm, ← hl, hres]
    rw [hr, hmodel]
    constructor
    · exact Or.inl
    · rintro (h | h)
      · exact h
      · exact absurd (h.mpr hres) hst
  · -- both are written
    rw [if_neg hst, if_neg hres]
    exact iff_of_true hm (Or.inr (iff_of_false hst hres))

/-- The status after a commit is that of the row or the one that is committed. -/
theorem written_status_ne {mode : WriteMode} {loaded model row : JobModel} {status : String}
    (hm : model.status ≠ status) (hr : row.status ≠ status) :
    (written mode loaded model row).status ≠ status := by
  cases mode with
  | atomic => exact hm
  | changedColumns =>
    unfold written
    dsimp only
    split
    · exact hr
    · exact hm

/-- **A commit between rows that have not failed leaves the row whole exactly if it agrees.** -/
theorem whole_written_iff {loaded model row : JobModel} (hl : loaded.Whole) (hm : model.Whole)
    (hr : row.Whole) (hlf : loaded.status ≠ JobStatus.failed.value)
    (hmf : model.status ≠ JobStatus.failed.value) (hrf : row.status ≠ JobStatus.failed.value) :
    (written .changedColumns loaded model row).Whole ↔ Agrees loaded model row := by
  rw [← resultFits_written_iff hl.result hm.result hr.result]
  refine ⟨fun h => h.result, fun h => ⟨h, ?_⟩⟩
  have hreason : (written .changedColumns loaded model row).failureReason = none := by
    show (if model.failureReason = loaded.failureReason then row.failureReason else _) = none
    rw [hm.reason_none hmf, hl.reason_none hlf, hr.reason_none hrf, if_pos rfl]
  refine iff_of_false (not_not.mpr hreason) ?_
  exact written_status_ne hmf hrf

/-! ## what holds of all rows -/

/-- Every row is whole, and a job that is in the stream has not failed. -/
structure RowsWhole (s : SystemState) : Prop where
  whole : ∀ jobId row, s.jobs jobId = some row → row.Whole
  covered : ∀ jobId row, s.jobs jobId = some row → HasEntry s jobId →
    row.status ≠ JobStatus.failed.value

theorem RowsWhole.setJob {s : SystemState} (h : RowsWhole s) {jobId : String} {row : JobModel}
    (hrow : row.Whole) (hcovered : HasEntry s jobId → row.status ≠ JobStatus.failed.value) :
    RowsWhole (s.setJob jobId row) := by
  refine ⟨fun id r hr => ?_, fun id r hr he => ?_⟩
  · rcases SystemState.setJob_cases hr with ⟨rfl, rfl⟩ | ⟨-, hr⟩
    · exact hrow
    · exact h.whole id r hr
  · rcases SystemState.setJob_cases hr with ⟨rfl, rfl⟩ | ⟨-, hr⟩
    · exact hcovered he
    · exact h.covered id r hr he

/-- Commands that keep the log. -/
theorem RowsWhole.withStream {s : SystemState} (h : RowsWhole s)
    {stream : Stream (Dict String String)} (hent : stream.entries = s.stream.entries) :
    RowsWhole { s with stream := stream } := by
  refine ⟨h.whole, fun jobId row hrow he => h.covered jobId row hrow ?_⟩
  obtain ⟨message, hm, hname⟩ := he
  exact ⟨message, hent ▸ hm, hname⟩

/-! ## the second layer -/

/-- A commit of a consumer agrees with the row it finds. -/
def Agreeing : SystemRole → SystemOp → SystemState → Prop
  | .consumer _, .commitUpdate loaded model, s =>
    ∀ row, s.jobs model.id = some row → Agrees loaded model row
  | _, _, _ => True

/-- Whenever a consumer commits, its commit agrees with the row it finds. -/
def commitsAgree : SystemGuard := fun c l _ =>
  match l with
  | .call i op _ => Agreeing i op c.state
  | _ => True

/-- The discipline that is known to be kept, without anything about results. -/
abbrev baseDiscipline (X : Services) :
    Machine.Discipline SystemPort PyError SystemRole SystemState :=
  discipline X .changedColumns (fun _ _ => True) False

/-- On top of it: all rows are whole, as long as the commits agree. -/
def rowsDiscipline (X : Services) :
    Machine.Discipline SystemPort PyError SystemRole SystemState where
  inv := RowsWhole
  rely := (baseDiscipline X).rely
  guar := (baseDiscipline X).guar
  sem i op s r s' := withFaults (commandOk X .changedColumns) op s r s' ∧ Agreeing i op s ∧
    SystemInv .changedColumns (fun _ _ => True) s ∧ (baseDiscipline X).guar i op s s'
  fresh := (baseDiscipline X).fresh
  post _ _ _ := True

section Rows

variable {X : Services} {i : SystemRole} {n : Nat} {α : Type} {s s' s₀ : SystemState}
  {jobId : String} {Q : Except PyError α → SystemState → Prop}

abbrev RowsSafe (X : Services) (i : SystemRole) (p : SystemProg α)
    (Q : Except PyError α → SystemState → Prop) (s : SystemState) : Prop :=
  p.Safe ((rowsDiscipline X).contract i) Q s

/-- The rule of one call: if it takes effect, the rows have to be whole afterwards. -/
theorem rows_await {op : SystemOp} {f : SystemPort.Ans op → SystemProg α}
    (hQ : ∀ e s, Q (.error e) s)
    (h : ∀ s', ((baseDiscipline X).rely i).rel s s' → RowsWhole s' →
      SystemInv .changedColumns (fun _ _ => True) s' → Agreeing i op s' → ∀ a s'',
      commandOk X .changedColumns op s' a s'' → (baseDiscipline X).guar i op s' s'' →
        RowsWhole s'' ∧ RowsSafe X i (f a) Q s'') :
    RowsSafe X i (await op >>= f) Q s := by
  rw [RowsSafe, safe_perform_bind]
  rintro s' hrely hinv r s'' ⟨hsem, hagree, hbase, hguar⟩
  have hcall := h s' hrely hinv hbase hagree
  cases r with
  | ok a =>
    obtain ⟨hwhole, hrest⟩ := hcall a s'' hsem hguar
    exact ⟨⟨hguar, hwhole⟩, hrest⟩
  | error e =>
    refine ⟨⟨hguar, ?_⟩, hQ e s''⟩
    -- a call that raises has done nothing or what a call that returns does
    rcases hsem with rfl | ⟨a, hok⟩
    · exact hinv
    · exact (hcall a s'' hok hguar).1

/-- The rule of a call that only reads. -/
theorem rows_read {op : SystemOp} {f : SystemPort.Ans op → SystemProg α}
    {P : SystemState → SystemPort.Ans op → Prop} (hQ : ∀ e s, Q (.error e) s)
    (hread : ∀ s a s', commandOk X .changedColumns op s a s' → P s a ∧ s' = s)
    (h : ∀ s', ((baseDiscipline X).rely i).rel s s' → RowsWhole s' →
      SystemInv .changedColumns (fun _ _ => True) s' → ∀ a, P s' a →
        RowsSafe X i (f a) Q s') :
    RowsSafe X i (await op >>= f) Q s := by
  refine rows_await hQ fun s' hrely hinv hbase _ a s'' hok _ => ?_
  obtain ⟨hP, rfl⟩ := hread s' a s'' hok
  exact ⟨hinv, h _ hrely hinv hbase a hP⟩

/-! ## requests -/

/-- Successful extractions have data, and so have successful recoveries. -/
def NonNull (_ : List String) (result : Json) : Prop := result ≠ .null

/-- A save of a request that is alone with the row, as it left it. -/
theorem save_rows {job : Job} {row : Option JobModel} (hid : job.id = jobId) (hjob : job.Whole)
    (hrow : ∀ loaded, row = some loaded → loaded.id = jobId) (hs : Alone jobId row s)
    {k : Unit → SystemProg Unit}
    (hk : ∀ s' new, Alone jobId (some new) s' → new.status = job.status.value →
      new.id = jobId → RowsSafe X (.gateway jobId) (k ()) (fun _ _ => True) s') :
    RowsSafe X (.gateway jobId) (SqlAlchemyJobRepository.save job >>= k) (fun _ _ => True) s := by
  subst hid
  unfold SqlAlchemyJobRepository.save
  rw [bind_assoc]
  refine rows_read (fun _ _ => trivial) (fun _ _ _ => commandOk_sessionGet)
    fun s₁ hs₁ _ _ existing hex => ?_
  have hs₁ := hs.rely hs₁
  rw [hex, hs₁.1]
  cases row with
  | none =>
    refine rows_await (fun _ _ => trivial) fun s₂ hs₂ hinv _ _ a s₃ hok _ => ?_
    have hs₂ := hs₁.rely hs₂
    obtain ⟨-, rfl⟩ := commandOk_commitInsert hok
    exact ⟨hinv.setJob hjob.toModel fun he => absurd he hs₂.2, hk _ _ hs₂.setJob rfl rfl⟩
  | some loaded =>
    refine rows_await (fun _ _ => trivial) fun s₂ hs₂ hinv _ _ a s₃ hok _ => ?_
    have hs₂ := hs₁.rely hs₂
    obtain ⟨r, hr, rfl⟩ := commandOk_commitUpdate hok
    have hmodel : (loaded.assign job).id = job.id := hrow loaded rfl
    rw [hmodel] at hr ⊢
    rw [hs₂.1] at hr
    cases hr
    rw [written_self]
    exact ⟨hinv.setJob (hjob.assign loaded) fun he => absurd he hs₂.2,
      hk _ _ hs₂.setJob rfl hmodel⟩

theorem enqueue_rows {loaded : JobModel} (hst : loaded.status ≠ JobStatus.failed.value)
    (hs : Alone jobId (some loaded) s) :
    RowsSafe X (.gateway jobId) (RedisRecoveryQueue.enqueue jobId >>= fun _ => pure ())
      (fun _ _ => True) s := by
  unfold RedisRecoveryQueue.enqueue
  rw [bind_assoc]
  refine rows_read (fun _ _ => trivial) (fun _ _ _ => commandOk_injectTraceContext)
    fun s₁ hs₁ _ _ ctx hctx => ?_
  rw [bind_assoc]
  refine rows_await (fun _ _ => trivial) fun s₂ hs₂ hinv _ _ id s₃ hok hguar => ⟨?_, trivial⟩
  have hs₂ := (hs.rely hs₁).rely hs₂
  have hjobs : s₃.jobs = s₂.jobs := by rw [(commandOk_xadd hok).2]
  refine ⟨fun id row hrow => hinv.whole id row (hjobs ▸ hrow), fun id row hrow he => ?_⟩
  rw [hjobs] at hrow
  by_cases hid : id = jobId
  · -- the new entry, of a job that waits for its recovery
    subst hid
    rw [hs₂.1] at hrow
    cases hrow
    exact hst
  · exact hinv.covered id row hrow (GatewayGuar.hasEntry hguar hid he)

theorem execute_rows (hX : GoodExtractions X NonNull) (url domain : String)
    (requiredFields : List String) (hs : Alone jobId none s) :
    RowsSafe X (.gateway jobId)
      (ProcessScrapeRequestUseCase.execute jobId url domain requiredFields >>= fun _ => pure ())
      (fun _ _ => True) s := by
  unfold ProcessScrapeRequestUseCase.execute
  simp only [bind_assoc]
  have hnew : (Job.create jobId url domain requiredFields).Whole := ⟨by simp [Job.create],
    by simp [Job.create]⟩
  refine save_rows rfl hnew (fun _ h => by cases h) hs fun s₁ row₁ hs₁ _ hid₁ => ?_
  refine rows_read (fun _ _ => trivial) (fun _ _ _ => commandOk_extract)
    fun s₂ hs₂ _ _ result hresult => ?_
  have hs₂ := hs₁.rely hs₂
  cases hjob : ProcessScrapeRequestUseCase.applyExtractionResult
      (Job.create jobId url domain requiredFields) result with
  | error e => trivial
  | ok job =>
    obtain ⟨hid, -⟩ := ProcessScrapeRequestUseCase.applyExtractionResult_identity hjob
    simp only [lift_ok, ret_bind]
    have hwhole := applyExtractionResult_whole ⟨rfl, rfl⟩
      (hX url domain requiredFields result hresult) hjob
    refine save_rows hid hwhole ?_ hs₂ fun s₃ row₃ hs₃ hst₃ _ => ?_
    · rintro loaded ⟨⟩
      exact hid₁
    · split
      · next hpending =>
        rw [show job.id = jobId from hid, bind_assoc]
        refine enqueue_rows ?_ hs₃
        rw [hst₃, hpending]
        decide
      · trivial

/-! ## consumers -/

/-- The row of a job that is in the stream. -/
theorem RowsWhole.read (h : RowsWhole s) (he : HasEntry s jobId) {row : JobModel}
    (hrow : s.jobs jobId = some row) :
    row.Whole ∧ row.status ≠ JobStatus.failed.value :=
  ⟨h.whole jobId row hrow, h.covered jobId row hrow he⟩

/-- Writing the final state back. The commit is not mixed with that of another consumer. -/
theorem applyFinalState_rows {job : Job} {final : RecoveryState}
    (hQ : ∀ e s, Q (.error e) s) (hid : job.id = jobId) (hwhole : (finalJob job final).Whole)
    (he : HasEntry s jobId) {k : Unit → SystemProg α}
    (hk : ∀ s', Kept s s' → RowsSafe X (.consumer n) (k ()) Q s') :
    RowsSafe X (.consumer n) (applyFinalState job final >>= k) Q s := by
  unfold applyFinalState SqlJobRepository.update
  rw [bind_assoc]
  refine rows_read hQ (fun _ _ _ => commandOk_sessionGet) fun s₁ hs₁ hinv₁ hbase₁ found hfound => ?_
  rw [hfound, finalJob_id, hid]
  cases hloaded : s₁.jobs jobId with
  | none => exact hQ _ _
  | some loaded =>
    have he₁ := Kept.hasEntry hs₁ he
    obtain ⟨hl, hlf⟩ := hinv₁.read he₁ hloaded
    refine rows_await hQ fun s₂ hs₂ hinv₂ _ hagree _ s₃ hok hguar => ?_
    obtain ⟨row, hrow, hs₃⟩ := commandOk_commitUpdate hok
    have hagree := hagree row hrow
    have hmodelId : (loaded.assign (finalJob job final)).id = jobId :=
      hbase₁.ids jobId loaded hloaded
    rw [hmodelId] at hrow hs₃
    have he₂ := Kept.hasEntry hs₂ he₁
    obtain ⟨hr, hrf⟩ := hinv₂.read he₂ hrow
    have hmf : (loaded.assign (finalJob job final)).status ≠ JobStatus.failed.value := by
      show (finalJob job final).status.value ≠ _
      rcases finalJob_status job final with h | h <;> rw [h] <;> decide
    have hnew := (whole_written_iff hl (hwhole.assign loaded) hr hlf hmf hrf).mpr hagree
    rw [hs₃]
    rw [hs₃] at hguar
    exact ⟨hinv₂.setJob hnew fun _ => written_status_ne hmf hrf,
      hk _ ((Kept.trans hs₁ hs₂).trans (ConsumerGuar.kept hguar))⟩

/-- A stream command of a consumer. -/
theorem consumer_stream_rows {stream : Stream (Dict String String)} (hinv : RowsWhole s)
    (hs' : s' = { s with stream := stream }) (hguar : ConsumerGuar s s') : RowsWhole s' := by
  subst hs'
  exact hinv.withStream hguar.entries

theorem xack_rows {message : Message} (hs : Kept s₀ s) {k : Nat → SystemProg α}
    (hk : ∀ a s', Kept s₀ s' → RowsSafe X (.consumer n) (k a) (KeptSince s₀) s') :
    RowsSafe X (.consumer n) (await (.xack message.id) >>= k) (KeptSince s₀) s := by
  refine rows_await (fun _ _ => trivial) fun s₁ hs₁ hinv _ _ a s₂ hok hguar => ?_
  exact ⟨consumer_stream_rows hinv (commandOk_xack hok).2 hguar,
    hk a s₂ ((hs.trans hs₁).trans (ConsumerGuar.kept hguar))⟩

theorem handleMessage_rows (hR : GoodRecoveries X NonNull) (self : RecoveryQueueConsumer)
    {message : Message} (hs : Kept s₀ s) (hmem : message ∈ s₀.stream.entries) :
    RowsSafe X (.consumer n) (handleMessage self message) (KeptSince s₀) s := by
  have hQ : ∀ e s, (KeptSince s₀ : Except PyError (Option String) → _) (.error e) s :=
    fun _ _ => trivial
  unfold handleMessage field
  cases hname : message.fields.get? "job_id" with
  | none => trivial
  | some jobId =>
    simp only [lift_ok, ret_bind]
    unfold processJob SqlJobRepository.get
    simp only [bind_assoc]
    refine rows_read hQ (fun _ _ _ => commandOk_selectJob) fun s₁ hs₁ hinv hbase model hmodel => ?_
    have hs₁ := hs.trans hs₁
    have he : HasEntry s₁ jobId := ⟨message, hs₁.entries message hmem, hname⟩
    rw [hmodel]
    cases hrow : s₁.jobs jobId with
    | none => exact xack_rows hs₁ fun _ _ h => h
    | some row =>
      obtain ⟨hwhole, hnf⟩ := hinv.read he hrow
      cases hjob : modelToJob row with
      | error e =>
        simp only [lift_error, hjob, raise_bind]
        trivial
      | ok job =>
        have hreason := modelToJob_failureReason hjob (hwhole.reason_none hnf)
        have hid := (modelToJob_ok hjob).1.trans (hbase.ids jobId row hrow)
        simp only [hjob, lift_ok, ret_bind, pure_eq]
        refine rows_read hQ (fun _ _ _ => commandOk_ainvoke) fun s₂ hs₂ _ _ final hfinal => ?_
        have hfinal := finalJob_whole hreason (hR job self.maxAttempts final hfinal)
        refine applyFinalState_rows hQ hid hfinal (Kept.hasEntry hs₂ he) fun s₃ hs₃ => ?_
        exact xack_rows ((hs₁.trans hs₂).trans hs₃) fun _ _ h => h

/-- Reading, claiming and creating the group. -/
theorem consumer_await_stream {op : SystemOp} {f : SystemPort.Ans op → SystemProg α}
    (hQ : ∀ e s, Q (.error e) s)
    (hstream : ∀ s a s', commandOk X .changedColumns op s a s' → ∃ stream,
      s' = { s with stream := stream })
    (hk : ∀ s₁ a s₂, commandOk X .changedColumns op s₁ a s₂ → ConsumerGuar s₁ s₂ →
      RowsSafe X (.consumer n) (f a) Q s₂) :
    RowsSafe X (.consumer n) (await op >>= f) Q s := by
  refine rows_await hQ fun s₁ _ hinv _ _ a s₂ hok hguar => ⟨?_, hk s₁ a s₂ hok hguar⟩
  obtain ⟨stream, hs₂⟩ := hstream s₁ a s₂ hok
  exact consumer_stream_rows hinv hs₂ hguar

theorem ensureGroupExists_rows (s : SystemState) :
    RowsSafe X (.consumer n) ensureGroupExists (fun _ _ => True) s := by
  refine ensureGroupExists_only.safe ?_ (fun _ _ => trivial) s
  rintro op s r s' rfl hinv ⟨hsem, -, -, hguar⟩
  refine ⟨hguar, ?_⟩
  cases r with
  | ok a => exact consumer_stream_rows hinv (commandOk_xgroupCreate hsem).2 hguar
  | error e =>
    rcases hsem with rfl | ⟨a, hok⟩
    · exact hinv
    · exact consumer_stream_rows hinv (commandOk_xgroupCreate hok).2 hguar

theorem processNextJob_rows (hR : GoodRecoveries X NonNull) (self : RecoveryQueueConsumer)
    (s : SystemState) :
    RowsSafe X (.consumer n) (processNextJob self) (fun _ _ => True) s := by
  unfold processNextJob
  refine (ensureGroupExists_rows s).bind (fun _ s₁ _ => ?_) fun _ _ _ => trivial
  refine consumer_await_stream (fun _ _ => trivial)
    (fun _ _ _ hok => ⟨_, (commandOk_xreadgroup hok).2⟩) fun s₂ response s₃ hok _ => ?_
  obtain ⟨hent, -, hmem⟩ := Stream.xreadgroup_ok (commandOk_xreadgroup hok).1
  cases response with
  | none => trivial
  | some message =>
    have hm : message ∈ s₃.stream.entries := by
      rw [hent]
      exact hmem message rfl
    exact (handleMessage_rows hR self (Kept.refl s₃) hm).mono fun _ _ _ => trivial

theorem reclaimStaleMessages_rows (hR : GoodRecoveries X NonNull) (self : RecoveryQueueConsumer)
    (minIdleTimeMs : Nat) (s : SystemState) :
    RowsSafe X (.consumer n) (reclaimStaleMessages self minIdleTimeMs) (fun _ _ => True) s := by
  unfold reclaimStaleMessages
  refine (ensureGroupExists_rows s).bind (fun _ s₁ _ => ?_) fun _ _ _ => trivial
  refine consumer_await_stream (fun _ _ => trivial)
    (fun _ _ _ hok => ⟨_, (commandOk_xautoclaim hok).2⟩) fun s₂ response s₃ hok _ => ?_
  obtain ⟨hent, -, hmem⟩ := Stream.xautoclaim_ok (commandOk_xautoclaim hok).1
  obtain ⟨cursor, claimedMessages⟩ := response
  refine Safe.foldlM (J := Kept s₃) ?_ (fun _ _ _ => trivial) [] s₃ (Kept.refl s₃)
  intro reclaimed message s₄ hm hs₄
  have hm₃ : message ∈ s₃.stream.entries := by
    rw [hent]
    exact hmem message hm
  exact (handleMessage_rows hR self hs₄ hm₃).bind (fun _ _ h => h) fun _ _ _ => trivial

end Rows

/-! ## runs -/

section Runs

variable {X : Services} {c : SystemPool}

/-- **The second layer is sound**, for runs that are known to keep the first. -/
theorem rows_sound (hX : GoodExtractions X NonNull) (hR : GoodRecoveries X NonNull) :
    (systemMachine X .changedColumns).Sound
      (fun c l c' => commitsAgree c l c' ∧ (baseDiscipline X).keeps c l c')
      (rowsDiscipline X) fun _ => True where
  sem hsem hg := ⟨hsem, hg.1, hg.2.1, hg.2.2⟩
  spawn := by
    intro c i p hp _ hfresh
    cases hp with
    | request jobId url domain requiredFields =>
      exact execute_rows hX url domain requiredFields hfresh
    | next n self =>
      exact (processNextJob_rows hR self _).bind (fun _ _ _ => trivial) fun _ _ _ => trivial
    | reclaim n self minIdleTimeMs =>
      exact (reclaimStaleMessages_rows hR self minIdleTimeMs _).bind (fun _ _ _ => trivial)
        fun _ _ _ => trivial
  compat := by
    intro c i j op s' _ _ _ hij _ _ hguar
    have hguar : (baseDiscipline X).guar i op c.state s' := hguar
    exact guar_rely hij hguar
  freshStable := by
    intro i j op s s' hij _ hguar hfresh
    have hguar : (baseDiscipline X).guar i op s s' := hguar
    exact guar_fresh hij hguar hfresh
  env := by
    rintro s s' ⟨d, rfl⟩ hinv
    refine ⟨⟨hinv.whole, hinv.covered⟩, fun j => ?_, fun j hfresh => ?_⟩
    · exact show ((baseDiscipline X).rely j).rel s _ from clock_rely j s d
    · have hfresh : (baseDiscipline X).fresh j s := hfresh
      exact clock_fresh d hfresh

/--
**Rows stay whole.** In every run in which each commit of a consumer agrees with the row it
finds, every row of every state is whole: it has a result if and only if its status is `success`,
and a failure reason if and only if its status is `failed`.
-/
theorem rows_whole (hX : GoodExtractions X NonNull) (hR : GoodRecoveries X NonNull)
    (h : (systemMachine X .changedColumns).Steps commitsAgree systemInitial c) {jobId : String}
    {row : JobModel} (hrow : c.state.jobs jobId = some row) : row.Whole := by
  have hbase : (systemMachine X .changedColumns).Sound commitsAgree (baseDiscipline X)
      fun _ => True :=
    system_sound (fun _ _ _ _ _ _ => trivial) (fun _ _ _ _ _ => trivial) nofun
  have hfresh : ∀ i, (baseDiscipline X).fresh i SystemState.initial := initial_fresh
  have h0 : Ok (rowsDiscipline X) systemInitial := Ok.initial ⟨nofun, nofun⟩ hfresh
  have hlayer := hbase.layer (fun _ _ => trivial) initial_ok h
  exact ((rows_sound hX hR).ok (fun _ _ => trivial) h0 hlayer).inv.whole jobId row hrow

end Runs

/-- The worker and the compiled graph are services of this kind, whatever the page and the engine
do: what they call a success has a dictionary of data. -/
theorem workerServices_nonNull (jsonLoads : String → Except PyError Json) (limit : Nat) :
    GoodExtractions (workerServices jsonLoads limit) NonNull ∧
      GoodRecoveries (workerServices jsonLoads limit) NonNull := by
  constructor
  · intro url domain requiredFields result h hok
    obtain ⟨data, hdata, -⟩ := extractions_complete url domain requiredFields result h hok
    rw [hdata]
    nofun
  · intro job maxAttempts final h hsuccess
    obtain ⟨data, hdata, -⟩ := recoveries_complete job maxAttempts final h hsuccess
    rw [hdata]
    nofun

/-! ## two processings of one message -/

/-- Services that answer as `titleReplies` does. -/
def titleServices : Services where
  extract url domain requiredFields result :=
    ∃ i, result = (titleReplies i).extract url domain requiredFields
  ainvoke state final := ∃ i, final = (titleReplies i).ainvoke state

theorem titleServices_extractions : GoodExtractions titleServices NonNull := by
  rintro url domain requiredFields result ⟨i, rfl⟩ hok
  unfold titleReplies at hok
  split at hok <;> cases hok

theorem titleServices_recoveries : GoodRecoveries titleServices NonNull := by
  rintro job maxAttempts final ⟨i, rfl⟩ hsuccess
  unfold titleReplies at hsuccess ⊢
  split
  · nofun
  · next hi =>
    split at hsuccess
    · next n => exact absurd rfl hi
    · cases hsuccess

def columnStep (i : SystemRole) : (op : SystemPort.Op) → SystemState →
    Except PyError (SystemPort.Ans op) × SystemState :=
  commandStep .changedColumns (titleReplies i)

theorem columnStep_faulty (i : SystemRole) (op : SystemPort.Op) (s : SystemState) :
    (systemMachine titleServices .changedColumns).sem i op s (columnStep i op s).1
      (columnStep i op s).2 := by
  refine stepFaulty ?_ s
  cases op with
  | extract url domain requiredFields => exact ⟨i, rfl⟩
  | ainvoke state => exact ⟨i, rfl⟩
  | injectTraceContext =>
    show (titleReplies i).traceContext.get? "job_id" = none
    rw [titleReplies_traceContext]
    rfl
  | _ => trivial

/-- A job is recovered by a consumer that nobody interferes with. -/
theorem rows_whole_titleRun :
    ∃ row, (play columnStep titleRun systemInitial).state.jobs "7" = some row ∧ row.Whole := by
  refine ⟨_, rfl, rows_whole titleServices_extractions titleServices_recoveries
    (Steps.play columnStep_faulty titleRun systemInitial ?_)
    (show (play columnStep titleRun systemInitial).state.jobs "7" = some _ from rfl)⟩
  refine ⟨⟨⟨rfl, .request _ _ _ _⟩, trivial⟩,
    ⟨trivial, trivial, trivial, trivial, trivial, trivial, trivial, trivial⟩,
    ⟨⟨rfl, .next _ _⟩, trivial⟩,
    ⟨trivial, trivial, trivial, trivial, trivial, ?_, trivial, trivial⟩, trivial⟩
  -- the row is as it was loaded
  rintro row ⟨⟩
  exact Or.inl Iff.rfl

/-- Both consumers load the row before either of them commits; the one that gives up is last. -/
def tornRun : List SystemMove :=
  titleRequest 7 ++ [.spawn (.consumer 0) (processNextJob ⟨"consumer-1", 3⟩ >>= fun _ => pure ()),
    .turn (.consumer 0) 5, .env fun s => { s with now := s.now + 30000 },
    .spawn (.consumer 1) (reclaimStaleMessages ⟨"consumer-2", 3⟩ 30000 >>= fun _ => pure ()),
    .turn (.consumer 1) 5, .turn (.consumer 0) 1, .turn (.consumer 1) 1]

/-- The job needs human review, and it has the title that the other consumer found: its commit
writes the status, but no result, since it has loaded none. -/
theorem row_torn : ¬∀ X, GoodExtractions X NonNull → GoodRecoveries X NonNull → ∀ c,
    (systemMachine X .changedColumns).Steps anyStep systemInitial c → ∀ jobId row,
      c.state.jobs jobId = some row → row.Whole := by
  intro h
  have hrun : (systemMachine titleServices .changedColumns).Steps anyStep systemInitial
      (play columnStep tornRun systemInitial) := by
    refine Steps.play columnStep_faulty tornRun systemInitial ?_
    exact ⟨⟨⟨rfl, .request _ _ _ _⟩, trivial⟩, turnAllowed_anyStep _ _ _,
      ⟨⟨rfl, .next _ _⟩, trivial⟩, turnAllowed_anyStep _ _ _, ⟨⟨30000, rfl⟩, trivial⟩,
      ⟨⟨rfl, .reclaim _ _ _⟩, trivial⟩, turnAllowed_anyStep _ _ _, turnAllowed_anyStep _ _ _,
      turnAllowed_anyStep _ _ _, trivial⟩
  have hrow : ((play columnStep tornRun systemInitial).state.jobs "7").map
      (fun row => (row.status, row.result)) =
        some (JobStatus.needsHumanReview.value, hat) := rfl
  obtain ⟨row, hrow, hcolumns⟩ := Option.map_eq_some_iff.mp hrow
  obtain ⟨hst, hresult⟩ := Prod.mk.inj hcolumns
  have hwhole := h titleServices titleServices_extractions titleServices_recoveries _ hrun "7" row
    hrow
  have hsuccess := hwhole.result.mp (by rw [hresult]; nofun)
  rw [hst] at hsuccess
  exact absurd hsuccess (by decide)

end Sentinel
