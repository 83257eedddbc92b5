import Sentinel.System.Discipline

/-!
# Requests keep the discipline

The calls of a request, one after another. Until its `XADD` a request is alone with the row of
its job, so what it has written is still there at the next call.

* `Alone` — the row is as the request left it, and the stream has no entry for the job
* `execute_safe` — a request keeps its promises and, unless it fails, leaves its job covered
-/

namespace Sentinel

open Lib Prog ProcessScrapeRequestUseCase

/-- The row of the job, `none` before it is written, while the stream has no entry for it. -/
def Alone (jobId : String) (row : Option JobModel) (s : SystemState) : Prop :=
  s.jobs jobId = row ∧ ¬HasEntry s jobId

section Gateway

variable {X : Services} {mode : WriteMode} {good : List String → Json → Prop} {strict : Prop}
  {jobId : String} {row : Option JobModel} {s s' : SystemState}

/-- A request in state `s` keeps its promises from here on. -/
abbrev RequestSafe (X : Services) (mode : WriteMode) (good : List String → Json → Prop)
    (strict : Prop) (jobId : String) (p : SystemProg Unit) (s : SystemState) : Prop :=
  p.Safe ((discipline X mode good strict).contract (.gateway jobId))
    ((discipline X mode good strict).post (.gateway jobId)) s

theorem Alone.rely (h : Alone jobId row s) (hr : (gatewayRely jobId).rel s s') :
    Alone jobId row s' := by
  obtain ⟨hrow, hno⟩ := h
  obtain ⟨hno', heq⟩ := hr hno
  exact ⟨heq.trans hrow, hno'⟩

/-- The rule of one call of a request. -/
theorem gateway_await {op : SystemOp} {f : SystemPort.Ans op → SystemProg Unit}
    (hs : Alone jobId row s)
    (h : ∀ s', Alone jobId row s' → SystemInv mode good s' → ∀ a s'',
      commandOk X mode op s' a s'' →
        (GatewayGuar jobId s' s'' ∧ SystemInv mode good s'') ∧
          RequestSafe X mode good strict jobId (f a) s'') :
    RequestSafe X mode good strict jobId (await op >>= f) s := by
  refine safe_faulty_bind (fun _ _ _ hsem => hsem.1)
    (fun s e s' hsem hstrict => hsem.2 hstrict e rfl) ?_
  intro s' hrely hinv
  refine ⟨GatewayGuar.refl jobId s', fun a s'' hok => ?_⟩
  obtain ⟨hg, hk⟩ := h s' (hs.rely hrely) hinv a s'' hok
  exact ⟨hg, fun _ => hk⟩

/-- The rule of a call that only reads. -/
theorem gateway_read {op : SystemOp} {f : SystemPort.Ans op → SystemProg Unit}
    {P : SystemState → SystemPort.Ans op → Prop} (hs : Alone jobId row s)
    (hread : ∀ s a s', commandOk X mode op s a s' → P s a ∧ s' = s)
    (h : ∀ s', Alone jobId row s' → ∀ a, P s' a → RequestSafe X mode good strict jobId (f a) s') :
    RequestSafe X mode good strict jobId (await op >>= f) s := by
  refine gateway_await hs fun s' hs' hinv a s'' hok => ?_
  obtain ⟨hP, rfl⟩ := hread s' a s'' hok
  exact ⟨⟨GatewayGuar.refl jobId _, hinv⟩, h _ hs' a hP⟩

/-- A request writes the row of its job, which was not written before or was pending. -/
theorem gatewayGuar_setJob {new : JobModel} (hs : Alone jobId row s)
    (hpending : ∀ r, row = some r → r.status = JobStatus.pending.value) :
    GatewayGuar jobId s (s.setJob jobId new) := by
  obtain ⟨hrow, hno⟩ := hs
  refine ⟨fun id hid => s.setJob_jobs_of_ne new hid, fun he => absurd he hno, ?_, fun _ h => h,
    fun _ h => Or.inl h, fun _ _ h => h⟩
  intro r hr
  exact Or.inr (hpending r (hrow.symm.trans hr))

theorem Alone.setJob {new : JobModel} (hs : Alone jobId row s) :
    Alone jobId (some new) (s.setJob jobId new) :=
  ⟨s.setJob_jobs_self jobId new, hs.2⟩

/-! ## saving -/

/-- The first save of a request inserts the row. -/
theorem save_insert {job : Job} (hid : job.id = jobId) (hpending : job.status = .pending)
    {k : Unit → SystemProg Unit} (hs : Alone jobId none s)
    (hk : ∀ s', Alone jobId (some (jobToModel job)) s' →
      RequestSafe X mode good strict jobId (k ()) s') :
    RequestSafe X mode good strict jobId (SqlAlchemyJobRepository.save job >>= k) s := by
  subst hid
  unfold SqlAlchemyJobRepository.save
  rw [bind_assoc]
  refine gateway_read hs (fun _ _ _ => commandOk_sessionGet) fun s₁ hs₁ existing hex => ?_
  rw [hex, hs₁.1]
  refine gateway_await hs₁ fun s₂ hs₂ hinv a s₃ hok => ?_
  obtain ⟨-, rfl⟩ := commandOk_commitInsert hok
  refine ⟨⟨gatewayGuar_setJob hs₂ nofun, hinv.setJob rfl (fun he => absurd he hs₂.2) ?_⟩,
    hk _ hs₂.setJob⟩
  intro _ hsuccess
  simp [jobToModel, hpending] at hsuccess

/-- A later save writes the outcome into the row, which still is as the request left it. -/
theorem save_update {job : Job} {loaded : JobModel} (hid : job.id = jobId)
    (hloaded : loaded.id = jobId) (hpending : loaded.status = JobStatus.pending.value)
    (hgood : job.status = .success → good loaded.requiredFields job.result)
    {k : Unit → SystemProg Unit} (hs : Alone jobId (some loaded) s)
    (hk : ∀ s', Alone jobId (some (loaded.assign job)) s' →
      RequestSafe X mode good strict jobId (k ()) s') :
    RequestSafe X mode good strict jobId (SqlAlchemyJobRepository.save job >>= k) s := by
  subst hid
  unfold SqlAlchemyJobRepository.save
  rw [bind_assoc]
  refine gateway_read hs (fun _ _ _ => commandOk_sessionGet) fun s₁ hs₁ existing hex => ?_
  rw [hex, hs₁.1]
  refine gateway_await hs₁ fun s₂ hs₂ hinv a s₃ hok => ?_
  -- nobody else has written the row since it was loaded, so the commit overwrites nothing
  obtain ⟨r, hr, hs₃⟩ := commandOk_commitUpdate hok
  have hmodel : (loaded.assign job).id = job.id := hloaded
  rw [hmodel] at hr hs₃
  rw [hs₂.1] at hr
  cases hr
  rw [written_self] at hs₃
  subst hs₃
  refine ⟨⟨gatewayGuar_setJob hs₂ ?_, hinv.setJob hloaded (fun he => absurd he hs₂.2) ?_⟩,
    hk _ hs₂.setJob⟩
  · rintro r ⟨⟩
    exact hpending
  · intro _ hsuccess
    exact hgood (JobStatus.value_inj.mp hsuccess)

/-! ## enqueueing -/

/-- What `XADD` of the message does. -/
theorem xadd_guar {loaded : JobModel} {fields : Dict String String}
    {stream : Stream (Dict String String)} {id : Nat} (hs : Alone jobId (some loaded) s)
    (hinv : SystemInv mode good s) (hname : fields.get? "job_id" = some jobId)
    (hadd : s.stream.xadd fields = (id, stream)) :
    GatewayGuar jobId s { s with stream := stream } ∧
      SystemInv mode good { s with stream := stream } ∧
      HasEntry { s with stream := stream } jobId := by
  have hst : stream = (s.stream.xadd fields).2 := by rw [hadd]
  subst hst
  have hent : ∀ message ∈ (s.stream.xadd fields).2.entries,
      message ∈ s.stream.entries ∨ message = ⟨s.stream.lastId + 1, fields⟩ := by
    intro message hm
    rw [Stream.entries_xadd] at hm
    rcases List.mem_append.mp hm with hm | hm
    · exact Or.inl hm
    · exact Or.inr (List.mem_singleton.mp hm)
  have hnew : (⟨s.stream.lastId + 1, fields⟩ : Message) ∈ (s.stream.xadd fields).2.entries :=
    List.mem_append_right _ (List.mem_singleton_self _)
  refine ⟨⟨fun _ _ => rfl, fun _ => rfl, fun _ h => Or.inl h,
    fun _ h => List.mem_append_left _ h, ?_, fun _ _ h => h⟩, ⟨hinv.ids, ?_, ?_, hinv.success⟩,
    ⟨_, hnew, hname⟩⟩
  · intro message hm
    rcases hent message hm with hold | rfl
    · exact Or.inl hold
    · exact Or.inr hname
  · intro message hm
    rcases hent message hm with hold | rfl
    · exact hinv.entries message hold
    · exact ⟨jobId, loaded, hname, hs.1⟩
  · intro message hm hack
    rcases hent message hm with hold | rfl
    · exact hinv.acked message hold hack
    · exact absurd hack (s.stream.not_acked_xadd fields)

theorem enqueue_safe {loaded : JobModel} (hs : Alone jobId (some loaded) s) :
    RequestSafe X mode good strict jobId
      (RedisRecoveryQueue.enqueue jobId >>= fun _ => pure ()) s := by
  unfold RedisRecoveryQueue.enqueue
  rw [bind_assoc]
  refine gateway_read hs (fun _ _ _ => commandOk_injectTraceContext) fun s₁ hs₁ ctx hctx => ?_
  rw [bind_assoc]
  refine gateway_await hs₁ fun s₂ hs₂ hinv id s₃ hok => ?_
  obtain ⟨hadd, hs₃⟩ := commandOk_xadd hok
  rw [hs₃]
  obtain ⟨hguar, hinv', hentry⟩ := xadd_guar hs₂ hinv (RedisRecoveryQueue.message_jobId hctx) hadd
  exact ⟨⟨hguar, hinv'⟩, fun _ hun => hun.2 hentry⟩

/-! ## the request -/

/-- The results of successful extractions are good. -/
def GoodExtractions (X : Services) (good : List String → Json → Prop) : Prop :=
  ∀ url domain requiredFields result, X.extract url domain requiredFields result →
    result.success = true → good requiredFields result.data

/-- **A request keeps the discipline.** -/
theorem execute_safe (hX : GoodExtractions X good) (url domain : String)
    (requiredFields : List String) (hs : Alone jobId none s) :
    RequestSafe X mode good strict jobId
      (execute jobId url domain requiredFields >>= fun _ => pure ()) s := by
  unfold execute
  simp only [bind_assoc]
  have hcreate : (Job.create jobId url domain requiredFields).id = jobId := rfl
  refine save_insert hcreate rfl hs fun s₁ hs₁ => ?_
  refine gateway_read hs₁ (fun _ _ _ => commandOk_extract) fun s₂ hs₂ result hresult => ?_
  cases hjob : applyExtractionResult (Job.create jobId url domain requiredFields) result with
  | error e =>
    -- the assertion fails on a job that is still pending
    rintro - ⟨⟨row, hrow, hst⟩, -⟩
    rw [hs₂.1] at hrow
    cases hrow
    simp [jobToModel, Job.create] at hst
  | ok job =>
    obtain ⟨hid, -, -, hfields⟩ := applyExtractionResult_identity hjob
    simp only [lift_ok, ret_bind]
    refine save_update hid rfl rfl ?_ hs₂ fun s₃ hs₃ => ?_
    · intro hsuccess
      obtain ⟨hok, hdata⟩ := applyExtractionResult_success hjob hsuccess
      rw [hdata]
      exact hX url domain requiredFields result hresult hok
    · split
      · rw [show job.id = jobId from hid, bind_assoc]
        exact enqueue_safe hs₃
      · next hne =>
        rintro - ⟨⟨row, hrow, hst⟩, -⟩
        rw [hs₃.1] at hrow
        cases hrow
        exact hne (JobStatus.value_inj.mp hst)

end Gateway

end Sentinel
