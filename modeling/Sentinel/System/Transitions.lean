import Sentinel.System.Delivery
import Sentinel.System.Outcome

/-!
# What a request does, call by call

A request changes the table and the stream at three of its calls: the commit of the new row, the
commit of the outcome and the `XADD`. Between them the row is as the request left it, whatever
the others do, so each of the three finds the row in one known state.

* `RequestStep` — the three changes, with the state each of them finds
* `execute_steps` — every call of a request makes one of them or none; what holds at its end
* `request_sound` — so does every request of every run
-/

namespace Sentinel

open Lib Machine Prog ProcessScrapeRequestUseCase

/-- The outcome of some extraction for a new job. -/
def Concluded (X : Services) (jobId url domain : String) (requiredFields : List String)
    (job : Job) : Prop :=
  ∃ result, X.extract url domain requiredFields result ∧
    applyExtractionResult (Job.create jobId url domain requiredFields) result = .ok job

inductive RequestStep (X : Services) (jobId : String) (s : SystemState) : SystemState → Prop
  | idle : RequestStep X jobId s s
  | create {url domain : String} {requiredFields : List String} :
      s.jobs jobId = none → ¬HasEntry s jobId →
      RequestStep X jobId s
        (s.setJob jobId (jobToModel (Job.create jobId url domain requiredFields)))
  | conclude {url domain : String} {requiredFields : List String} {job : Job} :
      Alone jobId (some (jobToModel (Job.create jobId url domain requiredFields))) s →
      Concluded X jobId url domain requiredFields job →
      RequestStep X jobId s (s.setJob jobId (jobToModel job))
  | announce {url domain : String} {requiredFields : List String} {job : Job}
      {fields : Dict String String} :
      Alone jobId (some (jobToModel job)) s → Concluded X jobId url domain requiredFields job →
      job.status = .recoveryPending → fields.get? "job_id" = some jobId →
      RequestStep X jobId s { s with stream := (s.stream.xadd fields).2 }

/-- What a request that returns `job` has left behind. -/
structure Returned (X : Services) (jobId url domain : String) (requiredFields : List String)
    (job : Job) (s : SystemState) : Prop where
  concluded : Concluded X jobId url domain requiredFields job
  row : s.jobs jobId = some (jobToModel job)
  entry : HasEntry s jobId ↔ job.status = .recoveryPending

theorem Concluded.identity {X : Services} {jobId url domain : String}
    {requiredFields : List String} {job : Job}
    (h : Concluded X jobId url domain requiredFields job) :
    job.id = jobId ∧ job.url = url ∧ job.domain = domain ∧
      job.requiredFields = requiredFields := by
  obtain ⟨result, -, hjob⟩ := h
  exact applyExtractionResult_identity hjob

/-- The three outcomes. -/
theorem Concluded.cases {X : Services} {jobId url domain : String} {requiredFields : List String}
    {job : Job} (h : Concluded X jobId url domain requiredFields job) :
    (∃ data, job = (Job.create jobId url domain requiredFields).markSucceeded data) ∨
      job = (Job.create jobId url domain requiredFields).markRecoveryPending ∨
      ∃ reason, job = (Job.create jobId url domain requiredFields).markFailed reason := by
  obtain ⟨result, -, hjob⟩ := h
  unfold applyExtractionResult at hjob
  split at hjob
  · exact Or.inl ⟨_, (Except.ok.inj hjob).symm⟩
  · split at hjob
    · exact Or.inr (Or.inl (Except.ok.inj hjob).symm)
    · split at hjob
      · cases hjob
      · exact Or.inr (Or.inr ⟨_, (Except.ok.inj hjob).symm⟩)

theorem Concluded.status {X : Services} {jobId url domain : String} {requiredFields : List String}
    {job : Job} (h : Concluded X jobId url domain requiredFields job) :
    job.status = .success ∨ job.status = .recoveryPending ∨ job.status = .failed := by
  rcases h.cases with ⟨_, rfl⟩ | rfl | ⟨_, rfl⟩
  · exact Or.inl rfl
  · exact Or.inr (Or.inl rfl)
  · exact Or.inr (Or.inr rfl)

/-- A job that waits for its recovery has nothing else to tell. -/
theorem Concluded.waiting {X : Services} {jobId url domain : String} {requiredFields : List String}
    {job : Job} (h : Concluded X jobId url domain requiredFields job)
    (hst : job.status = .recoveryPending) :
    job = (Job.create jobId url domain requiredFields).markRecoveryPending := by
  rcases h.cases with ⟨_, rfl⟩ | heq | ⟨_, rfl⟩
  · cases hst
  · exact heq
  · cases hst

/-! ## the calls of a request -/

section Request

variable {X : Services} {mode : WriteMode} {jobId : String} {row : Option JobModel}
  {s : SystemState} {α : Type} {Q : Except PyError α → SystemState → Prop}

/-- A request keeps the further promise, given that it keeps the discipline. -/
abbrev StepsSafe (X : Services) (mode : WriteMode) (jobId : String) (p : SystemProg α)
    (Q : Except PyError α → SystemState → Prop) (s : SystemState) : Prop :=
  p.Safe (((discipline X mode (fun _ _ => True) False).contract (.gateway jobId)).layer
    fun _ => RequestStep X jobId) Q s

/-- The rule of one call. -/
theorem steps_await {op : SystemOp} {f : SystemPort.Ans op → SystemProg α}
    (hQ : ∀ e s, Q (.error e) s) (hs : Alone jobId row s)
    (h : ∀ s', Alone jobId row s' → ∀ a s'', commandOk X mode op s' a s'' →
      RequestStep X jobId s' s'' ∧ StepsSafe X mode jobId (f a) Q s'') :
    StepsSafe X mode jobId (await op >>= f) Q s := by
  rw [StepsSafe, safe_perform_bind]
  rintro s' hrely - r s'' ⟨⟨hsem, -⟩, hguar, hinv⟩
  have hcall := h s' (hs.rely hrely)
  cases r with
  | ok a =>
    obtain ⟨hstep, hrest⟩ := hcall a s'' hsem
    exact ⟨⟨hstep, hinv⟩, hrest⟩
  | error e =>
    refine ⟨⟨?_, hinv⟩, hQ e s''⟩
    -- a call that raises has done nothing or what a call that returns does
    rcases hsem with rfl | ⟨a, hok⟩
    · exact .idle
    · exact (hcall a s'' hok).1

/-- The rule of a call that only reads. -/
theorem steps_read {op : SystemOp} {f : SystemPort.Ans op → SystemProg α}
    {P : SystemState → SystemPort.Ans op → Prop} (hQ : ∀ e s, Q (.error e) s)
    (hs : Alone jobId row s) (hread : ∀ s a s', commandOk X mode op s a s' → P s a ∧ s' = s)
    (h : ∀ s', Alone jobId row s' → ∀ a, P s' a → StepsSafe X mode jobId (f a) Q s') :
    StepsSafe X mode jobId (await op >>= f) Q s := by
  refine steps_await hQ hs fun s' hs' a s'' hok => ?_
  obtain ⟨hP, rfl⟩ := hread s' a s'' hok
  exact ⟨.idle, h _ hs' a hP⟩

theorem insert_steps {url domain : String} {requiredFields : List String}
    {k : Unit → SystemProg α} (hQ : ∀ e s, Q (.error e) s) (hs : Alone jobId none s)
    (hk : ∀ s', Alone jobId (some (jobToModel (Job.create jobId url domain requiredFields))) s' →
      StepsSafe X mode jobId (k ()) Q s') :
    StepsSafe X mode jobId
      (SqlAlchemyJobRepository.save (Job.create jobId url domain requiredFields) >>= k) Q s := by
  unfold SqlAlchemyJobRepository.save
  rw [bind_assoc]
  refine steps_read hQ hs (fun _ _ _ => commandOk_sessionGet) fun s₁ hs₁ existing hex => ?_
  rw [hex, show s₁.jobs (Job.create jobId url domain requiredFields).id = none from hs₁.1]
  refine steps_await hQ hs₁ fun s₂ hs₂ _ s₃ hok => ?_
  obtain ⟨-, rfl⟩ := commandOk_commitInsert hok
  exact ⟨.create hs₂.1 hs₂.2, hk _ hs₂.setJob⟩

theorem update_steps {url domain : String} {requiredFields : List String} {job : Job}
    {k : Unit → SystemProg α} (hQ : ∀ e s, Q (.error e) s)
    (hs : Alone jobId (some (jobToModel (Job.create jobId url domain requiredFields))) s)
    (hjob : Concluded X jobId url domain requiredFields job)
    (hk : ∀ s', Alone jobId (some (jobToModel job)) s' → StepsSafe X mode jobId (k ()) Q s') :
    StepsSafe X mode jobId (SqlAlchemyJobRepository.save job >>= k) Q s := by
  obtain rfl := hjob.identity.1
  have hassign : (jobToModel (Job.create job.id url domain requiredFields)).assign job =
      jobToModel job := jobToModel_assign hjob.identity
  unfold SqlAlchemyJobRepository.save
  rw [bind_assoc]
  refine steps_read hQ hs (fun _ _ _ => commandOk_sessionGet) fun s₁ hs₁ existing hex => ?_
  rw [hex, hs₁.1]
  dsimp only
  refine steps_await hQ hs₁ fun s₂ hs₂ _ s₃ hok => ?_
  -- the row is the one that was loaded
  obtain ⟨r, hr, hs₃⟩ := commandOk_commitUpdate hok
  rw [hassign] at hr hs₃
  rw [show (jobToModel job).id = job.id from rfl] at hr hs₃
  rw [hs₂.1] at hr
  cases hr
  rw [← hassign, written_self, hassign] at hs₃
  subst hs₃
  exact ⟨.conclude hs₂ hjob, hk _ hs₂.setJob⟩

theorem enqueue_steps {url domain : String} {requiredFields : List String} {job : Job}
    (hs : Alone jobId (some (jobToModel job)) s)
    (hjob : Concluded X jobId url domain requiredFields job) (hst : job.status = .recoveryPending) :
    StepsSafe X mode jobId (RedisRecoveryQueue.enqueue jobId)
      (fun out s => ∀ u, out = .ok u → s.jobs jobId = some (jobToModel job) ∧ HasEntry s jobId)
      s := by
  unfold RedisRecoveryQueue.enqueue
  refine steps_read nofun hs (fun _ _ _ => commandOk_injectTraceContext) fun s₁ hs₁ ctx hctx => ?_
  have hname : (RedisRecoveryQueue.message jobId ctx).get? "job_id" = some jobId :=
    RedisRecoveryQueue.message_jobId hctx
  refine steps_await nofun hs₁ fun s₂ hs₂ id s₃ hok => ?_
  obtain ⟨hadd, hs₃⟩ := commandOk_xadd hok
  have hstream : s₃.stream = (s₂.stream.xadd (RedisRecoveryQueue.message jobId ctx)).2 := by
    rw [hadd]
  rw [hs₃, hstream]
  have hnew : (⟨s₂.stream.lastId + 1, RedisRecoveryQueue.message jobId ctx⟩ : Message) ∈
      (s₂.stream.xadd (RedisRecoveryQueue.message jobId ctx)).2.entries :=
    List.mem_append_right _ (List.mem_singleton_self _)
  exact ⟨.announce hs₂ hjob hst hname, fun _ _ => ⟨hs₂.1, _, hnew, hname⟩⟩

/-- **Every call of a request** makes one of the three changes or none. -/
theorem execute_steps (url domain : String) (requiredFields : List String)
    (hs : Alone jobId none s) :
    StepsSafe X mode jobId (execute jobId url domain requiredFields)
      (fun out s => ∀ job, out = .ok job → Returned X jobId url domain requiredFields job s) s := by
  unfold execute
  refine insert_steps nofun hs fun s₁ hs₁ => ?_
  refine steps_read nofun hs₁ (fun _ _ _ => commandOk_extract) fun s₂ hs₂ result hresult => ?_
  cases hjob : applyExtractionResult (Job.create jobId url domain requiredFields) result with
  | error e => exact nofun
  | ok job =>
    have hconcluded : Concluded X jobId url domain requiredFields job := ⟨result, hresult, hjob⟩
    simp only [lift_ok, ret_bind]
    refine update_steps nofun hs₂ hconcluded fun s₃ hs₃ => ?_
    split
    · next hst =>
      rw [hconcluded.identity.1]
      refine (enqueue_steps hs₃ hconcluded hst).bind (fun _ s₄ h => ?_) fun _ _ _ => nofun
      obtain ⟨hrow, hentry⟩ := h _ rfl
      rintro job ⟨⟩
      exact ⟨hconcluded, hrow, iff_of_true hentry hst⟩
    · next hst =>
      rintro job ⟨⟩
      exact ⟨hconcluded, hs₃.1, iff_of_false hs₃.2 hst⟩

end Request

/-! ## runs -/

/-- The further promise of requests; consumers promise nothing new. -/
def requestGuar (X : Services) : SystemRole → SystemOp → SystemState → SystemState → Prop
  | .gateway jobId, _, s, s' => RequestStep X jobId s s'
  | .consumer _, _, _, _ => True

/-- The discipline together with the steps of requests. -/
abbrev requestDiscipline (X : Services) (mode : WriteMode) :
    Machine.Discipline SystemPort PyError SystemRole SystemState :=
  (discipline X mode (fun _ _ => True) False).both (requestGuar X) fun _ _ _ => True

section Runs

variable {X : Services} {mode : WriteMode} {s : SystemState}

/-- A consumer has nothing to prove. -/
theorem consumer_steps {n : Nat} (p : SystemProg Unit) (s : SystemState) :
    p.Safe (((discipline X mode (fun _ _ => True) False).contract (.consumer n)).layer
      (requestGuar X (.consumer n))) (fun _ _ => True) s := by
  refine (only_true p).safe ?_ (fun _ _ => trivial) s
  rintro op s r s' - - ⟨-, -, hinv⟩
  exact ⟨trivial, hinv⟩

theorem request_steps (jobId url domain : String) (requiredFields : List String)
    (hs : Alone jobId none s) :
    (execute jobId url domain requiredFields >>= fun _ => pure ()).Safe
      (((discipline X mode (fun _ _ => True) False).contract (.gateway jobId)).layer
        (requestGuar X (.gateway jobId))) (fun _ _ => True) s :=
  (execute_steps url domain requiredFields hs).bind (fun _ _ _ => trivial) fun _ _ _ => trivial

/-- **Every request of every run** changes the system by these steps only. -/
theorem request_sound (X : Services) (mode : WriteMode) :
    (systemMachine X mode).Sound anyStep (requestDiscipline X mode) fun _ => True := by
  refine (any_sound X mode).both fun hp _ hfresh => ?_
  cases hp with
  | request jobId url domain requiredFields =>
    exact request_steps jobId url domain requiredFields hfresh
  | next n self => exact consumer_steps _ _
  | reclaim n self minIdleTimeMs => exact consumer_steps _ _

theorem request_guar {c c' : SystemPool}
    (h : (systemMachine X mode).Steps anyStep systemInitial c) {i : SystemRole} {op : SystemOp}
    {r : Except PyError (SystemPort.Ans op)}
    (hf : (systemMachine X mode).Fire c (.call i op r) c') :
    (requestDiscipline X mode).guar i op c.state c'.state := by
  have hfresh : ∀ i, (discipline X mode (fun _ _ => True) False).fresh i SystemState.initial :=
    initial_fresh
  have h0 : Ok (requestDiscipline X mode) systemInitial := Ok.initial SystemInv.initial hfresh
  exact (request_sound X mode).call (fun _ _ => trivial) h0 h hf trivial

end Runs

end Sentinel
