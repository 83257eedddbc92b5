import Sentinel.System.Discipline

/-!
# Consumers keep the discipline

The calls of a consumer, one after another. Others may work on the same job meanwhile, so what a
consumer can count on is `Kept` only: the entry stays, the row stays, a final status stays final.

* `processJob_safe` — a message in the stream is acknowledged only after its row became final
* `processNextJob_safe`, `reclaimStaleMessages_safe` — a consumer keeps its promises
-/

namespace Sentinel

open Lib Prog RecoveryQueueConsumer

section Consumer

variable {X : Services} {mode : WriteMode} {good : List String → Json → Prop} {strict : Prop}
  {n : Nat} {α : Type} {Q : Except PyError α → SystemState → Prop} {s s' s₀ : SystemState}

abbrev ConsumerSafe (X : Services) (mode : WriteMode) (good : List String → Json → Prop)
    (strict : Prop) (n : Nat) (p : SystemProg α) (Q : Except PyError α → SystemState → Prop)
    (s : SystemState) : Prop :=
  p.Safe ((discipline X mode good strict).contract (.consumer n)) Q s

/-- Unless it raises, a program keeps what was there in `s₀`. -/
def KeptSince (s₀ : SystemState) : Except PyError α → SystemState → Prop
  | .ok _, s => Kept s₀ s
  | .error _, _ => True

/-- The rule of one call of a consumer. -/
theorem consumer_await {op : SystemOp} {f : SystemPort.Ans op → SystemProg α}
    (hQ : ∀ e s, Q (.error e) s)
    (h : ∀ s', Kept s s' → SystemInv mode good s' → ∀ a s'', commandOk X mode op s' a s'' →
      (ConsumerGuar s' s'' ∧ SystemInv mode good s'') ∧
        ConsumerSafe X mode good strict n (f a) Q s'') :
    ConsumerSafe X mode good strict n (await op >>= f) Q s := by
  refine safe_faulty_bind (fun _ _ _ hsem => hsem) (fun _ e s' _ => hQ e s') ?_
  intro s' hrely hinv
  refine ⟨ConsumerGuar.refl s', fun a s'' hok => ?_⟩
  obtain ⟨hg, hk⟩ := h s' hrely hinv a s'' hok
  exact ⟨hg, fun _ => hk⟩

/-- The rule of a call that only reads. -/
theorem consumer_read {op : SystemOp} {f : SystemPort.Ans op → SystemProg α}
    {P : SystemState → SystemPort.Ans op → Prop} (hQ : ∀ e s, Q (.error e) s)
    (hread : ∀ s a s', commandOk X mode op s a s' → P s a ∧ s' = s)
    (h : ∀ s', Kept s s' → SystemInv mode good s' → ∀ a, P s' a →
      ConsumerSafe X mode good strict n (f a) Q s') :
    ConsumerSafe X mode good strict n (await op >>= f) Q s := by
  refine consumer_await hQ fun s' hs' hinv a s'' hok => ?_
  obtain ⟨hP, rfl⟩ := hread s' a s'' hok
  exact ⟨⟨ConsumerGuar.refl _, hinv⟩, h _ hs' hinv a hP⟩

/-! ## what the calls that write promise -/

/-- A command that keeps the log and acknowledges only resolved entries. -/
theorem stream_guar {stream : Stream (Dict String String)} (hinv : SystemInv mode good s)
    (hs' : s' = { s with stream := stream }) (hent : stream.entries = s.stream.entries)
    (hack : ∀ message ∈ s.stream.entries, stream.Acked message →
      s.stream.Acked message ∨ Resolved s message) :
    ConsumerGuar s s' ∧ SystemInv mode good s' := by
  subst hs'
  exact ⟨⟨hent, fun _ => Or.inl rfl, hack⟩, hinv.withStream hent hack⟩

/-- A final status that is written, or was there when the row was loaded, is there afterwards. -/
theorem final_written {loaded model row : JobModel} (hmodel : model.Final)
    (hloaded : loaded.Final → row.Final) : (written mode loaded model row).Final := by
  cases mode with
  | atomic => exact hmodel
  | changedColumns =>
    unfold JobModel.Final written
    simp only
    split
    · next heq => exact hloaded (by unfold JobModel.Final at hmodel ⊢; rwa [heq] at hmodel)
    · exact hmodel

/-- The results of successful recoveries are good. -/
def GoodRecoveries (X : Services) (good : List String → Json → Prop) : Prop :=
  ∀ job maxAttempts final, X.ainvoke (buildInitialState job maxAttempts) final →
    final.finalStatus = some .success → good job.requiredFields final.recoveredData

/-- What the commit of a final state does to the row of a job with an entry. -/
theorem update_guar {jobId : String} {job : Job} {final : RecoveryState} {loaded row : JobModel}
    (hinv : SystemInv mode good s) (hrow : s.jobs jobId = some row) (he : HasEntry s jobId)
    (hloaded : loaded.Final → row.Final) (hfields : row.requiredFields = job.requiredFields)
    (hgood : final.finalStatus = some .success → good job.requiredFields final.recoveredData) :
    let new := written mode loaded (loaded.assign (finalJob job final)) row
    new.Final ∧ ConsumerGuar s (s.setJob jobId new) ∧ SystemInv mode good (s.setJob jobId new) := by
  intro new
  have hmodel : (loaded.assign (finalJob job final)).Final :=
    (finalJob_status job final).imp (fun h => congrArg JobStatus.value h)
      (fun h => congrArg JobStatus.value h)
  have hnew : new.Final := final_written hmodel hloaded
  have hsame : SameJob row new := sameJob_written mode _ _ row
  refine ⟨hnew, ⟨rfl, fun id => ?_, fun _ _ h => Or.inl h⟩, hinv.setJob ?_ (fun _ => hnew) ?_⟩
  · by_cases hid : id = jobId
    · subst hid
      exact Or.inr ⟨row, new, hrow, by simp, he, hsame, hnew⟩
    · exact Or.inl (s.setJob_jobs_of_ne new hid)
  · rw [hsame.id, hinv.ids jobId row hrow]
  · rintro rfl hsuccess
    obtain ⟨hfinal, hresult⟩ := finalJob_success (JobStatus.value_inj.mp hsuccess)
    rw [hsame.requiredFields, hfields, show new.result = _ from hresult]
    exact hgood hfinal

/-! ## processing a message -/

/-- Writing the final state back: afterwards the row is final. The row may have changed since it
was read in `s₁`, but it is still the row of the same job. -/
theorem applyFinalState_safe {jobId : String} {job : Job} {row : JobModel}
    {final : RecoveryState} {s₁ : SystemState} (hQ : ∀ e s, Q (.error e) s)
    (hs : Kept s₁ s) (hrow : s₁.jobs jobId = some row) (he : HasEntry s₁ jobId)
    (hid : job.id = jobId) (hfields : row.requiredFields = job.requiredFields)
    (hgood : final.finalStatus = some .success → good job.requiredFields final.recoveredData)
    {k : Unit → SystemProg α}
    (hk : ∀ s' row', Kept s s' → s'.jobs jobId = some row' → row'.Final →
      ConsumerSafe X mode good strict n (k ()) Q s') :
    ConsumerSafe X mode good strict n (applyFinalState job final >>= k) Q s := by
  unfold applyFinalState SqlJobRepository.update
  rw [bind_assoc]
  refine consumer_read hQ (fun _ _ _ => commandOk_sessionGet) fun s₃ hs₃ hinv₃ found hfound => ?_
  -- the row that is loaded may not be the one the run started from
  have hkept₃ := hs.trans hs₃
  obtain ⟨loaded, hloaded, hsame₃, -⟩ := hkept₃.rows jobId row hrow he
  rw [hfound, finalJob_id, hid, hloaded]
  refine consumer_await hQ fun s₄ hs₄ hinv₄ _ s₅ hok => ?_
  have he₃ := hkept₃.hasEntry he
  obtain ⟨row₄, hrow₄, hsame₄, hfinal₄⟩ := hs₄.rows jobId loaded hloaded he₃
  obtain ⟨row', hrow', hs₅⟩ := commandOk_commitUpdate hok
  have hmodelId : (loaded.assign (finalJob job final)).id = jobId := hinv₃.ids jobId loaded hloaded
  rw [hmodelId] at hrow' hs₅
  rw [hrow₄] at hrow'
  cases hrow'
  obtain ⟨hnew, hguar, hinv₅⟩ := update_guar hinv₄ hrow₄ (hs₄.hasEntry he₃) hfinal₄
    ((hsame₃.trans hsame₄).requiredFields.trans hfields) hgood
  rw [hs₅]
  refine ⟨⟨hguar, hinv₅⟩, hk _ _ ((hs₃.trans hs₄).trans hguar.kept) (by simp) hnew⟩

/-- Acknowledging a message whose row is final. -/
theorem xack_safe {message : Message} (hs : Kept s₀ s) (hmem : message ∈ s.stream.entries)
    (hres : Resolved s message) {k : Nat → SystemProg α}
    (hk : ∀ a s', Kept s₀ s' → ConsumerSafe X mode good strict n (k a) (KeptSince s₀) s') :
    ConsumerSafe X mode good strict n (await (.xack message.id) >>= k) (KeptSince s₀) s := by
  refine consumer_await (fun _ _ => trivial) fun s' hs' hinv a s'' hok => ?_
  obtain ⟨hxack, hs''⟩ := commandOk_xack hok
  have hstream : s''.stream = (s'.stream.xack message.id).2 := by rw [hxack]
  have hg := stream_guar hinv hs'' (by rw [hstream, Stream.entries_xack]) (by
    intro message' hm' hack
    rw [hstream] at hack
    rcases Stream.acked_xack hack with hold | hid
    · exact Or.inl hold
    · -- an entry with this id is the message itself
      rw [s'.stream.eq_of_id_eq hm' (hs'.entries message hmem) hid]
      exact Or.inr (hs'.resolved hmem hres))
  exact ⟨hg, hk a s'' ((hs.trans hs').trans hg.1.kept)⟩

/-- **A message is acknowledged after its row became final**, and the row was there to be found. -/
theorem processJob_safe (hX : GoodRecoveries X good) (self : RecoveryQueueConsumer)
    {jobId : String} {message : Message} (hs : Kept s₀ s) (hmem : message ∈ s₀.stream.entries)
    (hname : Names message jobId) :
    ConsumerSafe X mode good strict n (processJob self jobId message.id) (KeptSince s₀) s := by
  have hQ : ∀ e s, (KeptSince s₀ : Except PyError (Option String) → _) (.error e) s :=
    fun _ _ => trivial
  unfold processJob SqlJobRepository.get
  simp only [bind_assoc]
  refine consumer_read hQ (fun _ _ _ => commandOk_selectJob) fun s₁ hs₁ hinv₁ model hmodel => ?_
  -- the row of an enqueued job is there
  have hmem₁ := (hs.trans hs₁).entries message hmem
  obtain ⟨jobId', row, hname', hrow⟩ := hinv₁.entries message hmem₁
  cases hname.unique hname'
  rw [hmodel, hrow]
  simp only
  cases hjob : modelToJob row with
  | error e =>
    simp only [lift_error, raise_bind]
    trivial
  | ok job =>
    obtain ⟨hid, -, -, hfields, -⟩ := modelToJob_ok hjob
    have hjobId : job.id = jobId := hid.trans (hinv₁.ids jobId row hrow)
    simp only [lift_ok, ret_bind, pure_eq]
    refine consumer_read hQ (fun _ _ _ => commandOk_ainvoke) fun s₂ hs₂ _ final hfinal => ?_
    refine applyFinalState_safe hQ hs₂ hrow ⟨message, hmem₁, hname⟩ hjobId hfields.symm
      (hX job self.maxAttempts final hfinal) fun s₃ row₃ hs₃ hrow₃ hfinal₃ => ?_
    have hkept := (hs.trans hs₁).trans (hs₂.trans hs₃)
    exact xack_safe hkept (hkept.entries message hmem) ⟨jobId, row₃, hname, hrow₃, hfinal₃⟩
      fun _ _ h => h

theorem handleMessage_safe (hX : GoodRecoveries X good) (self : RecoveryQueueConsumer)
    {message : Message} (hs : Kept s₀ s) (hmem : message ∈ s₀.stream.entries) :
    ConsumerSafe X mode good strict n (handleMessage self message) (KeptSince s₀) s := by
  unfold handleMessage field
  cases hname : message.fields.get? "job_id" with
  | none => trivial
  | some jobId => exact processJob_safe hX self hs hmem hname

/-! ## the two entry points -/

theorem ensureGroupExists_only : ensureGroupExists.Only (· = SystemOp.xgroupCreate) := by
  refine ⟨rfl, fun r => ?_⟩
  cases r with
  | ok a => trivial
  | error e =>
    cases e with
    | responseError message =>
      show Only _ (if _ then _ else _)
      split <;> trivial
    | _ => trivial

/-- Creating the group, whether or not it exists, keeps the discipline. -/
theorem ensureGroupExists_safe (s : SystemState) :
    ConsumerSafe X mode good strict n ensureGroupExists (fun _ _ => True) s := by
  refine ensureGroupExists_only.safe ?_ (fun _ _ => trivial) s
  rintro op s r s' rfl hinv hsem
  have hok : ∀ s', commandOk X mode .xgroupCreate s () s' →
      ConsumerGuar s s' ∧ SystemInv mode good s' := by
    intro s' hok
    obtain ⟨hcreate, hs'⟩ := commandOk_xgroupCreate hok
    obtain ⟨hent, hack⟩ := Stream.xgroupCreate_ok hcreate
    exact stream_guar hinv hs' hent fun message _ h => Or.inl ((hack message).mp h)
  cases r with
  | ok a => exact hok s' hsem
  | error e =>
    rcases hsem with rfl | ⟨a, h⟩
    · exact ⟨ConsumerGuar.refl _, hinv⟩
    · exact hok s' h

theorem processNextJob_safe (hX : GoodRecoveries X good) (self : RecoveryQueueConsumer)
    (s : SystemState) :
    ConsumerSafe X mode good strict n (processNextJob self) (fun _ _ => True) s := by
  unfold processNextJob
  refine (ensureGroupExists_safe s).bind (fun _ s₁ _ => ?_) fun _ _ _ => trivial
  refine consumer_await (fun _ _ => trivial) fun s₂ _ hinv response s₃ hok => ?_
  obtain ⟨hread, hs₃⟩ := commandOk_xreadgroup hok
  obtain ⟨hent, hack, hmem⟩ := Stream.xreadgroup_ok hread
  refine ⟨stream_guar hinv hs₃ hent fun message _ h => Or.inl ((hack message).mp h), ?_⟩
  cases response with
  | none => trivial
  | some message =>
    have hm : message ∈ s₃.stream.entries := by
      rw [hent]
      exact hmem message rfl
    exact (handleMessage_safe hX self (Kept.refl s₃) hm).mono fun _ _ _ => trivial

theorem reclaimStaleMessages_safe (hX : GoodRecoveries X good) (self : RecoveryQueueConsumer)
    (minIdleTimeMs : Nat) (s : SystemState) :
    ConsumerSafe X mode good strict n (reclaimStaleMessages self minIdleTimeMs)
      (fun _ _ => True) s := by
  unfold reclaimStaleMessages
  refine (ensureGroupExists_safe s).bind (fun _ s₁ _ => ?_) fun _ _ _ => trivial
  refine consumer_await (fun _ _ => trivial) fun s₂ _ hinv response s₃ hok => ?_
  obtain ⟨hclaim, hs₃⟩ := commandOk_xautoclaim hok
  obtain ⟨hent, hack, hmem⟩ := Stream.xautoclaim_ok hclaim
  refine ⟨stream_guar hinv hs₃ hent fun message _ h => Or.inl ((hack message).mp h), ?_⟩
  obtain ⟨cursor, claimedMessages⟩ := response
  -- the claimed messages stay in the log through all rounds
  refine Safe.foldlM (J := Kept s₃) ?_ (fun _ _ _ => trivial) [] s₃ (Kept.refl s₃)
  intro reclaimed message s₄ hm hs₄
  have hm₃ : message ∈ s₃.stream.entries := by
    rw [hent]
    exact hmem message hm
  refine (handleMessage_safe hX self hs₄ hm₃).bind (fun _ _ h => h) fun _ _ _ => trivial

end Consumer

end Sentinel
