import Sentinel.Lib.Ghost
import Sentinel.Recovery.QueueConsumer
import Sentinel.System.Transitions

/-!
# The deployed system

In production a consumer only reads new messages: it never claims those that others have left
pending. So a message is read once, and whoever has read it is alone with the row of its job.

* `deployedMachine` — requests, and consumers that run the loop of the recovery engine
* `Holding` — which message each consumer has read last, a variable that nothing reads
* `HoldInv`, `HoldGuar` — a message is held by one consumer at most, and a row with an entry is
  changed by the consumer that holds the entry
* `LifeStep` — the life of one job: created, concluded and recovered, each at most once
* `hold_sound` — the programs keep all of this
-/

namespace Sentinel

open Lib Machine Prog RecoveryQueueConsumer

inductive DeployedSpawn : SystemRole → SystemProg Unit → Prop
  | request (jobId url domain : String) (requiredFields : List String) :
      DeployedSpawn (.gateway jobId)
        (ProcessScrapeRequestUseCase.execute jobId url domain requiredFields >>= fun _ => pure ())
  | consume (n : Nat) (self : RecoveryQueueConsumer) (rounds : Nat) :
      DeployedSpawn (.consumer n) (consumeForever self rounds)

def deployedMachine (X : Services) (mode : WriteMode) :
    Machine SystemPort PyError SystemRole SystemState :=
  { systemMachine X mode with spawn := fun _ i p => DeployedSpawn i p }

/-! ## the life of a job -/

/-- A job that waits for its recovery. -/
def waitingJob (jobId url domain : String) (requiredFields : List String) : Job :=
  (Job.create jobId url domain requiredFields).markRecoveryPending

/-- What may become of the row of a job. -/
inductive LifeStep (X : Services) (jobId : String) : Option JobModel → Option JobModel → Prop
  | created {url domain : String} {requiredFields : List String} :
      LifeStep X jobId none (some (jobToModel (Job.create jobId url domain requiredFields)))
  | concluded {url domain : String} {requiredFields : List String} {job : Job} :
      Concluded X jobId url domain requiredFields job →
      LifeStep X jobId (some (jobToModel (Job.create jobId url domain requiredFields)))
        (some (jobToModel job))
  | recovered {url domain : String} {requiredFields : List String} {maxAttempts : Int}
      {final : RecoveryState} :
      X.ainvoke (buildInitialState (waitingJob jobId url domain requiredFields) maxAttempts)
        final →
      LifeStep X jobId (some (jobToModel (waitingJob jobId url domain requiredFields)))
        (some (jobToModel (finalJob (waitingJob jobId url domain requiredFields) final)))

/-! ## who holds what -/

/-- The message each consumer has read last. -/
abbrev Holding := Nat → Option Message

def holdingNothing : Holding := fun _ => none

/-- The message after a call: the answer of a read, no message if a read raises. -/
def given : (op : SystemOp) → Except PyError (SystemPort.Ans op) → Option Message → Option Message
  | .xreadgroup _, .ok message, _ => message
  | .xreadgroup _, .error _, _ => none
  | _, _, held => held

def holdingUpdate : GhostUpdate SystemPort PyError SystemRole Holding
  | .consumer n, op, r, γ => Function.update γ n (given op r (γ n))
  | .gateway _, _, _, γ => γ

def held : SystemRole → Holding → Option Message
  | .consumer n, γ => γ n
  | .gateway _, _ => none

structure HoldInv (p : SystemState × Holding) : Prop where
  /-- A job has one message at most. -/
  single : ∀ m ∈ p.1.stream.entries, ∀ m' ∈ p.1.stream.entries, ∀ jobId, Names m jobId →
    Names m' jobId → m = m'
  /-- As long as nobody has read it, its job waits. -/
  waiting : ∀ m ∈ p.1.stream.entries, p.1.stream.Undelivered m → ∀ jobId, Names m jobId →
    ∃ url domain requiredFields,
      p.1.jobs jobId = some (jobToModel (waitingJob jobId url domain requiredFields))
  held : ∀ n m, p.2 n = some m → m ∈ p.1.stream.entries ∧ ¬p.1.stream.Undelivered m
  exclusive : ∀ n n' m, p.2 n = some m → p.2 n' = some m → n = n'

/-- What a consumer counts on: nobody takes its message, or touches the row it is about. -/
def holdRely (i : SystemRole) : Rely (SystemState × Holding) where
  rel p p' := held i p'.2 = held i p.2 ∧ ∀ m jobId, held i p.2 = some m → Names m jobId →
    p'.1.jobs jobId = p.1.jobs jobId
  refl _ := ⟨rfl, fun _ _ _ _ => rfl⟩
  trans h h' := ⟨h'.1.trans h.1, fun m jobId hm hname =>
    (h'.2 m jobId (h.1.trans hm) hname).trans (h.2 m jobId hm hname)⟩

structure HoldGuar (X : Services) (i : SystemRole) (p p' : SystemState × Holding) : Prop where
  others : ∀ n, i ≠ .consumer n → p'.2 n = p.2 n
  taken : ∀ n m, p'.2 n = some m → p.2 n = some m ∨ p.1.stream.Undelivered m
  life : ∀ jobId, p'.1.jobs jobId = p.1.jobs jobId ∨
    LifeStep X jobId (p.1.jobs jobId) (p'.1.jobs jobId) ∧
      (¬HasEntry p.1 jobId ∨ ∃ m, held i p.2 = some m ∧ Names m jobId)
  entries : ∀ m ∈ p.1.stream.entries, m ∈ p'.1.stream.entries
  delivered : ∀ m ∈ p.1.stream.entries, p'.1.stream.Undelivered m → p.1.stream.Undelivered m
  acked : ∀ m ∈ p.1.stream.entries, p'.1.stream.Acked m →
    p.1.stream.Acked m ∨ held i p.2 = some m

def holdDiscipline (X : Services) (mode : WriteMode) :
    Machine.Discipline SystemPort PyError SystemRole (SystemState × Holding) where
  inv := HoldInv
  rely := holdRely
  guar i _ := HoldGuar X i
  sem i op p r p' := withFaults (commandOk X mode) op p.1 r p'.1 ∧
    p'.2 = holdingUpdate i op r p.2 ∧ requestGuar X i op p.1 p'.1
  fresh _ _ := True
  post _ _ _ := True

section Invariant

variable {X : Services} {mode : WriteMode} {s s' : SystemState} {γ : Holding} {n : Nat}
  {i j : SystemRole} {p p' : SystemState × Holding}

theorem HoldGuar.refl (X : Services) (i : SystemRole) (p : SystemState × Holding) :
    HoldGuar X i p p :=
  ⟨fun _ _ => rfl, fun _ _ h => Or.inl h, fun _ => Or.inl rfl, fun _ h => h, fun _ _ h => h,
    fun _ _ h => Or.inl h⟩

/-- What one consumer does does not disturb another one that holds a message. -/
theorem HoldGuar.rely (h : HoldGuar X i p p') (hinv : HoldInv p) (hij : i ≠ j) :
    (holdRely j).rel p p' := by
  cases j with
  | gateway jobId => exact ⟨rfl, nofun⟩
  | consumer n =>
    refine ⟨h.others n hij, fun m jobId hm hname => ?_⟩
    rcases h.life jobId with heq | ⟨-, hno | ⟨m', hm', hname'⟩⟩
    · exact heq
    · exact absurd ⟨m, (hinv.held n m hm).1, hname⟩ hno
    · -- two messages about one job are one message, which has one holder
      cases i with
      | gateway id => cases hm'
      | consumer n' =>
        obtain rfl := hinv.single m (hinv.held n m hm).1 m' (hinv.held n' m' hm').1 jobId hname
          hname'
        exact absurd (congrArg SystemRole.consumer (hinv.exclusive n' n m hm' hm)) hij

/-- Commands that keep the log. -/
theorem HoldInv.withStream (h : HoldInv (s, γ)) {stream : Stream (Dict String String)}
    (hent : stream.entries = s.stream.entries)
    (hun : ∀ m ∈ s.stream.entries, stream.Undelivered m → s.stream.Undelivered m) :
    HoldInv ({ s with stream := stream }, γ) := by
  refine ⟨?_, fun m hm hm' => ?_, fun n m hm => ?_, h.exclusive⟩
  · rw [hent]
    exact h.single
  · rw [hent] at hm
    exact h.waiting m hm (hun m hm hm')
  · obtain ⟨hmem, hdel⟩ := h.held n m hm
    exact ⟨hent ▸ hmem, fun hm' => hdel (hun m hmem hm')⟩

/-- A message is put down. -/
theorem HoldInv.release (h : HoldInv (s, γ)) (n : Nat) :
    HoldInv (s, Function.update γ n none) := by
  have hold : ∀ k m, Function.update γ n none k = some m → γ k = some m := by
    intro k m hk
    by_cases hkn : k = n
    · subst hkn
      simp at hk
    · simpa [hkn] using hk
  exact ⟨h.single, h.waiting, fun k m hk => h.held k m (hold k m hk),
    fun k k' m hk hk' => h.exclusive k k' m (hold k m hk) (hold k' m hk')⟩

/-- A message that nobody has held is taken. -/
theorem HoldInv.take (h : HoldInv (s, γ)) {m : Message} (hm : m ∈ s.stream.entries)
    (hdel : ¬s.stream.Undelivered m) (hfree : ∀ k, γ k ≠ some m) (n : Nat) :
    HoldInv (s, Function.update γ n (some m)) := by
  have hold : ∀ k m', Function.update γ n (some m) k = some m' →
      (k = n ∧ m' = m) ∨ γ k = some m' := by
    intro k m' hk
    by_cases hkn : k = n
    · subst hkn
      exact Or.inl ⟨rfl, by simpa [eq_comm] using hk⟩
    · exact Or.inr (by simpa [hkn] using hk)
  refine ⟨h.single, h.waiting, fun k m' hk => ?_, fun k k' m' hk hk' => ?_⟩
  · rcases hold k m' hk with ⟨-, rfl⟩ | hk
    · exact ⟨hm, hdel⟩
    · exact h.held k m' hk
  · rcases hold k m' hk with ⟨hkn, he⟩ | hγ <;> rcases hold k' m' hk' with ⟨hkn', he'⟩ | hγ'
    · exact hkn.trans hkn'.symm
    · exact absurd (he ▸ hγ') (hfree k')
    · exact absurd (he' ▸ hγ) (hfree k)
    · exact h.exclusive k k' m' hγ hγ'

/-- The row of a job is written whose message, if it has one, has been read. -/
theorem HoldInv.setJob (h : HoldInv (s, γ)) {jobId : String} {row : JobModel}
    (hno : ∀ m ∈ s.stream.entries, s.stream.Undelivered m → ¬Names m jobId) :
    HoldInv (s.setJob jobId row, γ) := by
  refine ⟨h.single, fun m hm hun id hname => ?_, h.held, h.exclusive⟩
  obtain ⟨url, domain, requiredFields, hrow⟩ := h.waiting m hm hun id hname
  have hne : id ≠ jobId := by
    rintro rfl
    exact hno m hm hun hname
  exact ⟨url, domain, requiredFields, (s.setJob_jobs_of_ne row hne).trans hrow⟩

/-- A job without an entry gets one. -/
theorem HoldInv.announce (h : HoldInv (s, γ)) {jobId url domain : String}
    {requiredFields : List String} {fields : Dict String String}
    (hs : Alone jobId (some (jobToModel (waitingJob jobId url domain requiredFields))) s)
    (hname : fields.get? "job_id" = some jobId) :
    HoldInv ({ s with stream := (s.stream.xadd fields).2 }, γ) := by
  have hnew : ∀ m ∈ (s.stream.xadd fields).2.entries,
      m ∈ s.stream.entries ∨ m = ⟨s.stream.lastId + 1, fields⟩ := by
    intro m hm
    rw [Stream.entries_xadd] at hm
    exact (List.mem_append.mp hm).imp_right List.mem_singleton.mp
  have hname : Names ⟨s.stream.lastId + 1, fields⟩ jobId := hname
  have hother : ∀ m ∈ s.stream.entries, ∀ id, Names m id →
      ¬Names ⟨s.stream.lastId + 1, fields⟩ id := by
    intro m hm id hid hid'
    cases hname.unique hid'
    exact hs.2 ⟨m, hm, hid⟩
  refine ⟨fun m hm m' hm' id hid hid' => ?_, fun m hm hun id hid => ?_, fun n m hm => ?_,
    h.exclusive⟩
  · rcases hnew m hm with hm | rfl <;> rcases hnew m' hm' with hm' | rfl
    · exact h.single m hm m' hm' id hid hid'
    · exact absurd hid' (hother m hm id hid)
    · exact absurd hid (hother m' hm' id hid')
    · rfl
  · rcases hnew m hm with hm | rfl
    · exact h.waiting m hm hun id hid
    · cases hname.unique hid
      exact ⟨url, domain, requiredFields, hs.1⟩
  · obtain ⟨hmem, hdel⟩ := h.held n m hm
    exact ⟨List.mem_append_left _ hmem, hdel⟩

/-! ## requests -/

/-- A change of one row, and of nothing else. -/
theorem holdGuar_setJob {jobId : String} {row : JobModel}
    (hlife : LifeStep X jobId (s.jobs jobId) (some row))
    (hwho : ¬HasEntry s jobId ∨ ∃ m, held i γ = some m ∧ Names m jobId) :
    HoldGuar X i (s, γ) (s.setJob jobId row, γ) := by
  refine ⟨fun _ _ => rfl, fun _ _ h => Or.inl h, fun id => ?_, fun _ h => h, fun _ _ h => h,
    fun _ _ h => Or.inl h⟩
  by_cases hid : id = jobId
  · subst hid
    exact Or.inr ⟨(s.setJob_jobs_self id row).symm ▸ hlife, hwho⟩
  · exact Or.inl (s.setJob_jobs_of_ne row hid)

/-- A request keeps the promise, since its steps are known. -/
theorem RequestStep.hold {jobId : String} (h : RequestStep X jobId s s') (hinv : HoldInv (s, γ)) :
    HoldGuar X (.gateway jobId) (s, γ) (s', γ) ∧ HoldInv (s', γ) := by
  have hentry : ∀ {row}, Alone jobId row s → ∀ m ∈ s.stream.entries, s.stream.Undelivered m →
      ¬Names m jobId := fun halone m hm _ hname => halone.2 ⟨m, hm, hname⟩
  cases h with
  | idle => exact ⟨.refl X _ _, hinv⟩
  | create hnone hno =>
    exact ⟨holdGuar_setJob (hnone ▸ .created) (Or.inl hno), hinv.setJob (hentry ⟨hnone, hno⟩)⟩
  | conclude halone hjob =>
    exact ⟨holdGuar_setJob (halone.1 ▸ .concluded hjob) (Or.inl halone.2),
      hinv.setJob (hentry halone)⟩
  | announce halone hjob hst hname =>
    rw [hjob.waiting hst] at halone
    exact ⟨⟨fun _ _ => rfl, fun _ _ h => Or.inl h, fun _ => Or.inl rfl,
      fun _ h => List.mem_append_left _ h, fun _ _ h => h, fun _ _ h => Or.inl h⟩,
      hinv.announce halone hname⟩

theorem request_hold {jobId : String} (q : SystemProg Unit) (p : SystemState × Holding) :
    q.Safe ((holdDiscipline X mode).contract (.gateway jobId)) (fun _ _ => True) p := by
  refine (only_true q).safe ?_ (fun _ _ => trivial) p
  rintro op ⟨s, γ⟩ r ⟨s', γ'⟩ - hinv ⟨-, hγ, hstep⟩
  obtain rfl : γ' = γ := hγ
  exact RequestStep.hold hstep hinv

/-! ## consumers -/

variable {α : Type}

abbrev HoldSafe (X : Services) (mode : WriteMode) (n : Nat) (q : SystemProg α)
    (p : SystemState × Holding) : Prop :=
  q.Safe ((holdDiscipline X mode).contract (.consumer n)) (fun _ _ => True) p

/-- The consumer has read the message `m` about the job, and the row is this. -/
structure Holds (n : Nat) (m : Message) (jobId : String) (row : JobModel)
    (p : SystemState × Holding) : Prop where
  message : p.2 n = some m
  names : Names m jobId
  row : p.1.jobs jobId = some row

theorem Holds.rely {m : Message} {jobId : String} {row : JobModel} (h : Holds n m jobId row p)
    (hr : (holdRely (.consumer n)).rel p p') : Holds n m jobId row p' :=
  ⟨hr.1.trans h.message, h.names, (hr.2 m jobId h.message h.names).trans h.row⟩

/-- A commit or an acknowledgement of a consumer that holds a message, and any call that reads. -/
theorem hold_await {m : Message} {jobId : String} {row : JobModel} {op : SystemOp}
    {f : SystemPort.Ans op → SystemProg α} (hop : ∀ r held, given op r held = held)
    (hp : Holds n m jobId row p)
    (h : ∀ s γ, Holds n m jobId row (s, γ) → HoldInv (s, γ) → ∀ a s', commandOk X mode op s a s' →
      (HoldGuar X (.consumer n) (s, γ) (s', γ) ∧ HoldInv (s', γ)) ∧
        HoldSafe X mode n (f a) (s', γ)) :
    HoldSafe X mode n (await op >>= f) p := by
  rw [HoldSafe, safe_perform_bind]
  rintro ⟨s, γ⟩ hrely hinv r ⟨s', γ'⟩ ⟨hsem, hγ, -⟩
  have hcall := h s γ (hp.rely hrely) hinv
  have hγ : γ' = γ := by
    rw [show γ' = Function.update γ n (given op r (γ n)) from hγ, hop, Function.update_eq_self]
  subst hγ
  cases r with
  | ok a => exact hcall a s' hsem
  | error e =>
    refine ⟨?_, trivial⟩
    rcases hsem with rfl | ⟨a, hok⟩
    · exact ⟨.refl X _ _, hinv⟩
    · exact (hcall a s' hok).1

theorem hold_read {m : Message} {jobId : String} {row : JobModel} {op : SystemOp}
    {f : SystemPort.Ans op → SystemProg α} {P : SystemState → SystemPort.Ans op → Prop}
    (hop : ∀ r held, given op r held = held) (hp : Holds n m jobId row p)
    (hread : ∀ s a s', commandOk X mode op s a s' → P s a ∧ s' = s)
    (h : ∀ s γ, Holds n m jobId row (s, γ) → ∀ a, P s a → HoldSafe X mode n (f a) (s, γ)) :
    HoldSafe X mode n (await op >>= f) p := by
  refine hold_await hop hp fun s γ hs hinv a s' hok => ?_
  obtain ⟨hP, rfl⟩ := hread s a s' hok
  exact ⟨⟨.refl X _ _, hinv⟩, h _ γ hs a hP⟩

/-- **The holder of a message recovers its job**, which has not changed since the message was
announced. -/
theorem processJob_hold (self : RecoveryQueueConsumer) {m : Message}
    {jobId url domain : String} {requiredFields : List String}
    (hp : Holds n m jobId (jobToModel (waitingJob jobId url domain requiredFields)) p) :
    HoldSafe X mode n (processJob self jobId m.id) p := by
  unfold processJob SqlJobRepository.get
  simp only [bind_assoc]
  refine hold_read (fun _ _ => rfl) hp (fun _ _ _ => commandOk_selectJob)
    fun s₁ γ₁ hs₁ model hmodel => ?_
  rw [hmodel, hs₁.row]
  simp only [modelToJob_jobToModel, lift_ok, ret_bind, pure_eq]
  refine hold_read (fun _ _ => rfl) hs₁ (fun _ _ _ => commandOk_ainvoke)
    fun s₂ γ₂ hs₂ final hfinal => ?_
  unfold applyFinalState SqlJobRepository.update
  rw [bind_assoc]
  refine hold_read (fun _ _ => rfl) hs₂ (fun _ _ _ => commandOk_sessionGet)
    fun s₃ γ₃ hs₃ loaded hloaded => ?_
  rw [hloaded, finalJob_id, show (waitingJob jobId url domain requiredFields).id = jobId from rfl,
    hs₃.row]
  have hassign : (jobToModel (waitingJob jobId url domain requiredFields)).assign
      (finalJob (waitingJob jobId url domain requiredFields) final) =
        jobToModel (finalJob (waitingJob jobId url domain requiredFields) final) :=
    jobToModel_assign (finalJob_same _ _)
  refine hold_await (fun _ _ => rfl) hs₃ fun s₄ γ₄ hs₄ hinv₄ _ s₅ hok => ?_
  -- the row is still the one that was loaded, so the commit overwrites nothing
  obtain ⟨row, hrow, rfl⟩ := commandOk_commitUpdate hok
  rw [hassign, show (jobToModel (finalJob (waitingJob jobId url domain requiredFields) final)).id =
    jobId from finalJob_id _ _] at hrow ⊢
  rw [hs₄.row] at hrow
  cases hrow
  rw [← hassign, written_self, hassign]
  have hread : ∀ m' ∈ s₄.stream.entries, s₄.stream.Undelivered m' → ¬Names m' jobId := by
    intro m' hm' hun hname
    obtain ⟨hmem, hdel⟩ := hinv₄.held n m hs₄.message
    exact hdel (hinv₄.single m' hm' m hmem jobId hname hs₄.names ▸ hun)
  refine ⟨⟨holdGuar_setJob (hs₄.row ▸ .recovered hfinal) (Or.inr ⟨m, hs₄.message, hs₄.names⟩),
    hinv₄.setJob hread⟩, ?_⟩
  have hs₅ : Holds n m jobId _ (s₄.setJob jobId
      (jobToModel (finalJob (waitingJob jobId url domain requiredFields) final)), γ₄) :=
    ⟨hs₄.message, hs₄.names, SystemState.setJob_jobs_self _ _ _⟩
  refine hold_await (fun _ _ => rfl) hs₅ fun s₆ γ₆ hs₆ hinv₆ _ s₇ hok => ⟨?_, trivial⟩
  obtain ⟨hack, hs₇⟩ := commandOk_xack hok
  have hstream : s₇.stream = (s₆.stream.xack m.id).2 := by rw [hack]
  rw [hs₇, hstream]
  refine ⟨⟨fun _ _ => rfl, fun _ _ h => Or.inl h, fun _ => Or.inl rfl, fun m' hm' => ?_,
    fun m' _ h => ?_, fun m' hm' h => ?_⟩,
    hinv₆.withStream (Stream.entries_xack _ _) fun _ _ h => ?_⟩
  · exact (Stream.entries_xack _ _).symm ▸ hm'
  · exact Stream.undelivered_xack.mp h
  · refine (Stream.acked_xack h).imp_right fun hid => ?_
    obtain rfl := s₆.stream.eq_of_id_eq hm' (hinv₆.held n m hs₆.message).1 hid
    exact hs₆.message
  · exact Stream.undelivered_xack.mp h

theorem handleMessage_hold (self : RecoveryQueueConsumer) {m : Message} (hm : p.2 n = some m)
    (hrow : ∀ jobId, Names m jobId → ∃ url domain requiredFields,
      p.1.jobs jobId = some (jobToModel (waitingJob jobId url domain requiredFields))) :
    HoldSafe X mode n (handleMessage self m) p := by
  unfold handleMessage field
  cases hname : m.fields.get? "job_id" with
  | none => trivial
  | some jobId =>
    obtain ⟨url, domain, requiredFields, hrow⟩ := hrow jobId hname
    exact processJob_hold self ⟨hm, hname, hrow⟩

theorem taken_update {a : Option Message}
    (ha : ∀ m, a = some m → γ n = some m ∨ s.stream.Undelivered m) {k : Nat} {m : Message}
    (hk : Function.update γ n a k = some m) : γ k = some m ∨ s.stream.Undelivered m := by
  by_cases hkn : k = n
  · subst hkn
    exact ha m (by simpa using hk)
  · exact Or.inl (by simpa [hkn] using hk)

/-- A command of the stream that keeps the log and acknowledges nothing. -/
theorem stream_hold (hinv : HoldInv (s, γ)) (hs' : s' = { s with stream := s'.stream })
    (hent : s'.stream.entries = s.stream.entries)
    (hun : ∀ m ∈ s.stream.entries, s'.stream.Undelivered m → s.stream.Undelivered m)
    (hack : ∀ m, s'.stream.Acked m ↔ s.stream.Acked m) :
    HoldInv (s', γ) ∧ ∀ a, (∀ m, a = some m → γ n = some m ∨ s.stream.Undelivered m) →
      HoldGuar X (.consumer n) (s, γ) (s', Function.update γ n a) := by
  refine ⟨hs' ▸ hinv.withStream hent hun, fun a ha => ⟨fun k hk => ?_, fun k m hk => ?_,
    fun jobId => ?_, ?_, hun, fun m _ h => Or.inl ((hack m).mp h)⟩⟩
  · exact Function.update_of_ne (fun he => hk (by rw [he])) _ _
  · exact taken_update ha hk
  · exact Or.inl (congrArg (·.jobs jobId) hs')
  · intro m hm
    exact hent.symm ▸ hm

theorem ensureGroupExists_hold (p : SystemState × Holding) :
    HoldSafe X mode n ensureGroupExists p := by
  refine ensureGroupExists_only.safe ?_ (fun _ _ => trivial) p
  rintro op ⟨s, γ⟩ r ⟨s', γ'⟩ rfl hinv ⟨hsem, hγ, -⟩
  have hγ : γ' = γ := Eq.trans hγ (Function.update_eq_self _ _)
  subst hγ
  have hok : ∀ a, commandOk X mode .xgroupCreate s a s' →
      HoldGuar X (.consumer n) (s, γ') (s', γ') ∧ HoldInv (s', γ') := by
    intro a hok
    obtain ⟨hcreate, hs'⟩ := commandOk_xgroupCreate hok
    obtain ⟨hent, hack⟩ := Stream.xgroupCreate_ok hcreate
    obtain ⟨hinv', hguar⟩ := stream_hold (X := X) (n := n) hinv hs' hent
      (fun m hm => (Stream.undelivered_xgroupCreate hcreate hm).mp) hack
    have hguar := hguar (γ' n) fun _ h => Or.inl h
    rw [Function.update_eq_self] at hguar
    exact ⟨hguar, hinv'⟩
  cases r with
  | ok a => exact hok a hsem
  | error e =>
    rcases hsem with rfl | ⟨a, h⟩
    · exact ⟨.refl X _ _, hinv⟩
    · exact hok a h

/-- Reading: the message that is answered has not been held by anyone. -/
theorem read_hold {consumerName : String} (hinv : HoldInv (s, γ)) {a : Option Message}
    (hok : commandOk X mode (.xreadgroup consumerName) s a s') :
    (HoldGuar X (.consumer n) (s, γ) (s', Function.update γ n none) ∧
        HoldInv (s', Function.update γ n none)) ∧
      (HoldGuar X (.consumer n) (s, γ) (s', Function.update γ n a) ∧
        HoldInv (s', Function.update γ n a)) ∧
      ∀ m, a = some m → ∀ jobId, Names m jobId → ∃ url domain requiredFields,
        s'.jobs jobId = some (jobToModel (waitingJob jobId url domain requiredFields)) := by
  obtain ⟨hread, hs'⟩ := commandOk_xreadgroup hok
  obtain ⟨hent, hack, hmem⟩ := Stream.xreadgroup_ok hread
  obtain ⟨hgiven, hun⟩ := Stream.undelivered_xreadgroup hread
  obtain ⟨hinv', hguar⟩ := stream_hold (X := X) (n := n) hinv hs' hent (fun m _ => hun m) hack
  refine ⟨⟨hguar none nofun, hinv'.release n⟩,
    ⟨hguar a fun m hm => Or.inr (hgiven m hm).1, ?_⟩, ?_⟩
  · cases a with
    | none => exact hinv'.release n
    | some m =>
      obtain ⟨hm, hdel⟩ := hgiven m rfl
      exact hinv'.take (hent ▸ hmem m rfl) hdel (fun k hk => (hinv.held k m hk).2 hm) n
  · rintro m rfl jobId hname
    obtain ⟨url, domain, requiredFields, hrow⟩ :=
      hinv.waiting m (hmem m rfl) (hgiven m rfl).1 jobId hname
    exact ⟨url, domain, requiredFields, (congrArg (·.jobs jobId) hs').trans hrow⟩

theorem processNextJob_hold (self : RecoveryQueueConsumer) (p : SystemState × Holding) :
    HoldSafe X mode n (processNextJob self) p := by
  unfold processNextJob
  refine (ensureGroupExists_hold p).bind (fun _ p₁ _ => ?_) fun _ _ _ => trivial
  rw [safe_perform_bind]
  rintro ⟨s, γ⟩ - hinv r ⟨s', γ'⟩ ⟨hsem, hγ, -⟩
  cases r with
  | error e =>
    have hγ : γ' = Function.update γ n none := hγ
    subst hγ
    refine ⟨?_, trivial⟩
    rcases hsem with rfl | ⟨a, hok⟩
    · exact ⟨⟨fun k hk => Function.update_of_ne (fun he => hk (by rw [he])) _ _,
        fun _ _ h => taken_update (fun m hm => by cases hm) h, fun _ => Or.inl rfl,
        fun _ h => h, fun _ _ h => h, fun _ _ h => Or.inl h⟩, hinv.release n⟩
    · exact (read_hold hinv hok).1
  | ok a =>
    have hγ : γ' = Function.update γ n a := hγ
    subst hγ
    obtain ⟨-, hread, hrow⟩ := read_hold hinv hsem
    refine ⟨hread, ?_⟩
    cases a with
    | none => trivial
    | some m => exact handleMessage_hold self (Function.update_self _ _ _) (hrow m rfl)

/-- **The loop keeps the promise**, round after round. -/
theorem consumeForever_hold (self : RecoveryQueueConsumer) (rounds : Nat)
    (p : SystemState × Holding) : HoldSafe X mode n (consumeForever self rounds) p := by
  induction rounds generalizing p with
  | zero => trivial
  | succ rounds ih =>
    refine Safe.bind (Q := fun _ _ => True) ?_ (fun _ p' _ => ih p') fun _ _ _ => trivial
    refine Safe.handle (Q := fun _ _ => True) ?_ (fun _ _ _ => trivial) fun _ _ _ => trivial
    exact (processNextJob_hold self p).bind (fun _ _ _ => trivial) fun _ _ _ => trivial

end Invariant

/-! ## the machine -/

section Machine

variable {X : Services} {mode : WriteMode} {c c' : SystemPool} {γ : Holding}

theorem consumeForever_safe {n : Nat} (self : RecoveryQueueConsumer) (rounds : Nat)
    (s : SystemState) :
    ConsumerSafe X mode (fun _ _ => True) False n (consumeForever self rounds) (fun _ _ => True)
      s := by
  induction rounds generalizing s with
  | zero => trivial
  | succ rounds ih =>
    refine Safe.bind (Q := fun _ _ => True) ?_ (fun _ s' _ => ih s') fun _ _ _ => trivial
    refine Safe.handle (Q := fun _ _ => True) ?_ (fun _ _ _ => trivial) fun _ _ _ => trivial
    exact (processNextJob_safe (fun _ _ _ _ _ => trivial) self s).bind (fun _ _ _ => trivial)
      fun _ _ _ => trivial

/-- The first layer: the deployed programs keep the discipline of the system. -/
theorem deployed_sound (X : Services) (mode : WriteMode) :
    (deployedMachine X mode).Sound anyStep (requestDiscipline X mode) fun _ => True := by
  refine Sound.both ((any_sound X mode).respawn fun hp _ hfresh => ?_) fun hp _ hfresh => ?_
  · cases hp with
    | request jobId url domain requiredFields =>
      exact execute_safe (fun _ _ _ _ _ _ => trivial) url domain requiredFields hfresh
    | consume n self rounds => exact consumeForever_safe self rounds _
  · cases hp with
    | request jobId url domain requiredFields =>
      exact request_steps jobId url domain requiredFields hfresh
    | consume n self rounds => exact consumer_steps _ _

/-- **The second layer**: a message has one holder, and only the holder touches its job. -/
theorem hold_sound (X : Services) (mode : WriteMode) :
    ((deployedMachine X mode).withGhost holdingUpdate).Sound
      (erased fun c l c' => anyStep c l c' ∧ (requestDiscipline X mode).keeps c l c')
      (holdDiscipline X mode) fun _ => True where
  sem := fun ⟨hsem, hγ⟩ ⟨_, _, hkeeps⟩ => ⟨hsem, hγ, hkeeps.2⟩
  spawn := by
    intro c i q hq _ _
    have hq : DeployedSpawn i q := hq
    cases hq with
    | request jobId url domain requiredFields => exact request_hold _ _
    | consume n self rounds => exact consumeForever_hold self rounds _
  compat := fun _ _ _ hij hinv _ hguar => HoldGuar.rely hguar hinv hij
  freshStable := fun _ _ _ _ => trivial
  env := by
    rintro ⟨s, γ⟩ ⟨s', γ'⟩ ⟨⟨d, hs'⟩, hγ⟩ hinv
    cases hs'
    cases hγ
    exact ⟨⟨hinv.single, hinv.waiting, hinv.held, hinv.exclusive⟩,
      fun j => ⟨rfl, fun _ _ _ _ => rfl⟩, fun _ _ => trivial⟩

end Machine

end Sentinel
