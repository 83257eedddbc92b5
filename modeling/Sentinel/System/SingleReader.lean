import Sentinel.System.Deployment
import Sentinel.System.WholeRows

/-!
# One reader for every message

What the deployed system gains and loses by never claiming a pending message. Nobody interferes
with a recovery, so rows stay whole and settled jobs stay as they are. But a message that its
reader has let go of is never read again, and its job waits for ever.

* `deployed_refines` — the row of a job lives the abstract life of a job
* `deployed_settled` — every row is whole, and a settled one does not change any more
* `reader_alone` — only the reader of a message touches the job, and nobody else is given it
* `abandoned_stays` — a message its reader has let go of stays pending, and its job as it is
-/

namespace Sentinel

open Lib Machine RecoveryQueueConsumer

abbrev DeployedRun (X : Services) (mode : WriteMode) (c c' : SystemPool) : Prop :=
  (deployedMachine X mode).Steps anyStep c c'

/-! ## a run -/

/-- The request, and a consumer that is about to read. -/
def readingRun : List SystemMove :=
  titleRequest 7 ++ [.spawn (.consumer 0) (consumeForever ⟨"consumer-1", 3⟩ 2),
    .turn (.consumer 0) 1]

theorem deployed_titleStep (i : SystemRole) (op : SystemPort.Op) (s : SystemState) :
    (deployedMachine anyServices .atomic).sem i op s (titleStep i op s).1 (titleStep i op s).2 :=
  titleStep_faulty i op s

theorem readingRun_steps :
    DeployedRun anyServices .atomic systemInitial (play titleStep readingRun systemInitial) :=
  Steps.play deployed_titleStep _ _ ⟨⟨⟨rfl, .request _ _ _ _⟩, trivial⟩,
    turnAllowed_anyStep _ _ _, ⟨⟨rfl, .consume _ _ _⟩, trivial⟩, turnAllowed_anyStep _ _ _,
    trivial⟩

/-- The consumer has read the message. -/
def readPool : SystemPool := next titleStep (.consumer 0) (play titleStep readingRun systemInitial)

theorem readPool_fire : (deployedMachine anyServices .atomic).Fire
    (play titleStep readingRun systemInitial)
    (.call (.consumer 0) (.xreadgroup "consumer-1") (.ok (some titleMessage))) readPool :=
  Fire.next deployed_titleStep rfl

theorem deployed_columnStep (i : SystemRole) (op : SystemPort.Op) (s : SystemState) :
    (deployedMachine titleServices .changedColumns).sem i op s (columnStep i op s).1
      (columnStep i op s).2 :=
  columnStep_faulty i op s

/-! ## runs with the holders -/

section Runs

variable {X : Services} {mode : WriteMode} {c c' : SystemPool} {γ : Holding} {m : Message}
  {n : Nat} {jobId : String} {l : Label SystemPort PyError SystemRole}

/-- A run after which the consumers hold `γ`. -/
abbrev HoldingRun (X : Services) (mode : WriteMode) (c : SystemPool) (γ : Holding) : Prop :=
  Annotated (deployedMachine X mode) holdingUpdate anyStep (requestDiscipline X mode)
    systemInitial holdingNothing c γ

theorem deployed_start : Ok (requestDiscipline X mode) systemInitial := by
  have hfresh : ∀ i, (discipline X mode (fun _ _ => True) False).fresh i SystemState.initial :=
    initial_fresh
  exact Ok.initial SystemInv.initial hfresh

theorem holding_start : Ok (holdDiscipline X mode) (systemInitial.withGhost holdingNothing) :=
  Ok.initial (s := (SystemState.initial, holdingNothing)) ⟨nofun, nofun, nofun, nofun⟩
    fun _ => trivial

theorem HoldingRun.inv (h : HoldingRun X mode c γ) : HoldInv (c.state, γ) :=
  ((hold_sound X mode).ok (fun _ _ => trivial) holding_start h).inv

theorem HoldingRun.tail (hrun : DeployedRun X mode systemInitial c) (h : HoldingRun X mode c γ)
    (hf : (deployedMachine X mode).Fire c l c') :
    HoldingRun X mode c' (ghostAfter holdingUpdate γ l) :=
  Annotated.tail h hf trivial
    ((deployed_sound X mode).keeps (fun _ _ => trivial) deployed_start hrun hf trivial)

/-- Every call keeps the promise about who holds what. -/
theorem HoldingRun.guar (hrun : DeployedRun X mode systemInitial c) (h : HoldingRun X mode c γ)
    {i : SystemRole} {op : SystemOp} {r : Except PyError (SystemPort.Ans op)}
    (hf : (deployedMachine X mode).Fire c (.call i op r) c') :
    HoldGuar X i (c.state, γ) (c'.state, holdingUpdate i op r γ) := by
  have hkeeps := (deployed_sound X mode).keeps (fun _ _ => trivial) deployed_start hrun hf trivial
  exact (hold_sound X mode).call (fun _ _ => trivial) holding_start h (hf.withGhost γ)
    ⟨trivial, hkeeps⟩

/-- A property that every step keeps, along a run. -/
theorem HoldingRun.carry {P : SystemPool → Holding → Prop}
    (hrun : DeployedRun X mode systemInitial c) (h : HoldingRun X mode c γ) (h0 : P c γ)
    (hstep : ∀ c₁ γ₁ l c₂, DeployedRun X mode systemInitial c₁ → HoldingRun X mode c₁ γ₁ →
      P c₁ γ₁ → (deployedMachine X mode).Fire c₁ l c₂ → P c₂ (ghostAfter holdingUpdate γ₁ l))
    (h' : DeployedRun X mode c c') : ∃ γ', HoldingRun X mode c' γ' ∧ P c' γ' :=
  (deployed_sound X mode).annotated (fun _ _ => trivial) deployed_start hstep hrun h h0 h'

theorem holdingRun_exists (h : DeployedRun X mode systemInitial c) :
    ∃ γ, HoldingRun X mode c γ := by
  obtain ⟨γ, hγ, -⟩ := HoldingRun.carry (P := fun _ _ => True) .refl (Annotated.refl _ _) trivial
    (fun _ _ _ _ _ _ _ _ => trivial) h
  exact ⟨γ, hγ⟩

/-! ## one step -/

/-- Whatever step comes, messages stay, and what a consumer takes up had not been read. -/
theorem HoldingRun.step (hrun : DeployedRun X mode systemInitial c) (h : HoldingRun X mode c γ)
    (hf : (deployedMachine X mode).Fire c l c') :
    (∀ m ∈ c.state.stream.entries, m ∈ c'.state.stream.entries ∧
      (c'.state.stream.Undelivered m → c.state.stream.Undelivered m)) ∧
    ∀ k m, ghostAfter holdingUpdate γ l k = some m →
      γ k = some m ∨ c.state.stream.Undelivered m := by
  cases l with
  | call i op r =>
    have hguar := h.guar hrun hf
    exact ⟨fun m hm => ⟨hguar.entries m hm, hguar.delivered m hm⟩, hguar.taken⟩
  | spawn i p => cases hf; exact ⟨fun m hm => ⟨hm, id⟩, fun _ _ h => Or.inl h⟩
  | crash i => cases hf; exact ⟨fun m hm => ⟨hm, id⟩, fun _ _ h => Or.inl h⟩
  | env =>
    cases hf with
    | env henv =>
      obtain ⟨d, rfl⟩ := henv
      exact ⟨fun m hm => ⟨hm, id⟩, fun _ _ h => Or.inl h⟩

/-- **Only the holder** of a message changes the row of its job or acknowledges it. -/
theorem HoldingRun.touched (hrun : DeployedRun X mode systemInitial c)
    (h : HoldingRun X mode c γ) (hf : (deployedMachine X mode).Fire c l c')
    (hm : m ∈ c.state.stream.entries)
    (htouch : (∃ jobId, Names m jobId ∧ c'.state.jobs jobId ≠ c.state.jobs jobId) ∨
      (c'.state.stream.Acked m ∧ ¬c.state.stream.Acked m)) :
    ∃ k op r, l = .call (.consumer k) op r ∧ γ k = some m := by
  have hsame : c'.state.jobs = c.state.jobs ∧ c'.state.stream = c.state.stream → False := by
    rintro ⟨hjobs, hstream⟩
    rcases htouch with ⟨jobId, -, hne⟩ | ⟨hack, hno⟩
    · exact hne (congrFun hjobs jobId)
    · exact hno (hstream ▸ hack)
  cases l with
  | spawn i p => cases hf; exact (hsame ⟨rfl, rfl⟩).elim
  | crash i => cases hf; exact (hsame ⟨rfl, rfl⟩).elim
  | env =>
    cases hf with
    | env henv =>
      obtain ⟨d, rfl⟩ := henv
      exact (hsame ⟨rfl, rfl⟩).elim
  | call i op r =>
    have hguar := h.guar hrun hf
    have hholds : held i γ = some m := by
      rcases htouch with ⟨jobId, hname, hne⟩ | ⟨hack, hno⟩
      · rcases hguar.life jobId with heq | ⟨-, hno | ⟨m', hm', hname'⟩⟩
        · exact absurd heq hne
        · exact absurd ⟨m, hm, hname⟩ hno
        · -- the message it holds is about the same job
          cases i with
          | gateway id => cases hm'
          | consumer k =>
            obtain rfl := h.inv.single m hm m' (h.inv.held k m' hm').1 jobId hname hname'
            exact hm'
      · exact (hguar.acked m hm hack).resolve_left hno
    cases i with
    | gateway id => cases hholds
    | consumer k => exact ⟨k, op, r, rfl, hholds⟩

/-! ## the life of a row -/

theorem deployed_step (hrun : DeployedRun X mode systemInitial c)
    (hf : (deployedMachine X mode).Fire c l c') (jobId : String) :
    c'.state.jobs jobId = c.state.jobs jobId ∨
      LifeStep X jobId (c.state.jobs jobId) (c'.state.jobs jobId) := by
  cases l with
  | call i op r =>
    obtain ⟨γ, hγ⟩ := holdingRun_exists hrun
    exact ((hγ.guar hrun hf).life jobId).imp_right And.left
  | spawn i p => cases hf; exact Or.inl rfl
  | crash i => cases hf; exact Or.inl rfl
  | env =>
    cases hf with
    | env henv =>
      obtain ⟨d, rfl⟩ := henv
      exact Or.inl rfl

/-- What every step of the life of a job keeps holds of its row in every later state. -/
theorem deployed_life {P : Option JobModel → Prop}
    (hstep : ∀ row next, P row → LifeStep X jobId row next → P next)
    (hrun : DeployedRun X mode systemInitial c) (hrun' : DeployedRun X mode c c')
    (h : P (c.state.jobs jobId)) : P (c'.state.jobs jobId) := by
  refine Steps.induct (P := fun c' => P (c'.state.jobs jobId)) hrun' h ?_
  intro c₁ l c₂ hsteps hP hf _
  rcases deployed_step (Relation.ReflTransGen.trans hrun hsteps) hf jobId with heq | hlife
  · rw [heq]
    exact hP
  · exact hstep _ _ hP hlife

/--
**The deployed system refines the life of its jobs.** Over any run with any number of requests and
consumers, any interleaving, faults and deaths, and in either write mode, the row of each job goes
through the steps of `LifeStep` only: it is created as pending, then takes the outcome of one
extraction, and if that is `recovery_pending`, it takes the outcome of one run of the graph.
-/
theorem deployed_refines (hrun : DeployedRun X mode systemInitial c)
    (hrun' : DeployedRun X mode c c') (jobId : String) :
    Relation.ReflTransGen (LifeStep X jobId) (c.state.jobs jobId) (c'.state.jobs jobId) :=
  deployed_life (P := Relation.ReflTransGen (LifeStep X jobId) (c.state.jobs jobId))
    (fun _ _ hlife hstep => hlife.tail hstep) hrun hrun' .refl

/-- From the request that is announced to the end of the second round. -/
theorem deployed_refines_titleRun : Relation.ReflTransGen (LifeStep anyServices "7")
    ((play titleStep readingRun systemInitial).state.jobs "7")
    ((play titleStep [.turn (.consumer 0) 8] (play titleStep readingRun systemInitial)).state.jobs
      "7") :=
  deployed_refines readingRun_steps
    (Steps.play deployed_titleStep [.turn (.consumer 0) 8] _
      ⟨turnAllowed_anyStep _ _ _, trivial⟩) "7"

/-- The job is over. -/
def JobModel.Settled (row : JobModel) : Prop :=
  row.Final ∨ row.status = JobStatus.failed.value

/-- No step of the life of a job starts from a settled row. -/
theorem LifeStep.not_settled {row : JobModel} {next : Option JobModel}
    (h : LifeStep X jobId (some row) next) : ¬row.Settled := by
  cases h with
  | concluded _ => simp [JobModel.Settled, JobModel.Final, jobToModel, Job.create]
  | recovered _ =>
    simp [JobModel.Settled, JobModel.Final, jobToModel, waitingJob, Job.markRecoveryPending]

/-- Every step of the life of a job leaves a whole row. -/
theorem LifeStep.whole (hX : GoodExtractions X NonNull) (hR : GoodRecoveries X NonNull)
    {row : Option JobModel} {next : JobModel} (h : LifeStep X jobId row (some next)) :
    next.Whole := by
  cases h with
  | created => exact Job.Whole.toModel ⟨by simp [Job.create], by simp [Job.create]⟩
  | concluded hjob =>
    obtain ⟨result, hresult, hjob⟩ := hjob
    exact (applyExtractionResult_whole ⟨rfl, rfl⟩ (hX _ _ _ result hresult) hjob).toModel
  | recovered hfinal => exact (finalJob_whole rfl (hR _ _ _ hfinal)).toModel

/--
**Whole and settled**, in either write mode and without any condition on the order of steps: every
row of every state has a result exactly if its status is `success` and a failure reason exactly if
it is `failed`; and a row that is settled (`success`, `needs_human_review` or `failed`) is the row
of that job in every later state.
-/
theorem deployed_settled (hX : GoodExtractions X NonNull) (hR : GoodRecoveries X NonNull)
    (hrun : DeployedRun X mode systemInitial c) {row : JobModel}
    (hrow : c.state.jobs jobId = some row) :
    row.Whole ∧ (row.Settled → ∀ c', DeployedRun X mode c c' →
      c'.state.jobs jobId = some row) := by
  constructor
  · refine deployed_life (P := fun row => ∀ job, row = some job → job.Whole) ?_ .refl hrun
      (nofun) row hrow
    rintro _ _ - hstep job rfl
    exact hstep.whole hX hR
  · intro hsettled c' hrun'
    refine deployed_life (P := (· = some row)) ?_ hrun hrun' hrow
    rintro _ next rfl hstep
    exact absurd hsettled hstep.not_settled

/-- The job is recovered; the consumer goes on to acknowledge the message and to read again. -/
theorem deployed_settled_titleRun : ∃ row,
    (play columnStep (readingRun ++ [.turn (.consumer 0) 5]) systemInitial).state.jobs "7" =
      some row ∧ row.Whole ∧
    (play columnStep [.turn (.consumer 0) 3]
      (play columnStep (readingRun ++ [.turn (.consumer 0) 5]) systemInitial)).state.jobs "7" =
        some row := by
  have hrun : DeployedRun titleServices .changedColumns systemInitial
      (play columnStep (readingRun ++ [.turn (.consumer 0) 5]) systemInitial) :=
    Steps.play deployed_columnStep _ _ ⟨⟨⟨rfl, .request _ _ _ _⟩, trivial⟩,
      turnAllowed_anyStep _ _ _, ⟨⟨rfl, .consume _ _ _⟩, trivial⟩, turnAllowed_anyStep _ _ _,
      turnAllowed_anyStep _ _ _, trivial⟩
  have hrow : (play columnStep (readingRun ++ [.turn (.consumer 0) 5]) systemInitial).state.jobs
      "7" = some _ := rfl
  obtain ⟨hwhole, hstays⟩ := deployed_settled titleServices_extractions titleServices_recoveries
    hrun hrow
  exact ⟨_, rfl, hwhole, hstays (Or.inl (Or.inl rfl)) _
    (Steps.play deployed_columnStep _ _ ⟨turnAllowed_anyStep _ _ _, trivial⟩)⟩

/-! ## the reader of a message -/

/-- The message has been read, and nobody but consumer `n` may hold it. -/
structure ReadBy (n : Nat) (m : Message) (c : SystemPool) (γ : Holding) : Prop where
  mem : m ∈ c.state.stream.entries
  read : ¬c.state.stream.Undelivered m
  only : ∀ k, γ k = some m → k = n
  begun : c.procs (.consumer n) ≠ .unused

theorem ReadBy.step (hrun : DeployedRun X mode systemInitial c) (hγ : HoldingRun X mode c γ)
    (h : ReadBy n m c γ) (hf : (deployedMachine X mode).Fire c l c') :
    ReadBy n m c' (ghostAfter holdingUpdate γ l) := by
  obtain ⟨hkept, htaken⟩ := hγ.step hrun hf
  obtain ⟨hmem, hun⟩ := hkept m h.mem
  refine ⟨hmem, fun h' => h.read (hun h'), fun k hk => ?_, hf.begun h.begun⟩
  exact h.only k ((htaken k m hk).resolve_right h.read)

/-- A consumer that is answered a message is its reader from then on. -/
theorem readBy_answered {consumerName : String} (hrun : DeployedRun X mode systemInitial c)
    (hγ : HoldingRun X mode c γ) (hf : (deployedMachine X mode).Fire c
      (.call (.consumer n) (.xreadgroup consumerName) (.ok (some m))) c') :
    ReadBy n m c' (Function.update γ n (some m)) := by
  have hγ' : HoldingRun X mode c' (Function.update γ n (some m)) := hγ.tail hrun hf
  have hself : Function.update γ n (some m) n = some m := Function.update_self ..
  obtain ⟨hmem, hread⟩ := hγ'.inv.held n m hself
  refine ⟨hmem, hread, fun k hk => hγ'.inv.exclusive k n m hk hself, ?_⟩
  cases hf with
  | call hi _ => simp

theorem ReadBy.run (hrun : DeployedRun X mode systemInitial c) (hγ : HoldingRun X mode c γ)
    (h : ReadBy n m c γ) (h' : DeployedRun X mode c c') :
    ∃ γ', HoldingRun X mode c' γ' ∧ ReadBy n m c' γ' :=
  HoldingRun.carry hrun hγ h (fun _ _ _ _ hrun hγ h hf => h.step hrun hγ hf) h'

/-- A message that has been read is answered to nobody. -/
theorem not_answered (hread : ¬c.state.stream.Undelivered m)
    (hf : (deployedMachine X mode).Fire c l c') :
    ∀ i name m', l = .call i (.xreadgroup name) (.ok (some m')) → m' ≠ m := by
  rintro i name m' rfl rfl
  cases hf with
  | call _ hsem =>
    obtain ⟨hanswer, -⟩ := commandOk_xreadgroup hsem
    exact hread ((Stream.undelivered_xreadgroup hanswer).1 m' rfl).1

/--
**The reader of a message is alone with its job.** Once a consumer has been answered a message,
then whatever step comes at any later time: if it changes the row of the job, or acknowledges the
message, it is a call of this consumer; and no `XREADGROUP` answers the message again.
-/
theorem reader_alone {c₁ c₂ c₃ c₄ : SystemPool} {consumerName : String}
    (h₁ : DeployedRun X mode systemInitial c₁)
    (hread : (deployedMachine X mode).Fire c₁
      (.call (.consumer n) (.xreadgroup consumerName) (.ok (some m))) c₂)
    (h₂ : DeployedRun X mode c₂ c₃) (hf : (deployedMachine X mode).Fire c₃ l c₄) :
    (((∃ jobId, Names m jobId ∧ c₄.state.jobs jobId ≠ c₃.state.jobs jobId) ∨
        (c₄.state.stream.Acked m ∧ ¬c₃.state.stream.Acked m)) →
      ∃ op r, l = .call (.consumer n) op r) ∧
    ∀ i name m', l = .call i (.xreadgroup name) (.ok (some m')) → m' ≠ m := by
  obtain ⟨γ₁, hγ₁⟩ := holdingRun_exists h₁
  have hrun₂ : DeployedRun X mode systemInitial c₂ :=
    Relation.ReflTransGen.tail h₁ ⟨_, hread, trivial⟩
  have hγ₂ : HoldingRun X mode c₂ (Function.update γ₁ n (some m)) := hγ₁.tail h₁ hread
  have hrun₃ : DeployedRun X mode systemInitial c₃ := Relation.ReflTransGen.trans hrun₂ h₂
  obtain ⟨γ₃, hγ₃, hby⟩ := ReadBy.run hrun₂ hγ₂ (readBy_answered h₁ hγ₁ hread) h₂
  refine ⟨fun htouch => ?_, not_answered hby.read hf⟩
  obtain ⟨k, op, r, rfl, hk⟩ := hγ₃.touched hrun₃ hf hby.mem htouch
  obtain rfl := hby.only k hk
  exact ⟨op, r, rfl⟩

/-- The reader goes on to commit. -/
theorem reader_alone_commit : ∃ c₃ c₄ l, (deployedMachine anyServices .atomic).Fire c₃ l c₄ ∧
    c₄.state.jobs "7" ≠ c₃.state.jobs "7" ∧ ∃ op r, l = .call (.consumer 0) op r := by
  have hrun : DeployedRun anyServices .atomic readPool
      (play titleStep [.turn (.consumer 0) 3] readPool) :=
    Steps.play deployed_titleStep _ _ ⟨turnAllowed_anyStep _ _ _, trivial⟩
  have hf : (deployedMachine anyServices .atomic).Fire
      (play titleStep [.turn (.consumer 0) 3] readPool) _
      (next titleStep (.consumer 0) (play titleStep [.turn (.consumer 0) 3] readPool)) :=
    Fire.next deployed_titleStep rfl
  have hne : (next titleStep (.consumer 0)
      (play titleStep [.turn (.consumer 0) 3] readPool)).state.jobs "7" ≠
      (play titleStep [.turn (.consumer 0) 3] readPool).state.jobs "7" := by
    intro h
    have hst := congrArg (Option.map JobModel.status) h
    exact absurd (Option.some.inj hst) (by decide)
  exact ⟨_, _, _, hf, hne,
    (reader_alone readingRun_steps readPool_fire hrun hf).1 (Or.inl ⟨"7", rfl, hne⟩)⟩

/-! ## messages that are let go of -/

/-- Consumer `n` will not go on with the message it has read: it has no calls left, for instance
because it has died, or its next call reads again. -/
inductive LetGo (X : Services) (mode : WriteMode) (n : Nat) : SystemPool → SystemPool → Prop
  | gone {c : SystemPool} : ¬c.Active (.consumer n) → LetGo X mode n c c
  | next {c c' : SystemPool} {consumerName : String} {r : Except PyError (Option Message)} :
      (deployedMachine X mode).Fire c (.call (.consumer n) (.xreadgroup consumerName) r) c' →
      LetGo X mode n c c'

/-- The message is pending, and whoever holds it has no calls left. -/
structure Abandoned (m : Message) (c : SystemPool) (γ : Holding) : Prop where
  mem : m ∈ c.state.stream.entries
  read : ¬c.state.stream.Undelivered m
  unacked : ¬c.state.stream.Acked m
  gone : ∀ k, γ k = some m →
    c.procs (.consumer k) ≠ .unused ∧ ¬c.Active (.consumer k)

/-- A consumer that makes a call does not hold the message. -/
theorem Abandoned.not_held (h : Abandoned m c γ) {k : Nat} {op : SystemOp}
    {r : Except PyError (SystemPort.Ans op)}
    (hf : (deployedMachine X mode).Fire c (.call (.consumer k) op r) c') : γ k ≠ some m := by
  intro hk
  cases hf with
  | call hi _ => exact (h.gone k hk).2 ⟨_, _, hi⟩

theorem Abandoned.step (hrun : DeployedRun X mode systemInitial c) (hγ : HoldingRun X mode c γ)
    (h : Abandoned m c γ) (hf : (deployedMachine X mode).Fire c l c') :
    Abandoned m c' (ghostAfter holdingUpdate γ l) ∧
      ∀ jobId, Names m jobId → c'.state.jobs jobId = c.state.jobs jobId := by
  obtain ⟨hkept, htaken⟩ := hγ.step hrun hf
  obtain ⟨hmem, hun⟩ := hkept m h.mem
  have huntouched : ¬((∃ jobId, Names m jobId ∧ c'.state.jobs jobId ≠ c.state.jobs jobId) ∨
      (c'.state.stream.Acked m ∧ ¬c.state.stream.Acked m)) := by
    intro htouch
    obtain ⟨k, op, r, rfl, hk⟩ := hγ.touched hrun hf h.mem htouch
    exact h.not_held hf hk
  refine ⟨⟨hmem, fun h' => h.read (hun h'), fun hack => ?_, fun k hk => ?_⟩, fun jobId hname => ?_⟩
  · exact huntouched (Or.inr ⟨hack, h.unacked⟩)
  · obtain ⟨hbegun, hgone⟩ := h.gone k ((htaken k m hk).resolve_right h.read)
    refine ⟨hf.begun hbegun, fun hactive => ?_⟩
    rcases hf.active hactive with hact | ⟨p, rfl⟩
    · exact hgone hact
    · cases hf with
      | spawn hu _ => exact hbegun hu
  · by_contra hne
    exact huntouched (Or.inl ⟨jobId, hname, hne⟩)

/-- The reader of a message has let go of it. -/
theorem ReadBy.abandoned (hrun : DeployedRun X mode systemInitial c)
    (hγ : HoldingRun X mode c γ) (h : ReadBy n m c γ) (hlet : LetGo X mode n c c')
    (hack : ¬c'.state.stream.Acked m) :
    ∃ γ', HoldingRun X mode c' γ' ∧ Abandoned m c' γ' := by
  cases hlet with
  | gone hgone =>
    refine ⟨γ, hγ, h.mem, h.read, hack, fun k hk => ?_⟩
    obtain rfl := h.only k hk
    exact ⟨h.begun, hgone⟩
  | @next _ consumerName r hf =>
    have hby := h.step hrun hγ hf
    refine ⟨_, hγ.tail hrun hf, hby.mem, hby.read, hack, fun k hk => ?_⟩
    -- what it holds now is what it has been answered, and that is another message
    obtain rfl := hby.only k hk
    have hself : ghostAfter holdingUpdate γ (.call (.consumer k) (.xreadgroup consumerName) r) k =
        given (.xreadgroup consumerName) r (γ k) := Function.update_self k _ γ
    have hgiven : given (.xreadgroup consumerName) r (γ k) = some m := hself.symm.trans hk
    cases hf with
    | call hi hsem =>
      cases r with
      | error e => cases hgiven
      | ok a =>
        obtain rfl : a = some m := hgiven
        obtain ⟨hanswer, -⟩ := commandOk_xreadgroup hsem
        exact absurd ((Stream.undelivered_xreadgroup hanswer).1 m rfl).1 h.read

/--
**A message its reader has let go of is lost to the system.** If a consumer has been answered a
message, and it has died, has ended or reads again before the message is acknowledged, then in
every later state the message is pending and not acknowledged, no `XREADGROUP` answers it to any
consumer, and the row of its job is what it was: a job that was not recovered by then stays
`recovery_pending` for ever.
-/
theorem abandoned_stays {c₁ c₂ c₃ c₄ c₅ : SystemPool} {consumerName : String}
    (h₁ : DeployedRun X mode systemInitial c₁)
    (hread : (deployedMachine X mode).Fire c₁
      (.call (.consumer n) (.xreadgroup consumerName) (.ok (some m))) c₂)
    (h₂ : DeployedRun X mode c₂ c₃) (hlet : LetGo X mode n c₃ c₄)
    (hack : ¬c₄.state.stream.Acked m) (h₃ : DeployedRun X mode c₄ c₅) :
    c₅.state.stream.IsPending m ∧ ¬c₅.state.stream.Acked m ∧
      (∀ l c₆, (deployedMachine X mode).Fire c₅ l c₆ →
        ∀ i name m', l = .call i (.xreadgroup name) (.ok (some m')) → m' ≠ m) ∧
      ∀ jobId, Names m jobId → c₅.state.jobs jobId = c₄.state.jobs jobId := by
  obtain ⟨γ₁, hγ₁⟩ := holdingRun_exists h₁
  have hrun₂ : DeployedRun X mode systemInitial c₂ :=
    Relation.ReflTransGen.tail h₁ ⟨_, hread, trivial⟩
  have hγ₂ : HoldingRun X mode c₂ (Function.update γ₁ n (some m)) := hγ₁.tail h₁ hread
  have hrun₃ : DeployedRun X mode systemInitial c₃ := Relation.ReflTransGen.trans hrun₂ h₂
  obtain ⟨γ₃, hγ₃, hby⟩ := ReadBy.run hrun₂ hγ₂ (readBy_answered h₁ hγ₁ hread) h₂
  obtain ⟨γ₄, hγ₄, hab⟩ := hby.abandoned hrun₃ hγ₃ hlet hack
  have hrun₄ : DeployedRun X mode systemInitial c₄ := by
    cases hlet with
    | gone _ => exact hrun₃
    | next hf => exact Relation.ReflTransGen.tail hrun₃ ⟨_, hf, trivial⟩
  obtain ⟨γ₅, -, hab₅, hrows⟩ := HoldingRun.carry
    (P := fun c γ => Abandoned m c γ ∧
      ∀ jobId, Names m jobId → c.state.jobs jobId = c₄.state.jobs jobId)
    hrun₄ hγ₄ ⟨hab, fun _ _ => rfl⟩
    (fun _ _ _ _ hrun hγ h hf => by
      obtain ⟨hab', hsame⟩ := h.1.step hrun hγ hf
      exact ⟨hab', fun jobId hname => (hsame jobId hname).trans (h.2 jobId hname)⟩) h₃
  refine ⟨?_, hab₅.unacked, fun l c₆ hf => not_answered hab₅.read hf, hrows⟩
  rcases c₅.state.stream.undelivered_or_pending_or_acked hab₅.mem with h | h | h
  · exact absurd h hab₅.read
  · exact h
  · exact absurd h hab₅.unacked

/-- The reader dies, and another consumer comes and finds nothing to do. -/
def lostRun : List SystemMove :=
  [.spawn (.consumer 1) (consumeForever ⟨"consumer-2", 3⟩ 2), .turn (.consumer 1) 4]

theorem abandoned_stays_lostRun :
    (play titleStep lostRun (play titleStep [.crash (.consumer 0)] readPool)).state.stream.IsPending
      titleMessage ∧
    (∀ l c, (deployedMachine anyServices .atomic).Fire
        (play titleStep lostRun (play titleStep [.crash (.consumer 0)] readPool)) l c →
      ∀ i name m, l = .call i (.xreadgroup name) (.ok (some m)) → m ≠ titleMessage) ∧
    ((play titleStep lostRun (play titleStep [.crash (.consumer 0)] readPool)).state.jobs "7").map
      JobModel.status = some JobStatus.recoveryPending.value := by
  have hcrash : DeployedRun anyServices .atomic readPool
      (play titleStep [.crash (.consumer 0)] readPool) :=
    Steps.play deployed_titleStep _ _ ⟨⟨⟨trivial, _, rfl⟩, trivial⟩, trivial⟩
  have hgone : LetGo anyServices .atomic 0 (play titleStep [.crash (.consumer 0)] readPool)
      (play titleStep [.crash (.consumer 0)] readPool) := by
    refine .gone ?_
    rintro ⟨op, k, h⟩
    rw [show (play titleStep [.crash (.consumer 0)] readPool).procs (.consumer 0) = .dead from rfl]
      at h
    cases h
  have hack : ¬(play titleStep [.crash (.consumer 0)] readPool).state.stream.Acked
      titleMessage := by
    rintro ⟨g, hg, hid⟩
    cases hg
    cases hid
  obtain ⟨hpending, -, hnever, hrow⟩ :=
    abandoned_stays readingRun_steps readPool_fire hcrash hgone hack
      (Steps.play deployed_titleStep lostRun _
        ⟨⟨⟨rfl, .consume _ _ _⟩, trivial⟩, turnAllowed_anyStep _ _ _, trivial⟩)
  exact ⟨hpending, hnever, (congrArg _ (hrow "7" rfl)).trans rfl⟩

end Runs

end Sentinel
