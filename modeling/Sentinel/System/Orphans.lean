import Sentinel.System.Delivery

/-!
# Orphaned recoveries

The row of a job and its message live in two stores, which a request writes one after the other.
A request that fails in between leaves a job behind that waits for a recovery nobody will start;
a request that fails at any other point does not.

* `failuresCovered` — no request fails in between
* `recovery_covered` — then every job that waits for its recovery has a message
* `orphaned_job` — a request that dies in between
-/

namespace Sentinel

open Lib Machine

/-- A request that dies, or gets an exception, does not leave its job uncovered. -/
def failuresCovered : SystemGuard := fun c l c' =>
  match l with
  | .crash (.gateway jobId) => ¬Uncovered c.state jobId
  | .call (.gateway jobId) _ (.error _) => ¬Uncovered c'.state jobId
  | _ => True

section Orphans

variable {X : Services} {mode : WriteMode} {c c' : SystemPool} {jobId : String}

theorem covered_sound (X : Services) (mode : WriteMode) :
    (systemMachine X mode).Sound failuresCovered (discipline X mode (fun _ _ => True) True)
      fun _ => True :=
  system_sound (fun _ _ _ _ _ _ => trivial) (fun _ _ _ _ _ => trivial)
    fun _ _ _ _ _ _ _ hg => hg

/-- A call of anybody else does not uncover a job. -/
theorem guar_uncovered {good : List String → Json → Prop} {strict : Prop} {i : SystemRole}
    {op : SystemOp} {s s' : SystemState} (hne : i ≠ .gateway jobId)
    (h : (discipline X mode good strict).guar i op s s') (hun : Uncovered s' jobId) :
    Uncovered s jobId := by
  obtain ⟨⟨row, hrow, hst⟩, hno'⟩ := hun
  have hno : ¬HasEntry s jobId := fun he => hno' ((guar_kept h).hasEntry he)
  obtain ⟨-, heq⟩ := guar_gatewayRely hne h hno
  exact ⟨⟨row, heq ▸ hrow, hst⟩, hno⟩

/-- The request for the job is still running, or the job is covered. -/
def RunningOrCovered (c : SystemPool) (jobId : String) : Prop :=
  c.Active (.gateway jobId) ∨ ¬Uncovered c.state jobId

/-- A step of another process. -/
theorem RunningOrCovered.other (h : RunningOrCovered c jobId) {i : SystemRole}
    (hne : i ≠ .gateway jobId) {x : Proc SystemPort PyError} {s' : SystemState}
    (hs' : Uncovered s' jobId → Uncovered c.state jobId) :
    RunningOrCovered ⟨s', Function.update c.procs i x⟩ jobId := by
  rcases h with hactive | hcov
  · exact Or.inl (Active.update hactive (Ne.symm hne))
  · exact Or.inr fun hun => hcov (hs' hun)

/-- Every step keeps a job running or covered. -/
theorem RunningOrCovered.step
    (hrun : (systemMachine X mode).Steps failuresCovered systemInitial c)
    (h : RunningOrCovered c jobId) {l : Label SystemPort PyError SystemRole}
    (hf : (systemMachine X mode).Fire c l c') (hg : failuresCovered c l c') :
    RunningOrCovered c' jobId := by
  cases hf with
  | @spawn i p hu hsp =>
    by_cases hi : i = .gateway jobId
    · subst hi
      rcases h with ⟨op, k, hrunning⟩ | hcov
      · rw [hu] at hrunning
        cases hrunning
      · exact Or.inr hcov
    · exact h.other hi id
  | @crash i p hc hi =>
    by_cases hi : i = .gateway jobId
    · subst hi
      exact Or.inr hg
    · exact h.other hi id
  | env henv =>
    obtain ⟨d, rfl⟩ := henv
    exact h
  | @call i op k r s' hi hsem =>
    by_cases hgw : i = .gateway jobId
    · subst hgw
      obtain ⟨-, hk⟩ := (run_ok (covered_sound X mode) hrun).fire (covered_sound X mode) hi hsem hg
      -- as long as the request has calls to make, nothing has to be covered
      cases hrest : k r with
      | call op' k' => exact Or.inl ⟨op', k', by simp⟩
      | ret a =>
        rw [hrest] at hk
        exact Or.inr (hk trivial)
      | raise e =>
        rw [hrest] at hk
        exact Or.inr (hk trivial)
    · exact h.other hgw (guar_uncovered hgw
        (run_guar (covered_sound X mode) hrun (Fire.call hi hsem) hg))

/--
**No orphaned recovery.** If no request fails between the commit that makes its job wait for a
recovery and the message about it, then in every state reached, a job that waits for a recovery
and whose request is over has a message that is undelivered or pending.
-/
theorem recovery_covered (hrun : (systemMachine X mode).Steps failuresCovered systemInitial c)
    (hover : ¬c.Active (.gateway jobId)) {row : JobModel} (hrow : c.state.jobs jobId = some row)
    (hst : row.status = JobStatus.recoveryPending.value) :
    ∃ message ∈ c.state.stream.entries, Names message jobId ∧
      (c.state.stream.Undelivered message ∨ c.state.stream.IsPending message) := by
  have hcov : RunningOrCovered c jobId :=
    hrun.induct (P := fun c => RunningOrCovered c jobId)
      (Or.inr fun ⟨⟨_, hr, _⟩, _⟩ => by cases hr) fun _ _ _ hrun h hf hg => h.step hrun hf hg
  rcases hcov with hactive | hcov
  · exact absurd hactive hover
  · by_cases he : HasEntry c.state jobId
    · obtain ⟨message, hm, hname⟩ := he
      refine ⟨message, hm, hname, ?_⟩
      rcases c.state.stream.undelivered_or_pending_or_acked hm with hu | hp | ha
      · exact Or.inl hu
      · exact Or.inr hp
      · -- an acknowledged message would have a final row
        obtain ⟨jobId', row', hname', hrow', hfinal⟩ :=
          (run_ok (covered_sound X mode) hrun).inv.acked message hm ha
        cases hname.unique hname'
        rw [hrow] at hrow'
        cases hrow'
        rcases hfinal with hf | hf <;> cases JobStatus.value_inj.mp (hst.symm.trans hf)
    · exact absurd ⟨⟨row, hrow, hst⟩, he⟩ hcov

end Orphans

/-- A request that goes through leaves an undelivered message for its job. -/
theorem recovery_covered_titleRequest :
    ∃ message ∈ (play titleStep (titleRequest 7) systemInitial).state.stream.entries,
      Names message "7" ∧
        ((play titleStep (titleRequest 7) systemInitial).state.stream.Undelivered message ∨
          (play titleStep (titleRequest 7) systemInitial).state.stream.IsPending message) := by
  have hrun : (systemMachine anyServices .atomic).Steps failuresCovered systemInitial
      (play titleStep (titleRequest 7) systemInitial) := by
    refine Steps.play titleStep_faulty (titleRequest 7) systemInitial ?_
    exact ⟨⟨⟨rfl, .request _ _ _ _⟩, trivial⟩,
      ⟨trivial, trivial, trivial, trivial, trivial, trivial, trivial, trivial⟩, trivial⟩
  refine recovery_covered hrun ?_ rfl rfl
  rintro ⟨op, k, h⟩
  cases h

/-- The request commits `recovery_pending` with its fifth call and dies before the next one. -/
def dyingRequest : List SystemMove := titleRequest 5 ++ [.crash (.gateway "7")]

/-- The job waits for its recovery for ever: the request is over, and the stream is empty. -/
theorem orphaned_job : ∃ c : SystemPool,
    (systemMachine anyServices .atomic).Steps anyStep systemInitial c ∧
      ¬c.Active (.gateway "7") ∧
      (c.state.jobs "7").map JobModel.status = some JobStatus.recoveryPending.value ∧
      c.state.stream.entries = [] := by
  refine ⟨play titleStep dyingRequest systemInitial,
    Steps.play titleStep_faulty dyingRequest systemInitial ?_, ?_, rfl, rfl⟩
  · exact ⟨⟨⟨rfl, .request _ _ _ _⟩, trivial⟩, turnAllowed_anyStep _ _ _,
      ⟨⟨trivial, _, rfl⟩, trivial⟩, trivial⟩
  · rintro ⟨op, k, h⟩
    cases h

end Sentinel
