import Sentinel.System.Delivery

/-!
# Recovered jobs

A consumer writes the outcome of its run without looking at the status the job has meanwhile. A
message is delivered at least once, so a second run may find the job recovered and overwrite it.

* `commitsUnfinished` — no consumer commits to the row of a job that is recovered already
* `success_stays` — then a recovered job stays recovered
* `disagreeing_commit` — otherwise an atomic commit of another outcome loses the success at once
* `success_overwritten` — a consumer that dies before it acknowledges, and a second run that
  gives up
-/

namespace Sentinel

open Lib Machine RecoveryQueueConsumer

/-- When a consumer commits, the row it writes does not have status `success`. -/
def commitsUnfinished : SystemGuard := fun c l _ =>
  match l with
  | .call (.consumer _) (.commitUpdate _ model) _ => ∀ row, c.state.jobs model.id = some row →
      row.status ≠ JobStatus.success.value
  | _ => True

section Finality

variable {X : Services} {mode : WriteMode} {s s' : SystemState} {jobId : String} {row : JobModel}

/-- An existing row is changed by the commit of an update to it, and by nothing else. -/
theorem commandOk_row {op : SystemPort.Op} {a : SystemPort.Ans op}
    (h : commandOk X mode op s a s') (hrow : s.jobs jobId = some row) :
    s'.jobs jobId = some row ∨ ∃ loaded model, op = .commitUpdate loaded model ∧
      model.id = jobId ∧ s'.jobs jobId = some (written mode loaded model row) := by
  cases op with
  | sessionGet id => obtain ⟨-, rfl⟩ := commandOk_sessionGet h; exact Or.inl hrow
  | selectJob id => obtain ⟨-, rfl⟩ := commandOk_selectJob h; exact Or.inl hrow
  | extract url domain fields => obtain ⟨-, rfl⟩ := commandOk_extract h; exact Or.inl hrow
  | ainvoke state => obtain ⟨-, rfl⟩ := commandOk_ainvoke h; exact Or.inl hrow
  | injectTraceContext =>
    obtain ⟨-, rfl⟩ := commandOk_injectTraceContext h
    exact Or.inl hrow
  | commitInsert model =>
    obtain ⟨hnone, rfl⟩ := commandOk_commitInsert h
    have hne : jobId ≠ model.id := fun he => by
      rw [he, hnone] at hrow
      cases hrow
    exact Or.inl ((s.setJob_jobs_of_ne model hne).trans hrow)
  | commitUpdate loaded model =>
    obtain ⟨row', hrow', rfl⟩ := commandOk_commitUpdate h
    by_cases he : model.id = jobId
    · subst he
      rw [hrow] at hrow'
      cases hrow'
      exact Or.inr ⟨loaded, model, rfl, rfl, by simp⟩
    · exact Or.inl ((s.setJob_jobs_of_ne _ (Ne.symm he)).trans hrow)
  | xadd fields => rw [(commandOk_xadd h).2]; exact Or.inl hrow
  | xack id => rw [(commandOk_xack h).2]; exact Or.inl hrow
  | xgroupCreate => rw [(commandOk_xgroupCreate h).2]; exact Or.inl hrow
  | xreadgroup consumerName => rw [(commandOk_xreadgroup h).2]; exact Or.inl hrow
  | xautoclaim consumerName idle => rw [(commandOk_xautoclaim h).2]; exact Or.inl hrow

/-- The job is recovered, with this result. -/
def Recovered (s : SystemState) (jobId : String) (result : Json) : Prop :=
  ∃ row, s.jobs jobId = some row ∧ row.status = JobStatus.success.value ∧ row.result = result

/-- A request does not touch the row of a recovered job. -/
theorem gateway_recovered {result : Json} {id : String} (hg : GatewayGuar id s s')
    (h : Recovered s jobId result) : Recovered s' jobId result := by
  obtain ⟨row, hrow, hst, hresult⟩ := h
  by_cases hid : jobId = id
  · subst hid
    rcases hg.changed row hrow with heq | hpending
    · exact ⟨row, heq, hst, hresult⟩
    · cases JobStatus.value_inj.mp (hst.symm.trans hpending)
  · exact ⟨row, (hg.others jobId hid).trans hrow, hst, hresult⟩

/-- A call of a consumer that does not commit to such a row does not, either. -/
theorem consumer_recovered {result : Json} {op : SystemPort.Op}
    {a : SystemPort.Ans op} (hok : commandOk X mode op s a s')
    (hunfinished : ∀ loaded model, op = .commitUpdate loaded model →
      ∀ row, s.jobs model.id = some row → row.status ≠ JobStatus.success.value)
    (h : Recovered s jobId result) : Recovered s' jobId result := by
  obtain ⟨row, hrow, hst, hresult⟩ := h
  rcases commandOk_row hok hrow with heq | ⟨loaded, model, hop, hid, -⟩
  · exact ⟨row, heq, hst, hresult⟩
  · subst hid
    exact absurd hst (hunfinished loaded model hop row hrow)

/-- An atomic commit of another outcome loses the success. -/
theorem disagreeing_commit {loaded model : JobModel}
    (hok : commandOk X .atomic (.commitUpdate loaded model) s () s')
    (hdisagree : ¬(model.status = JobStatus.success.value ∧ model.result = row.result)) :
    ¬Recovered s' model.id row.result := by
  obtain ⟨row', hrow', rfl⟩ := commandOk_commitUpdate hok
  rintro ⟨new, hnew, hst, hresult⟩
  rw [SystemState.setJob_jobs_self] at hnew
  cases hnew
  exact hdisagree ⟨hst, hresult⟩

theorem Recovered.step {c c' : SystemPool} {result : Json}
    (hrun : (systemMachine X mode).Steps commitsUnfinished systemInitial c)
    (h : Recovered c.state jobId result) {l : Label SystemPort PyError SystemRole}
    (hf : (systemMachine X mode).Fire c l c') (hg : commitsUnfinished c l c') :
    Recovered c'.state jobId result := by
  cases hf with
  | spawn => exact h
  | crash => exact h
  | env henv =>
    obtain ⟨d, rfl⟩ := henv
    exact h
  | @call i op k r s' hi hsem =>
    cases i with
    | gateway id =>
      have hguar := run_guar (any_sound X mode) hrun.anyStep (Fire.call hi hsem) trivial
      exact gateway_recovered hguar h
    | consumer n =>
      have hunfinished : ∀ loaded model, op = .commitUpdate loaded model → ∀ row,
          c.state.jobs model.id = some row → row.status ≠ JobStatus.success.value := by
        rintro loaded model rfl
        exact hg
      cases r with
      | ok a => exact consumer_recovered hsem hunfinished h
      | error e =>
        -- a call that raises may have taken effect all the same
        rcases hsem with rfl | ⟨a, hok⟩
        · exact h
        · exact consumer_recovered hok hunfinished h

/--
**A recovered job stays recovered**, in every run in which no consumer commits to a row that has
status `success` at that moment.
-/
theorem success_stays {c c' : SystemPool} {result : Json}
    (hrun : (systemMachine X mode).Steps commitsUnfinished systemInitial c)
    (hrun' : (systemMachine X mode).Steps commitsUnfinished c c')
    (h : Recovered c.state jobId result) : Recovered c'.state jobId result :=
  hrun'.induct (P := fun c' => Recovered c'.state jobId result) h fun _ _ _ hsteps h hf hg =>
    Recovered.step (hrun.trans hsteps) h hf hg

end Finality

/-! ## two runs for one message -/

/-- The request, and a consumer that recovers the job but has not acknowledged the message. -/
def recoveringRun : List SystemMove :=
  titleRequest 7 ++ [.spawn (.consumer 0) (processNextJob ⟨"consumer-1", 3⟩ >>= fun _ => pure ()),
    .turn (.consumer 0) 6]

def hat : Json := .obj [("title", .str "Hat")]

/-- The consumer goes on to acknowledge the message. -/
theorem success_stays_acknowledged : Recovered
    (play titleStep [.turn (.consumer 0) 1] (play titleStep recoveringRun systemInitial)).state
    "7" hat := by
  have hrun : (systemMachine anyServices .atomic).Steps commitsUnfinished systemInitial
      (play titleStep recoveringRun systemInitial) := by
    refine Steps.play titleStep_faulty recoveringRun systemInitial ?_
    refine ⟨⟨⟨rfl, .request _ _ _ _⟩, trivial⟩,
      ⟨trivial, trivial, trivial, trivial, trivial, trivial, trivial, trivial⟩,
      ⟨⟨rfl, .next _ _⟩, trivial⟩,
      ⟨trivial, trivial, trivial, trivial, trivial, ?_, trivial⟩, trivial⟩
    rintro row ⟨⟩
    decide
  exact success_stays hrun (Steps.play titleStep_faulty [.turn (.consumer 0) 1] _
    ⟨⟨trivial, trivial⟩, trivial⟩) ⟨_, rfl, rfl, rfl⟩

/-- The first consumer dies, and half a minute later a second one claims the message. -/
def secondRun : List SystemMove :=
  [.crash (.consumer 0), .env fun s => { s with now := s.now + 30000 },
    .spawn (.consumer 1) (reclaimStaleMessages ⟨"consumer-2", 3⟩ 30000 >>= fun _ => pure ()),
    .turn (.consumer 1) 7]

/-- The job was recovered with a title; in the end it needs human review and has no result. -/
theorem success_overwritten : ∃ c c' : SystemPool,
    (systemMachine anyServices .atomic).Steps anyStep systemInitial c ∧
      (systemMachine anyServices .atomic).Steps anyStep c c' ∧
      Recovered c.state "7" hat ∧
      (c'.state.jobs "7").map (fun row => (row.status, row.result)) =
        some (JobStatus.needsHumanReview.value, Json.null) := by
  refine ⟨play titleStep recoveringRun systemInitial,
    play titleStep secondRun (play titleStep recoveringRun systemInitial),
    Steps.play titleStep_faulty recoveringRun systemInitial ?_,
    Steps.play titleStep_faulty secondRun _ ?_, ⟨_, rfl, rfl, rfl⟩, rfl⟩
  · exact ⟨⟨⟨rfl, .request _ _ _ _⟩, trivial⟩, turnAllowed_anyStep _ _ _,
      ⟨⟨rfl, .next _ _⟩, trivial⟩, turnAllowed_anyStep _ _ _, trivial⟩
  · exact ⟨⟨⟨trivial, _, rfl⟩, trivial⟩, ⟨⟨30000, rfl⟩, trivial⟩,
      ⟨⟨rfl, .reclaim _ _ _⟩, trivial⟩, turnAllowed_anyStep _ _ _, trivial⟩

end Sentinel
