import Sentinel.Recovery.Accounting
import Sentinel.System.Processing

/-!
# Reaching a verdict

The graph is invoked with the step limit of its library, and a run takes two nodes for each
attempt and two more. How many attempts a run may make is configuration, so whether every run
comes to a verdict is a condition on the configured number.

* `EveryRunConcludes` — every run ends with a verdict that is written back and acknowledged
* `everyRunConcludes_iff` — the budgets for which that is so
-/

namespace Sentinel

open Lib RecoveryQueueConsumer

/-- The step limit of a run that is not given one. -/
def defaultRecursionLimit : Nat := 25

/-- The compiled graph with these collaborators, as the consumer calls it. -/
def compiledGraph (x : Collaborators) (state : RecoveryState) : Except PyError RecoveryState :=
  ((ainvoke defaultRecursionLimit state).exec (Prog.recorded x.answer) []).1

/-- The run of a job comes to a verdict. -/
def ReachesVerdict (x : Collaborators) (m : Int) (job : Job) : Prop :=
  ∃ final, compiledGraph x (buildInitialState job m) = .ok final ∧
    (final.finalStatus = some .success ∨ final.finalStatus = some .needsHumanReview)

/-- The processing of a pending message puts the job into a final status and acknowledges it. -/
def Concludes (x : Collaborators) (self : RecoveryQueueConsumer) (mode : WriteMode)
    (reply : Replies) (s : SystemState) (jobId : String) (message : Message) : Prop :=
  ∃ s' row, (processJob self jobId message.id).exec
      (consumerStep (fun _ => compiledGraph x) mode reply) s = (.ok (some jobId), s') ∧
    s'.jobs jobId = some row ∧ row.Final ∧
    s'.stream.Acked message ∧ ¬ s'.stream.IsPending message

/-- With an attempt budget of `m`, every run comes to a verdict, and so does the processing of
every message, whatever engine and worker answer. -/
def EveryRunConcludes (m : Int) : Prop :=
  ∀ x : Collaborators, x.Return → ∀ job : Job, ReachesVerdict x m job ∧
    ∀ (consumerName : String) (mode : WriteMode) (reply : Replies) (s : SystemState)
      (row : JobModel) (message : Message),
      s.jobs row.id = some row → modelToJob row = .ok job → s.stream.IsPending message →
      Concludes x ⟨consumerName, m⟩ mode reply s row.id message

section Verdict

variable {x : Collaborators} {m : Int} {job : Job}

/-- A run without a raising call comes to a verdict if its nodes fit under the limit. -/
theorem reachesVerdict_of_le (hx : x.Return) (hm : m ≤ 11) (job : Job) :
    ReachesVerdict x m job := by
  obtain ⟨b, init, last, out, hb, hruns⟩ := exec_ainvoke_runsAs x job m
  obtain ⟨final, rfl, haccounted⟩ := hruns.accounted hb (hruns.returned hx)
  have hwithin := hruns.within
  refine ⟨final, congrArg Prod.fst (hruns.ainvoke (by unfold defaultRecursionLimit; omega)), ?_⟩
  by_cases hlast : last.verdict = .accepted
  · have hget : (init ++ [last])[init.length]? = some last := by simp
    exact Or.inl (haccounted.accepted _ _ hget hlast).2.2
  · refine Or.inr (haccounted.exhausted fun a ha => ?_).2
    rcases List.mem_append.mp ha with ha | ha
    · rw [hruns.rejected a ha]
      nofun
    · rw [List.mem_singleton.mp ha]
      exact hlast

/-- An outcome is written back and the message acknowledged. -/
theorem concludes_of_reachesVerdict {self : RecoveryQueueConsumer} {mode : WriteMode}
    {reply : Replies} {s : SystemState} {row : JobModel} {message : Message}
    (hrow : s.jobs row.id = some row) (hjob : modelToJob row = .ok job)
    (hpending : s.stream.IsPending message) (h : ReachesVerdict x self.maxAttempts job) :
    Concludes x self mode reply s row.id message := by
  obtain ⟨final, hfinal, -⟩ := h
  refine ⟨processed s row job final message.id, row.assign (finalJob job final), ?_, ?_, ?_, ?_, ?_⟩
  · rw [exec_processJob_alone hrow rfl hjob, hfinal]
  · exact SystemState.setJob_jobs_self s _ _
  · exact (finalJob_status job final).imp (congrArg JobStatus.value) (congrArg JobStatus.value)
  · exact Stream.acked_xack_self hpending
  · exact fun hp => (Stream.isPending_xack.mp hp).2 rfl

/-- An engine and a worker that propose and reject for ever. -/
def rejecting : Collaborators where
  captureScreenshot _ _ := "png"
  proposeSelectors _ _ _ _ := ⟨true, Dict.empty⟩
  validateSelectors _ _ _ _ _ := .ok { success := false, failureReason := some .emptyRequiredField }

theorem rejecting_return : rejecting.Return := fun _ _ _ _ _ => ⟨_, rfl⟩

/-- With a larger budget, a run that is rejected throughout hits the limit. -/
theorem rejecting_recursionError (hm : 12 ≤ m) (job : Job) :
    compiledGraph rejecting (buildInitialState job m) = .error .graphRecursionError := by
  obtain ⟨b, init, last, out, hb, hruns⟩ := exec_ainvoke_runsAs rejecting job m
  have hrejected : last.verdict = .rejected := by
    cases hv : last.verdict with
    | rejected => rfl
    | aborted e => exact absurd hv (hruns.returned rejecting_return e)
    | accepted =>
      obtain ⟨selectors, result, rfl, hok⟩ := Attempt.eq_of_accepted hv
      obtain ⟨pre, hanswer⟩ := hruns.last_answered
      cases hanswer
      cases hok
  have hlen := hruns.exhausted hrejected
  unfold compiledGraph defaultRecursionLimit
  rw [exec_ainvoke]
  exact hruns.short (fun e => by rw [hrejected]; nofun) 24 (by omega)

/-- **Which budgets lead to a verdict**: exactly those up to eleven attempts. -/
theorem everyRunConcludes_iff (m : Int) : EveryRunConcludes m ↔ m ≤ 11 := by
  constructor
  · intro h
    by_contra hm
    obtain ⟨⟨final, hfinal, -⟩, -⟩ :=
      h rejecting rejecting_return (Job.create "7" "https://shop.test/1" "shop.test" ["title"])
    rw [rejecting_recursionError (by omega)] at hfinal
    cases hfinal
  · intro hm x hx job
    have hverdict := reachesVerdict_of_le hx hm job
    exact ⟨hverdict, fun consumerName mode reply s row message hrow hjob hpending =>
      concludes_of_reachesVerdict hrow hjob hpending hverdict⟩

/-- Twelve attempts take more nodes than the limit allows. -/
theorem not_everyRunConcludes_twelve : ¬ EveryRunConcludes 12 := by
  intro h
  obtain ⟨⟨final, hfinal, -⟩, -⟩ :=
    h rejecting rejecting_return (Job.create "7" "https://shop.test/1" "shop.test" ["title"])
  rw [rejecting_recursionError (Int.le_refl _)] at hfinal
  cases hfinal

end Verdict

end Sentinel
