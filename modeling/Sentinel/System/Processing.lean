import Sentinel.System.Discipline

/-!
# Processing one message

A consumer looks the job of a message up, runs the graph, writes the outcome back and acknowledges
the message. Each of these calls may be the one that raises.

* `exec_processJob`, `exec_processJob_unknown` — the calls go through, for any handler
* `exec_lookup_error` … `exec_commit_error` — one of them raises
* `consumerStep` — the calls of one consumer that nobody interferes with
* `exec_processJob_alone` — what such a consumer makes of a message
-/

namespace Sentinel

open Lib RecoveryQueueConsumer

/-! ## any handler -/

section Handler

variable {S : Type} {h : (op : SystemPort.Op) → S → Except PyError (SystemPort.Ans op) × S}
  {s₀ s₁ s₂ s₃ s₄ s₅ : S} {self : RecoveryQueueConsumer} {jobId : String} {messageId n : Nat}
  {row row' : JobModel} {job : Job} {final : RecoveryState} {e : PyError}

theorem exec_get (hselect : h (.selectJob jobId) s₀ = (.ok (some row), s₁))
    (hjob : modelToJob row = .ok job) :
    (SqlJobRepository.get jobId).exec h s₀ = (.ok (some job), s₁) := by
  unfold SqlJobRepository.get
  rw [Prog.exec_perform_bind _ hselect]
  dsimp only
  rw [hjob]
  rfl

theorem exec_get_none (hselect : h (.selectJob jobId) s₀ = (.ok none, s₁)) :
    (SqlJobRepository.get jobId).exec h s₀ = (.ok none, s₁) := by
  unfold SqlJobRepository.get
  rw [Prog.exec_perform_bind _ hselect]
  rfl

theorem exec_update (hget : h (.sessionGet job.id) s₂ = (.ok (some row), s₃)) :
    (SqlJobRepository.update job).exec h s₂ = h (.commitUpdate row (row.assign job)) s₃ := by
  unfold SqlJobRepository.update
  rw [Prog.exec_perform_bind _ hget]
  exact Prog.exec_perform h _ _

/-- The calls go through, but for the acknowledgement perhaps. -/
theorem exec_processJob (hselect : h (.selectJob jobId) s₀ = (.ok (some row), s₁))
    (hjob : modelToJob row = .ok job)
    (hgraph : h (.ainvoke (buildInitialState job self.maxAttempts)) s₁ = (.ok final, s₂))
    (hget : h (.sessionGet (finalJob job final).id) s₂ = (.ok (some row'), s₃))
    (hcommit : h (.commitUpdate row' (row'.assign (finalJob job final))) s₃ = (.ok (), s₄))
    {r : Except PyError Nat} (hack : h (.xack messageId) s₄ = (r, s₅)) :
    (processJob self jobId messageId).exec h s₀ = (r.map fun _ => some jobId, s₅) := by
  unfold processJob
  rw [Prog.exec_bind_ok _ (exec_get hselect hjob)]
  dsimp only
  rw [Prog.exec_perform_bind _ hgraph]
  unfold applyFinalState
  rw [Prog.exec_bind_ok _ ((exec_update hget).trans hcommit)]
  cases r with
  | error e => exact Prog.exec_perform_error _ hack _
  | ok n => exact Prog.exec_perform_bind _ hack _

/-- The job of the message does not exist. -/
theorem exec_processJob_unknown (hselect : h (.selectJob jobId) s₀ = (.ok none, s₁))
    (hack : h (.xack messageId) s₁ = (.ok n, s₂)) :
    (processJob self jobId messageId).exec h s₀ = (.ok none, s₂) := by
  unfold processJob
  rw [Prog.exec_bind_ok _ (exec_get_none hselect)]
  exact Prog.exec_perform_bind _ hack _

/-- The row of the job cannot be read. -/
theorem exec_unreadable (hselect : h (.selectJob jobId) s₀ = (.ok (some row), s₁))
    (hjob : modelToJob row = .error e) :
    (processJob self jobId messageId).exec h s₀ = (.error e, s₁) := by
  refine Prog.exec_bind_error _ ?_ _
  unfold SqlJobRepository.get
  rw [Prog.exec_perform_bind _ hselect]
  dsimp only
  rw [hjob]
  rfl

theorem exec_lookup_error (hselect : h (.selectJob jobId) s₀ = (.error e, s₁)) :
    (processJob self jobId messageId).exec h s₀ = (.error e, s₁) :=
  Prog.exec_bind_error _ (Prog.exec_perform_error _ hselect _) _

theorem exec_graph_error (hselect : h (.selectJob jobId) s₀ = (.ok (some row), s₁))
    (hjob : modelToJob row = .ok job)
    (hgraph : h (.ainvoke (buildInitialState job self.maxAttempts)) s₁ = (.error e, s₂)) :
    (processJob self jobId messageId).exec h s₀ = (.error e, s₂) := by
  unfold processJob
  rw [Prog.exec_bind_ok _ (exec_get hselect hjob)]
  exact Prog.exec_perform_error _ hgraph _

theorem exec_load_error (hselect : h (.selectJob jobId) s₀ = (.ok (some row), s₁))
    (hjob : modelToJob row = .ok job)
    (hgraph : h (.ainvoke (buildInitialState job self.maxAttempts)) s₁ = (.ok final, s₂))
    (hget : h (.sessionGet (finalJob job final).id) s₂ = (.error e, s₃)) :
    (processJob self jobId messageId).exec h s₀ = (.error e, s₃) := by
  unfold processJob
  rw [Prog.exec_bind_ok _ (exec_get hselect hjob)]
  dsimp only
  rw [Prog.exec_perform_bind _ hgraph]
  exact Prog.exec_bind_error _ (Prog.exec_perform_error _ hget _) _

theorem exec_commit_error (hselect : h (.selectJob jobId) s₀ = (.ok (some row), s₁))
    (hjob : modelToJob row = .ok job)
    (hgraph : h (.ainvoke (buildInitialState job self.maxAttempts)) s₁ = (.ok final, s₂))
    (hget : h (.sessionGet (finalJob job final).id) s₂ = (.ok (some row'), s₃))
    (hcommit : h (.commitUpdate row' (row'.assign (finalJob job final))) s₃ = (.error e, s₄)) :
    (processJob self jobId messageId).exec h s₀ = (.error e, s₄) := by
  unfold processJob
  rw [Prog.exec_bind_ok _ (exec_get hselect hjob)]
  dsimp only
  rw [Prog.exec_perform_bind _ hgraph]
  exact Prog.exec_bind_error _ ((exec_update hget).trans hcommit) _

end Handler

/-! ## one consumer, undisturbed -/

/-- The calls of a consumer that nobody interferes with; `graph` is the compiled graph, whose
answer may depend on anything. -/
def consumerStep (graph : SystemState → RecoveryState → Except PyError RecoveryState)
    (mode : WriteMode) (reply : Replies) :
    (op : SystemPort.Op) → SystemState → Except PyError (SystemPort.Ans op) × SystemState
  | .ainvoke state, s => (graph s state, s)
  | op, s => commandStep mode reply op s

/-- The state once the outcome of a run is written back and the message is acknowledged. -/
def processed (s : SystemState) (row : JobModel) (job : Job) (final : RecoveryState)
    (messageId : Nat) : SystemState :=
  { s.setJob row.id (row.assign (finalJob job final)) with
    stream := (s.stream.xack messageId).2 }

section Alone

variable {graph : SystemState → RecoveryState → Except PyError RecoveryState} {mode : WriteMode}
  {reply : Replies} {s : SystemState} {self : RecoveryQueueConsumer} {jobId : String}
  {messageId : Nat} {row : JobModel} {job : Job}

/-- A commit on the row that was loaded, in a state that still has it. -/
theorem updateJob_self {row : JobModel} (hrow : s.jobs row.id = some row) (job : Job) :
    updateJob mode row (row.assign job) s = (.ok (), s.setJob row.id (row.assign job)) := by
  unfold updateJob
  rw [show s.jobs (row.assign job).id = some row from hrow]
  show (Except.ok (), s.setJob row.id _) = _
  rw [written_self]

/-- What the calls for a job answer, one after another, when its graph returns `final`. -/
structure Answers (graph : SystemState → RecoveryState → Except PyError RecoveryState)
    (mode : WriteMode) (reply : Replies) (consumer : RecoveryQueueConsumer) (s : SystemState)
    (row : JobModel) (job : Job) (final : RecoveryState) : Prop where
  read : modelToJob row = .ok job
  select : consumerStep graph mode reply (.selectJob row.id) s = (.ok (some row), s)
  ainvoke : consumerStep graph mode reply
    (.ainvoke (buildInitialState job consumer.maxAttempts)) s = (.ok final, s)
  get : consumerStep graph mode reply (.sessionGet (finalJob job final).id) s =
    (.ok (some row), s)
  commit : consumerStep graph mode reply (.commitUpdate row (row.assign (finalJob job final))) s =
    (.ok (), s.setJob row.id (row.assign (finalJob job final)))
  acknowledge : ∀ messageId, consumerStep graph mode reply (.xack messageId)
    (s.setJob row.id (row.assign (finalJob job final))) =
      (.ok (s.stream.xack messageId).1, processed s row job final messageId)

theorem answers_of_row (hrow : s.jobs row.id = some row) (hjob : modelToJob row = .ok job)
    {final : RecoveryState}
    (hfinal : graph s (buildInitialState job self.maxAttempts) = .ok final) :
    Answers graph mode reply self s row job final := by
  have hselect : consumerStep graph mode reply (.selectJob row.id) s = (.ok (some row), s) :=
    congrArg (fun r => (Except.ok r, s)) hrow
  refine ⟨hjob, hselect, congrArg (·, s) hfinal, ?_, updateJob_self hrow _, fun _ => rfl⟩
  rw [finalJob_id, (modelToJob_ok hjob).1]
  exact hselect

/-- **One message, undisturbed**: the outcome of the graph is written back and the message is
acknowledged, or the graph raises and nothing has happened. -/
theorem exec_processJob_alone (hrow : s.jobs jobId = some row) (hid : row.id = jobId)
    (hjob : modelToJob row = .ok job) :
    (processJob self jobId messageId).exec (consumerStep graph mode reply) s =
      match graph s (buildInitialState job self.maxAttempts) with
      | .error e => (.error e, s)
      | .ok final => (.ok (some jobId), processed s row job final messageId) := by
  subst hid
  cases hgraph : graph s (buildInitialState job self.maxAttempts) with
  | error e =>
    have hselect : consumerStep graph mode reply (.selectJob row.id) s = (.ok (some row), s) :=
      congrArg (fun r => (Except.ok r, s)) hrow
    exact exec_graph_error hselect hjob (congrArg (·, s) hgraph)
  | ok final =>
    have h : Answers graph mode reply self s row job final := answers_of_row hrow hjob hgraph
    exact exec_processJob h.select h.read h.ainvoke h.get h.commit (h.acknowledge messageId)

end Alone

end Sentinel
