import Sentinel.Lib.History
import Sentinel.Lib.Replay
import Sentinel.System.Outcome
import Sentinel.System.Processing

/-!
# One table for two services

The gateway inserts the row of a new job and later writes three of its columns. The recovery engine
loads the row, builds the finished job and writes the same three. The tests of the gateway have a
dictionary in place of the table.

* `InMemoryJobRepository` — the test double
* `JobWrite`, `JobHistory` — the writes of both services, and the orders in which they come
* `Mirrors` — table and dictionary hold the last job written for each id
* `repositories_agree` — so that is the job all three repositories return
-/

namespace Sentinel

open Lib RecoveryQueueConsumer

namespace InMemoryJobRepository

def save (jobs : Dict String Job) (job : Job) : Dict String Job := jobs.set job.id job

def get (jobs : Dict String Job) (jobId : String) : Option Job := jobs.get? jobId

end InMemoryJobRepository

/-! ## writes -/

inductive JobWrite
  | save (job : Job)
  | applyFinalState (job : Job) (finalState : RecoveryState)

/-- The job that is written. -/
def JobWrite.job : JobWrite → Job
  | save job => job
  | applyFinalState job finalState => finalJob job finalState

/-- What was written for each id. -/
abbrev JobLog := History String Job

def logOf (writes : List JobWrite) : JobLog :=
  History.empty.recordAll (writes.map fun w => (w.job.id, w.job))

/-- A job that was written, or one derived from it by the life cycle. -/
inductive Derived (writes : List JobWrite) : Job → Prop
  | written {w : JobWrite} : w ∈ writes → Derived writes w.job
  | markSucceeded {job : Job} (result : Json) :
      Derived writes job → Derived writes (job.markSucceeded result)
  | markRecoveryPending {job : Job} : Derived writes job → Derived writes job.markRecoveryPending
  | markFailed {job : Job} (failureReason : FailureReason) :
      Derived writes job → Derived writes (job.markFailed failureReason)

/-- Each job begins with the save of its creation, under an id of its own. -/
inductive JobHistory : List JobWrite → Prop
  | nil : JobHistory []
  | create {writes : List JobWrite} (uuid url domain : String) (requiredFields : List String) :
      JobHistory writes → (∀ w ∈ writes, w.job.id ≠ uuid) →
      JobHistory (writes ++ [.save (Job.create uuid url domain requiredFields)])
  | save {writes : List JobWrite} {job : Job} :
      JobHistory writes → Derived writes job → JobHistory (writes ++ [.save job])
  | applyFinalState {writes : List JobWrite} {job : Job} (finalState : RecoveryState) :
      JobHistory writes → Derived writes job →
      JobHistory (writes ++ [.applyFinalState job finalState])

/-- One write of either service on the table. -/
def writeStep (mode : WriteMode) (reply : Replies) :
    JobWrite → SystemState → Except PyError Unit × SystemState
  | .save job, s => (SqlAlchemyJobRepository.save job).exec (commandStep mode reply) s
  | .applyFinalState job finalState, s =>
    (RecoveryQueueConsumer.applyFinalState job finalState).exec (commandStep mode reply) s

/-- The dictionary after the same writes. -/
def inMemory (writes : List JobWrite) : Dict String Job :=
  writes.foldl (fun jobs w => InMemoryJobRepository.save jobs w.job) Dict.empty

/-! ## identity -/

/-- What is given to a job when it is created. -/
def Job.identity (job : Job) : String × String × String × List String :=
  (job.id, job.url, job.domain, job.requiredFields)

theorem Job.identity_eq {job job' : Job} : job.identity = job'.identity ↔
    job.id = job'.id ∧ job.url = job'.url ∧ job.domain = job'.domain ∧
      job.requiredFields = job'.requiredFields := by
  simp [Job.identity]

theorem finalJob_identity (job : Job) (finalState : RecoveryState) :
    (finalJob job finalState).identity = job.identity := by
  unfold finalJob
  split <;> rfl

/-- What was written for an id agrees in its identity, of which the id is a part. -/
def Coherent (H : JobLog) : Prop :=
  ∀ id, ∃ identity, ∀ job ∈ H id, job.id = id ∧ job.identity = identity

/-- A version of the job has been written. -/
def Known (H : JobLog) (job : Job) : Prop := ∃ job' ∈ H job.id, job'.identity = job.identity

/-- What can come next: only a save may be for an id that is not in use. -/
def Next (H : JobLog) : JobWrite → Prop
  | .save job => H job.id = [] ∨ Known H job
  | .applyFinalState job _ => Known H job

section Writes

variable {H : JobLog} {job : Job} {w : JobWrite} {writes : List JobWrite} {mode : WriteMode}
  {reply : Replies} {s : SystemState} {jobs : Dict String Job}

theorem logOf_concat (writes : List JobWrite) (w : JobWrite) :
    logOf (writes ++ [w]) = (logOf writes).record w.job.id w.job := by
  simp [logOf, History.recordAll_concat]

theorem mem_logOf {id : String} :
    job ∈ logOf writes id ↔ job.id = id ∧ ∃ w ∈ writes, w.job = job := by
  induction writes using List.reverseRecOn with
  | nil => simp [logOf]
  | append_singleton writes w ih =>
    rw [logOf_concat]
    by_cases hid : id = w.job.id
    · subst hid
      rw [History.record_self]
      simp only [List.mem_append, List.mem_singleton, ih]
      grind
    · rw [History.record_of_ne _ _ hid, ih]
      simp only [List.mem_append, List.mem_singleton]
      grind

theorem logOf_eq_nil {id : String} : logOf writes id = [] ↔ ∀ w ∈ writes, w.job.id ≠ id := by
  rw [List.eq_nil_iff_forall_not_mem]
  simp only [mem_logOf]
  grind

theorem Derived.known (h : Derived writes job) : Known (logOf writes) job := by
  induction h with
  | @written w hw => exact ⟨w.job, mem_logOf.mpr ⟨rfl, w, hw, rfl⟩, rfl⟩
  | markSucceeded result _ ih => exact ih
  | markRecoveryPending _ ih => exact ih
  | markFailed failureReason _ ih => exact ih

/-- A finished job is a version of the job. -/
theorem Known.finalJob (h : Known H job) (finalState : RecoveryState) :
    Known H (RecoveryQueueConsumer.finalJob job finalState) := by
  unfold Known
  rw [finalJob_id, finalJob_identity]
  exact h

theorem Next.fresh_or_known (h : Next H w) : H w.job.id = [] ∨ Known H w.job := by
  cases w with
  | save job => exact h
  | applyFinalState job finalState => exact Or.inr (Known.finalJob h finalState)

theorem Coherent.record (hH : Coherent H) (hjob : H job.id = [] ∨ Known H job) :
    Coherent (H.record job.id job) := by
  intro id
  by_cases hid : id = job.id
  · subst hid
    refine ⟨job.identity, fun x hx => ?_⟩
    rw [History.record_self] at hx
    rcases List.mem_append.mp hx with hx | hx
    · rcases hjob with hnil | ⟨job', hmem, hjob'⟩
      · rw [hnil] at hx
        cases hx
      · obtain ⟨identity, hall⟩ := hH job.id
        exact ⟨(hall x hx).1, by rw [(hall x hx).2, ← (hall job' hmem).2, hjob']⟩
    · rw [List.mem_singleton.mp hx]
      exact ⟨rfl, rfl⟩
  · rw [History.record_of_ne _ _ hid]
    exact hH id

/-! ## one write -/

/-- Table and dictionary hold the last job written for each id. -/
structure Mirrors (s : SystemState) (jobs : Dict String Job) (H : JobLog) : Prop where
  table : ∀ id, s.jobs id = (H.current id).map jobToModel
  memory : ∀ id, InMemoryJobRepository.get jobs id = H.current id

theorem Mirrors.record (h : Mirrors s jobs H) (job : Job) :
    Mirrors (s.setJob job.id (jobToModel job)) (InMemoryJobRepository.save jobs job)
      (H.record job.id job) := by
  constructor
  · intro id
    by_cases hid : id = job.id
    · subst hid
      rw [SystemState.setJob_jobs_self, History.current_record_self]
      rfl
    · rw [SystemState.setJob_jobs_of_ne _ _ hid, h.table, History.current_record_of_ne _ _ hid]
  · intro id
    have hmemory := h.memory id
    unfold InMemoryJobRepository.get InMemoryJobRepository.save at *
    rw [Dict.get?_set]
    by_cases hid : id = job.id
    · subst hid
      rw [if_pos rfl, History.current_record_self]
    · rw [if_neg hid, hmemory, History.current_record_of_ne _ _ hid]

/-- Of a job that has been written, the last version has the same identity. -/
theorem Coherent.current (hH : Coherent H) (hjob : Known H job) :
    ∃ last, H.current job.id = some last ∧ job.identity = last.identity := by
  obtain ⟨job', hmem, hjob'⟩ := hjob
  obtain ⟨identity, hall⟩ := hH job.id
  cases hlast : H.current job.id with
  | none =>
    rw [History.current_eq_none.mp hlast] at hmem
    cases hmem
  | some last =>
    refine ⟨last, rfl, ?_⟩
    rw [← hjob', (hall job' hmem).2, (hall last (List.mem_of_getLast? hlast)).2]

/-- A save of the gateway makes the row that of the job. -/
theorem exec_save_mirrored (h : Mirrors s jobs H) (hH : Coherent H)
    (hjob : H job.id = [] ∨ Known H job) :
    (SqlAlchemyJobRepository.save job).exec (commandStep mode reply) s =
      (.ok (), s.setJob job.id (jobToModel job)) := by
  have hh := tableStep_commandStep mode reply
  have htable := h.table job.id
  rcases hjob with hnil | hjob
  · rw [History.current_eq_none.mpr hnil] at htable
    exact exec_save_new hh htable
  · obtain ⟨last, hlast, hid⟩ := hH.current hjob
    have hsame := Job.identity_eq.mp hid
    rw [hlast, hsame.1] at htable
    rw [hsame.1]
    exact exec_save_again hh htable hsame

/-- An update of the recovery engine does the same, for a job that has a row. -/
theorem exec_update_mirrored (h : Mirrors s jobs H) (hH : Coherent H) (hjob : Known H job) :
    (SqlJobRepository.update job).exec (commandStep mode reply) s =
      (.ok (), s.setJob job.id (jobToModel job)) := by
  have htable := h.table job.id
  obtain ⟨last, hlast, hid⟩ := hH.current hjob
  have hsame := Job.identity_eq.mp hid
  rw [hlast] at htable
  have hget : commandStep mode reply (.sessionGet job.id) s = (.ok (some (jobToModel last)), s) :=
    congrArg (fun r => (Except.ok r, s)) htable
  rw [exec_update hget]
  rw [hsame.1] at htable ⊢
  have hcommit : commandStep mode reply
      (.commitUpdate (jobToModel last) ((jobToModel last).assign job)) s =
        (.ok (), s.setJob last.id ((jobToModel last).assign job)) := updateJob_self htable job
  rw [hcommit, jobToModel_assign hsame]

/-- **One write** of either service: the row of its job is that of the job. -/
theorem exec_write (mode : WriteMode) (reply : Replies) (h : Mirrors s jobs H) (hH : Coherent H)
    (hw : Next H w) :
    writeStep mode reply w s = (.ok (), s.setJob w.job.id (jobToModel w.job)) := by
  cases w with
  | save job => exact exec_save_mirrored h hH hw
  | applyFinalState job finalState => exact exec_update_mirrored h hH (Known.finalJob hw finalState)

/-! ## reading -/

/-- The two services read a row alike. -/
theorem get_eq (jobId : String) : SqlAlchemyJobRepository.get jobId = SqlJobRepository.get jobId :=
  rfl

theorem exec_get_mirrored (h : Mirrors s jobs H) (jobId : String) :
    (SqlJobRepository.get jobId).exec (commandStep mode reply) s =
      (.ok (H.current jobId), s) := by
  have hselect : commandStep mode reply (.selectJob jobId) s =
      (.ok ((H.current jobId).map jobToModel), s) :=
    congrArg (fun r => (Except.ok r, s)) (h.table jobId)
  cases hlast : H.current jobId with
  | none => exact exec_get_none (hselect.trans (by rw [hlast]; rfl))
  | some last => exact exec_get (hselect.trans (by rw [hlast]; rfl)) (modelToJob_jobToModel last)

/-- Without a row there is nothing to update. -/
theorem exec_update_unknown (h : s.jobs job.id = none) :
    (SqlJobRepository.update job).exec (commandStep mode reply) s =
      (.error (.valueError ("Cannot update unknown job " ++ job.id)), s) := by
  have hget : commandStep mode reply (.sessionGet job.id) s = (.ok none, s) :=
    congrArg (fun r => (Except.ok r, s)) h
  unfold SqlJobRepository.update
  rw [Prog.exec_perform_bind _ hget]
  rfl

/-! ## any history -/

/-- The answers to some writes, and the table after them. -/
abbrev afterWrites (mode : WriteMode) (reply : Replies) (writes : List JobWrite) :
    List (Except PyError Unit) × SystemState :=
  replay (writeStep mode reply) writes SystemState.initial

/-- No write has failed, and both kinds of storage follow the writes. -/
structure InStep (mode : WriteMode) (reply : Replies) (writes : List JobWrite) : Prop where
  answers : ∀ r ∈ (afterWrites mode reply writes).1, r = .ok ()
  mirrors : Mirrors (afterWrites mode reply writes).2 (inMemory writes) (logOf writes)
  coherent : Coherent (logOf writes)

theorem InStep.concat (h : InStep mode reply writes) (hw : Next (logOf writes) w) :
    InStep mode reply (writes ++ [w]) := by
  have hstep := exec_write mode reply h.mirrors h.coherent hw
  have hafter : afterWrites mode reply (writes ++ [w]) =
      ((afterWrites mode reply writes).1 ++ [.ok ()],
        (afterWrites mode reply writes).2.setJob w.job.id (jobToModel w.job)) := by
    unfold afterWrites
    rw [replay_append, replay_cons, hstep, replay_nil]
  have hmemory : inMemory (writes ++ [w]) =
      InMemoryJobRepository.save (inMemory writes) w.job := by
    simp [inMemory]
  constructor
  · rw [hafter]
    intro r hr
    rcases List.mem_append.mp hr with hr | hr
    · exact h.answers r hr
    · exact List.mem_singleton.mp hr
  · rw [hafter, hmemory, logOf_concat]
    exact h.mirrors.record w.job
  · rw [logOf_concat]
    exact h.coherent.record hw.fresh_or_known

theorem JobHistory.inStep (h : JobHistory writes) : InStep mode reply writes := by
  induction h with
  | nil => exact ⟨nofun, ⟨fun _ => rfl, fun _ => rfl⟩, fun id => ⟨("", "", "", []), nofun⟩⟩
  | create uuid url domain requiredFields _ hfresh ih =>
    exact ih.concat (Or.inl (logOf_eq_nil.mpr hfresh))
  | save _ hjob ih => exact ih.concat (Or.inr hjob.known)
  | applyFinalState finalState _ hjob ih => exact ih.concat hjob.known

/--
**Two services, one table, one meaning.** In any order of the writes none of them fails, both
services and the test double return the job that was written last for an id, with the identity it
was created with, and an update for another id raises and changes nothing.
-/
theorem repositories_agree (mode : WriteMode) (reply : Replies) (h : JobHistory writes) :
    let s := (afterWrites mode reply writes).2
    (∀ r ∈ (afterWrites mode reply writes).1, r = .ok ()) ∧
    (∀ jobId,
      (SqlAlchemyJobRepository.get jobId).exec (commandStep mode reply) s =
        (.ok ((logOf writes).current jobId), s) ∧
      (SqlJobRepository.get jobId).exec (commandStep mode reply) s =
        (.ok ((logOf writes).current jobId), s) ∧
      InMemoryJobRepository.get (inMemory writes) jobId = (logOf writes).current jobId) ∧
    (∀ uuid url domain requiredFields,
      .save (Job.create uuid url domain requiredFields) ∈ writes →
      ∃ last, (logOf writes).current uuid = some last ∧
        last.identity = (uuid, url, domain, requiredFields)) ∧
    ∀ job, (∀ w ∈ writes, w.job.id ≠ job.id) →
      (SqlJobRepository.update job).exec (commandStep mode reply) s =
        (.error (.valueError ("Cannot update unknown job " ++ job.id)), s) := by
  intro s
  have hstep : InStep mode reply writes := h.inStep
  refine ⟨hstep.answers, fun jobId => ?_, ?_, ?_⟩
  · rw [get_eq]
    exact ⟨exec_get_mirrored hstep.mirrors jobId, exec_get_mirrored hstep.mirrors jobId,
      hstep.mirrors.memory jobId⟩
  · intro uuid url domain requiredFields hcreate
    have hknown : Known (logOf writes) (Job.create uuid url domain requiredFields) :=
      ⟨_, mem_logOf.mpr ⟨rfl, _, hcreate, rfl⟩, rfl⟩
    obtain ⟨last, hlast, hid⟩ := hstep.coherent.current hknown
    exact ⟨last, hlast, hid.symm⟩
  · intro job hunknown
    refine exec_update_unknown ?_
    rw [hstep.mirrors.table, History.current_eq_none.mpr (logOf_eq_nil.mpr hunknown)]
    rfl

end Writes

/-- A request whose extraction fails. -/
def hatJob : Job := Job.create "7" "https://shop.test/1" "shop.test" ["title"]

/-- It is stored, marked for recovery, and finished by a run that has not repaired it. -/
def hatWrites : List JobWrite :=
  [.save hatJob, .save hatJob.markRecoveryPending,
    .applyFinalState hatJob.markRecoveryPending (buildInitialState hatJob 3)]

theorem jobHistory_hatWrites : JobHistory hatWrites := by
  have hcreate : JobHistory [.save hatJob] :=
    JobHistory.nil.create "7" "https://shop.test/1" "shop.test" ["title"] (by simp)
  have hpending : JobHistory [.save hatJob, .save hatJob.markRecoveryPending] :=
    hcreate.save (.markRecoveryPending (.written List.mem_cons_self))
  have hread : Derived [.save hatJob, .save hatJob.markRecoveryPending]
      hatJob.markRecoveryPending := .markRecoveryPending (.written List.mem_cons_self)
  exact hpending.applyFinalState _ hread

/-- The job waits for a human. -/
theorem repositories_agree_hat :
    ((SqlJobRepository.get "7").exec (commandStep .changedColumns plainReplies)
        (afterWrites .changedColumns plainReplies hatWrites).2).1 =
      .ok (some { hatJob with status := .needsHumanReview }) := by
  have hget := ((repositories_agree .changedColumns plainReplies jobHistory_hatWrites).2.1 "7").2.1
  have hlast : (logOf hatWrites).current "7" = some { hatJob with status := .needsHumanReview } :=
    rfl
  rw [hget, hlast]

end Sentinel
