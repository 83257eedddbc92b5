import Sentinel.System.State

/-!
# Who may change what

The discipline that requests and consumers keep. A request changes the row of its own job only,
and only while the stream has no entry for it. A consumer changes rows that have an entry, and
only to a final status, and it acknowledges an entry only when the row has reached one.

* `SystemInv` — rows, entries and acknowledgements fit together
* `gatewayRely`, `consumerRely` — what each may count on
* `GatewayGuar`, `ConsumerGuar` — what each call promises
* `discipline` — all of it, in the form rely and guarantee wants it
-/

namespace Sentinel

open Lib

/-- The message is about this job. -/
def Names (message : Message) (jobId : String) : Prop := message.fields.get? "job_id" = some jobId

theorem Names.unique {message : Message} {jobId jobId' : String} (h : Names message jobId)
    (h' : Names message jobId') : jobId = jobId' := by
  unfold Names at h h'
  rw [h] at h'
  exact Option.some.inj h'

def HasEntry (s : SystemState) (jobId : String) : Prop :=
  ∃ message ∈ s.stream.entries, Names message jobId

/-- The job is over for the recovery. -/
def JobModel.Final (row : JobModel) : Prop :=
  row.status = JobStatus.success.value ∨ row.status = JobStatus.needsHumanReview.value

/-- The row of the job a message is about is final. -/
def Resolved (s : SystemState) (message : Message) : Prop :=
  ∃ jobId row, Names message jobId ∧ s.jobs jobId = some row ∧ row.Final

/-- The columns that are written once. -/
structure SameJob (row row' : JobModel) : Prop where
  id : row'.id = row.id
  url : row'.url = row.url
  domain : row'.domain = row.domain
  requiredFields : row'.requiredFields = row.requiredFields

theorem SameJob.refl (row : JobModel) : SameJob row row := ⟨rfl, rfl, rfl, rfl⟩

theorem SameJob.trans {row row' row'' : JobModel} (h : SameJob row row')
    (h' : SameJob row' row'') : SameJob row row'' :=
  ⟨h'.id.trans h.id, h'.url.trans h.url, h'.domain.trans h.domain,
    h'.requiredFields.trans h.requiredFields⟩

theorem sameJob_written (mode : WriteMode) (loaded model row : JobModel) :
    SameJob row (written mode loaded model row) := by
  cases mode <;> exact ⟨rfl, rfl, rfl, rfl⟩

/-- A job waits for a recovery that nothing in the stream will start. -/
def Uncovered (s : SystemState) (jobId : String) : Prop :=
  (∃ row, s.jobs jobId = some row ∧ row.status = JobStatus.recoveryPending.value) ∧
    ¬HasEntry s jobId

/-- `good` is what is known of the results of successful jobs, by their required fields. -/
structure SystemInv (mode : WriteMode) (good : List String → Json → Prop) (s : SystemState) :
    Prop where
  ids : ∀ jobId row, s.jobs jobId = some row → row.id = jobId
  entries : ∀ message ∈ s.stream.entries, ∃ jobId row,
    Names message jobId ∧ s.jobs jobId = some row
  acked : ∀ message ∈ s.stream.entries, s.stream.Acked message → Resolved s message
  success : mode = .atomic → ∀ jobId row, s.jobs jobId = some row →
    row.status = JobStatus.success.value → good row.requiredFields row.result

section Inv

variable {mode : WriteMode} {good : List String → Json → Prop} {s : SystemState} {jobId : String}

theorem SystemInv.initial : SystemInv mode good SystemState.initial :=
  ⟨nofun, nofun, nofun, nofun⟩

/-- Writing a row of a job whose row was not final, or is so afterwards too. -/
theorem SystemInv.setJob (h : SystemInv mode good s) {row : JobModel} (hid : row.id = jobId)
    (hfinal : HasEntry s jobId → row.Final)
    (hgood : mode = .atomic → row.status = JobStatus.success.value →
      good row.requiredFields row.result) : SystemInv mode good (s.setJob jobId row) := by
  refine ⟨?_, ?_, ?_, ?_⟩
  · intro id r hr
    rcases SystemState.setJob_cases hr with ⟨rfl, rfl⟩ | ⟨-, hr⟩
    · exact hid
    · exact h.ids id r hr
  · intro message hm
    obtain ⟨id, r, hname, hr⟩ := h.entries message hm
    by_cases hj : id = jobId
    · exact ⟨id, row, hname, by subst hj; simp⟩
    · exact ⟨id, r, hname, by rw [s.setJob_jobs_of_ne row hj, hr]⟩
  · intro message hm hack
    obtain ⟨id, r, hname, hr, hfin⟩ := h.acked message hm hack
    by_cases hj : id = jobId
    · subst hj
      exact ⟨id, row, hname, by simp, hfinal ⟨message, hm, hname⟩⟩
    · exact ⟨id, r, hname, by rw [s.setJob_jobs_of_ne row hj, hr], hfin⟩
  · intro hmode id r hr
    rcases SystemState.setJob_cases hr with ⟨rfl, rfl⟩ | ⟨-, hr⟩
    · exact hgood hmode
    · exact h.success hmode id r hr

/-- Commands that keep the log and acknowledge only resolved entries. -/
theorem SystemInv.withStream (h : SystemInv mode good s) {stream : Stream (Dict String String)}
    (hent : stream.entries = s.stream.entries)
    (hack : ∀ message ∈ s.stream.entries, stream.Acked message →
      s.stream.Acked message ∨ Resolved s message) :
    SystemInv mode good { s with stream := stream } := by
  refine ⟨h.ids, ?_, ?_, h.success⟩
  · intro message hm
    exact h.entries message (hent ▸ hm)
  · intro message hm ha
    have hm' : message ∈ s.stream.entries := hent ▸ hm
    rcases hack message hm' ha with hold | hres
    · exact h.acked message hm' hold
    · exact hres

end Inv

/-! ## relies -/

/-- As long as its job has no entry, a request is alone with the row. -/
def gatewayRely (jobId : String) : Rely SystemState where
  rel s s' := ¬HasEntry s jobId → ¬HasEntry s' jobId ∧ s'.jobs jobId = s.jobs jobId
  refl _ h := ⟨h, rfl⟩
  trans h h' hno := by
    obtain ⟨hno', heq⟩ := h hno
    obtain ⟨hno'', heq'⟩ := h' hno'
    exact ⟨hno'', heq'.trans heq⟩

/-- Entries stay, and so do the rows that have one; a final status stays final. -/
structure Kept (s s' : SystemState) : Prop where
  entries : ∀ message ∈ s.stream.entries, message ∈ s'.stream.entries
  rows : ∀ jobId row, s.jobs jobId = some row → HasEntry s jobId →
    ∃ row', s'.jobs jobId = some row' ∧ SameJob row row' ∧ (row.Final → row'.Final)

theorem Kept.hasEntry {s s' : SystemState} (h : Kept s s') {jobId : String}
    (he : HasEntry s jobId) : HasEntry s' jobId := by
  obtain ⟨message, hmem, hname⟩ := he
  exact ⟨message, h.entries message hmem, hname⟩

theorem Kept.refl (s : SystemState) : Kept s s :=
  ⟨fun _ h => h, fun _ row h _ => ⟨row, h, SameJob.refl row, id⟩⟩

theorem Kept.trans {s s' s'' : SystemState} (h : Kept s s') (h' : Kept s' s'') : Kept s s'' := by
  refine ⟨fun message hm => h'.entries message (h.entries message hm), ?_⟩
  intro jobId row hrow he
  obtain ⟨row', hrow', hsame, hfinal⟩ := h.rows jobId row hrow he
  obtain ⟨row'', hrow'', hsame', hfinal'⟩ := h'.rows jobId row' hrow' (h.hasEntry he)
  exact ⟨row'', hrow'', hsame.trans hsame', hfinal' ∘ hfinal⟩

theorem Kept.resolved {s s' : SystemState} (h : Kept s s') {message : Message}
    (hmem : message ∈ s.stream.entries) (hr : Resolved s message) : Resolved s' message := by
  obtain ⟨jobId, row, hname, hrow, hfinal⟩ := hr
  obtain ⟨row', hrow', -, hfinal'⟩ := h.rows jobId row hrow ⟨message, hmem, hname⟩
  exact ⟨jobId, row', hname, hrow', hfinal' hfinal⟩

def consumerRely : Rely SystemState where
  rel := Kept
  refl := Kept.refl
  trans := Kept.trans

/-! ## guarantees -/

structure GatewayGuar (jobId : String) (s s' : SystemState) : Prop where
  others : ∀ id, id ≠ jobId → s'.jobs id = s.jobs id
  covered : HasEntry s jobId → s'.jobs jobId = s.jobs jobId
  changed : ∀ row, s.jobs jobId = some row →
    s'.jobs jobId = some row ∨ row.status = JobStatus.pending.value
  entries : ∀ message ∈ s.stream.entries, message ∈ s'.stream.entries
  added : ∀ message ∈ s'.stream.entries, message ∈ s.stream.entries ∨ Names message jobId
  acked : ∀ message ∈ s.stream.entries, s'.stream.Acked message → s.stream.Acked message

structure ConsumerGuar (s s' : SystemState) : Prop where
  entries : s'.stream.entries = s.stream.entries
  rows : ∀ jobId, s'.jobs jobId = s.jobs jobId ∨ ∃ row row', s.jobs jobId = some row ∧
    s'.jobs jobId = some row' ∧ HasEntry s jobId ∧ SameJob row row' ∧ row'.Final
  acked : ∀ message ∈ s.stream.entries, s'.stream.Acked message →
    s.stream.Acked message ∨ Resolved s message

theorem GatewayGuar.refl (jobId : String) (s : SystemState) : GatewayGuar jobId s s :=
  ⟨fun _ _ => rfl, fun _ => rfl, fun _ h => Or.inl h, fun _ h => h, fun _ h => Or.inl h,
    fun _ _ h => h⟩

theorem ConsumerGuar.refl (s : SystemState) : ConsumerGuar s s :=
  ⟨rfl, fun _ => Or.inl rfl, fun _ _ h => Or.inl h⟩

section Guarantees

variable {s s' : SystemState} {jobId jobId' : String}

theorem GatewayGuar.kept (h : GatewayGuar jobId s s') : Kept s s' := by
  refine ⟨h.entries, fun id row hrow he => ⟨row, ?_, SameJob.refl row, fun hf => hf⟩⟩
  by_cases hid : id = jobId
  · subst hid
    rw [h.covered he, hrow]
  · rw [h.others id hid, hrow]

theorem ConsumerGuar.kept (h : ConsumerGuar s s') : Kept s s' := by
  refine ⟨fun message hm => by rw [h.entries]; exact hm, fun id row hrow _ => ?_⟩
  rcases h.rows id with heq | ⟨row₀, row', hrow₀, hrow', -, hsame, hfinal⟩
  · exact ⟨row, heq.trans hrow, SameJob.refl row, fun hf => hf⟩
  · rw [hrow] at hrow₀
    cases hrow₀
    exact ⟨row', hrow', hsame, fun _ => hfinal⟩

theorem GatewayGuar.hasEntry (h : GatewayGuar jobId s s') (hne : jobId' ≠ jobId)
    (he : HasEntry s' jobId') : HasEntry s jobId' := by
  obtain ⟨message, hmem, hname⟩ := he
  rcases h.added message hmem with hold | hnew
  · exact ⟨message, hold, hname⟩
  · exact absurd (hname.unique hnew) hne

theorem ConsumerGuar.hasEntry (h : ConsumerGuar s s') :
    HasEntry s' jobId ↔ HasEntry s jobId := by
  unfold HasEntry
  rw [h.entries]

theorem GatewayGuar.rely (h : GatewayGuar jobId s s') (hne : jobId' ≠ jobId) :
    (gatewayRely jobId').rel s s' :=
  fun hno => ⟨fun he => hno (h.hasEntry hne he), h.others jobId' hne⟩

theorem ConsumerGuar.rely (h : ConsumerGuar s s') : (gatewayRely jobId).rel s s' := by
  intro hno
  refine ⟨fun he => hno (h.hasEntry.mp he), ?_⟩
  -- a consumer touches rows with an entry only
  rcases h.rows jobId with heq | ⟨_, _, -, -, he, -⟩
  · exact heq
  · exact absurd he hno

end Guarantees

/-! ## the discipline -/

/-- `strict` excludes that a request fails and leaves its job uncovered. -/
def discipline (X : Services) (mode : WriteMode) (good : List String → Json → Prop)
    (strict : Prop) : Machine.Discipline SystemPort PyError SystemRole SystemState where
  inv := SystemInv mode good
  rely
    | .gateway jobId => gatewayRely jobId
    | .consumer _ => consumerRely
  guar
    | .gateway jobId => fun _ => GatewayGuar jobId
    | .consumer _ => fun _ => ConsumerGuar
  sem
    | .gateway jobId => fun op s r s' => withFaults (commandOk X mode) op s r s' ∧
        (strict → ∀ e, r = .error e → ¬Uncovered s' jobId)
    | .consumer _ => withFaults (commandOk X mode)
  fresh
    | .gateway jobId => fun s => s.jobs jobId = none ∧ ¬HasEntry s jobId
    | .consumer _ => fun _ => True
  post
    | .gateway jobId => fun _ s => strict → ¬Uncovered s jobId
    | .consumer _ => fun _ _ => True

end Sentinel
