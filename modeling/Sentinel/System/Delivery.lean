import Sentinel.System.Runs

/-!
# Delivery

What happens to a message of the recovery stream, whatever the interleaving, the faults and the
deaths: it is never lost, and it is acknowledged only after its job has been resolved.

* `message_delivered` — the guarantee
* `titleRun` — a run of the system in which a job is recovered
-/

namespace Sentinel

open Lib Machine RecoveryQueueConsumer

section Delivery

variable {X : Services} {mode : WriteMode} {c c' : SystemPool}

/-- Without anything to say about results, any services will do. -/
theorem any_sound (X : Services) (mode : WriteMode) :
    (systemMachine X mode).Sound anyStep (discipline X mode (fun _ _ => True) False)
      fun _ => True :=
  system_sound (fun _ _ _ _ _ _ => trivial) (fun _ _ _ _ _ => trivial) nofun

theorem run_inv (h : (systemMachine X mode).Steps anyStep systemInitial c) :
    SystemInv mode (fun _ _ => True) c.state :=
  (run_ok (any_sound X mode) h).inv

/-- A message that a step makes acknowledged is about a job that was resolved before the step. -/
theorem acked_resolved (h : (systemMachine X mode).Steps anyStep systemInitial c)
    {l : Label SystemPort PyError SystemRole} (hf : (systemMachine X mode).Fire c l c')
    {message : Message} (hm : message ∈ c.state.stream.entries)
    (hnew : c'.state.stream.Acked message) (hold : ¬c.state.stream.Acked message) :
    Resolved c.state message := by
  cases hf with
  | spawn => exact absurd hnew hold
  | crash => exact absurd hnew hold
  | env henv =>
    obtain ⟨d, rfl⟩ := henv
    exact absurd hnew hold
  | @call i op k r s' hi hsem =>
    have hguar := run_guar (any_sound X mode) h (Fire.call hi hsem) trivial
    cases i with
    | gateway jobId => exact absurd (GatewayGuar.acked hguar message hm hnew) hold
    | consumer n =>
      rcases ConsumerGuar.acked hguar message hm hnew with hack | hres
      · exact absurd hack hold
      · exact hres

/-- The row of a job with an entry is found. -/
theorem selectJob_found (h : (systemMachine X mode).Steps anyStep systemInitial c) {i : SystemRole}
    {jobId : String}
    (hf : (systemMachine X mode).Fire c (.call i (.selectJob jobId) (.ok none)) c') :
    ¬HasEntry c.state jobId := by
  rintro ⟨message, hm, hname⟩
  obtain ⟨jobId', row, hname', hrow⟩ := (run_inv h).entries message hm
  cases hname.unique hname'
  cases hf with
  | call hi hsem =>
    obtain ⟨hnone, -⟩ := commandOk_selectJob hsem
    rw [hrow] at hnone
    cases hnone

/-- What `XADD` reports is in the log. -/
theorem xadd_entry {i : SystemRole} {fields : Dict String String} {id : Nat}
    (hf : (systemMachine X mode).Fire c (.call i (.xadd fields) (.ok id)) c') :
    (⟨id, fields⟩ : Message) ∈ c'.state.stream.entries := by
  cases hf with
  | @call _ _ _ _ s' hi hsem =>
    obtain ⟨hadd, -⟩ := commandOk_xadd hsem
    have hid : id = c.state.stream.lastId + 1 := (congrArg Prod.fst hadd).symm
    have hstream : s'.stream = (c.state.stream.xadd fields).2 := (congrArg Prod.snd hadd).symm
    show _ ∈ s'.stream.entries
    rw [hid, hstream, Stream.entries_xadd]
    exact List.mem_append_right _ (List.mem_singleton_self _)

/--
**No message is lost or acknowledged early.** Take any state `c` of any run.

* Each message in the log is undelivered, pending or acknowledged, and if it is acknowledged its
  job is resolved: the row is there, with status `success` or `needs_human_review`.
* In every later state the message is still in the log, and a resolved job is still resolved.
* Whatever step comes next: it acknowledges only messages whose job is resolved; what `XADD`
  reports to a request is in the log; and no lookup of a job that has a message finds no row.
-/
theorem message_delivered (X : Services) (mode : WriteMode)
    (h : (systemMachine X mode).Steps anyStep systemInitial c) :
    (∀ message ∈ c.state.stream.entries,
      (c.state.stream.Undelivered message ∨ c.state.stream.IsPending message ∨
        c.state.stream.Acked message) ∧
      (c.state.stream.Acked message → Resolved c.state message)) ∧
    (∀ c', (systemMachine X mode).Steps anyStep c c' → ∀ message ∈ c.state.stream.entries,
      message ∈ c'.state.stream.entries ∧ (Resolved c.state message → Resolved c'.state message)) ∧
    ∀ l c', (systemMachine X mode).Fire c l c' →
      (∀ message ∈ c.state.stream.entries, c'.state.stream.Acked message →
        ¬c.state.stream.Acked message → Resolved c.state message) ∧
      (∀ i fields id, l = .call i (.xadd fields) (.ok id) →
        (⟨id, fields⟩ : Message) ∈ c'.state.stream.entries) ∧
      ∀ i jobId, l = .call i (.selectJob jobId) (.ok none) → ¬HasEntry c.state jobId := by
  refine ⟨fun message hm => ⟨c.state.stream.undelivered_or_pending_or_acked hm,
    (run_inv h).acked message hm⟩, fun c' h' message hm => ?_, fun l c' hf => ⟨?_, ?_, ?_⟩⟩
  · have hkept := run_kept (any_sound X mode) h h'
    exact ⟨hkept.entries message hm, hkept.resolved hm⟩
  · exact fun message hm hnew hold => acked_resolved h hf hm hnew hold
  · rintro i fields id rfl
    exact xadd_entry hf
  · rintro i jobId rfl
    exact selectJob_found h hf

end Delivery

/-! ## a run -/

/-- Every extraction misses a field; the recovery of the first consumer yields a title, that of
the others gives up. -/
def titleReplies : SystemRole → Replies
  | .consumer 0 =>
    { extract := fun _ _ _ => { success := false }
      ainvoke := fun state => { state with
        finalStatus := some .success, recoveredData := .obj [("title", .str "Hat")] } }
  | _ =>
    { extract := fun _ _ _ => { success := false, failureReason := some .missingRequiredField }
      ainvoke := fun state => { state with finalStatus := some .needsHumanReview } }

/-- The calls of the scripts below. -/
def titleStep (i : SystemRole) : (op : SystemPort.Op) → SystemState →
    Except PyError (SystemPort.Ans op) × SystemState :=
  commandStep .atomic (titleReplies i)

theorem titleReplies_traceContext (i : SystemRole) :
    (titleReplies i).traceContext = Dict.empty := by
  unfold titleReplies
  split <;> rfl

theorem titleStep_faulty (i : SystemRole) (op : SystemPort.Op) (s : SystemState) :
    (systemMachine anyServices .atomic).sem i op s (titleStep i op s).1 (titleStep i op s).2 := by
  refine stepFaulty ?_ s
  cases op with
  | injectTraceContext =>
    show (titleReplies i).traceContext.get? "job_id" = none
    rw [titleReplies_traceContext]
    rfl
  | _ => trivial

abbrev SystemMove := Move SystemPort PyError SystemRole SystemState

/-- A request for one field, up to the end of its `n`-th call. -/
def titleRequest (n : Nat) : List SystemMove :=
  [.spawn (.gateway "7") (ProcessScrapeRequestUseCase.execute "7" "https://shop.test/1"
      "shop.test" ["title"] >>= fun _ => pure ()),
    .turn (.gateway "7") n]

def titleMessage : Message := ⟨1, Dict.empty.set "job_id" "7"⟩

/-- The whole request, and a consumer that recovers the job and acknowledges the message. -/
def titleRun : List SystemMove :=
  titleRequest 7 ++ [.spawn (.consumer 0) (processNextJob ⟨"consumer-1", 3⟩ >>= fun _ => pure ()),
    .turn (.consumer 0) 7]

theorem titleRun_steps : (systemMachine anyServices .atomic).Steps anyStep systemInitial
    (play titleStep titleRun systemInitial) := by
  refine Steps.play titleStep_faulty titleRun systemInitial ?_
  exact ⟨⟨⟨rfl, .request _ _ _ _⟩, trivial⟩, turnAllowed_anyStep _ _ _,
    ⟨⟨rfl, .next _ _⟩, trivial⟩, turnAllowed_anyStep _ _ _, trivial⟩

/-- At the end of the run the message is acknowledged, and so its job is resolved. -/
theorem message_delivered_titleRun :
    Resolved (play titleStep titleRun systemInitial).state titleMessage :=
  ((message_delivered anyServices .atomic titleRun_steps).1 titleMessage
    (List.mem_singleton_self _)).2 ⟨_, rfl, List.mem_singleton_self _⟩

end Sentinel
