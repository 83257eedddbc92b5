import Sentinel.Gateway.Api
import Sentinel.System.Lifecycle
import Sentinel.System.Delivery

/-!
# What clients are told

The gateway with its HTTP interface, in front of the system: posts that go through the limiter and
the use case, polls, consumers, the clock. Any call may raise and any process may die, so a client
may be left without an answer or with a 500. Any other answer is true.

* `apiMachine` — the machine
* `PostAnswer` — what an answer to a post says about the job
* `post_answer_true` — it says so truly when it is sent, and ever after if there is a job
* `poll_linearizes` — a poll answers what its own query has found at that moment
* `accepted_polls` — a job that was accepted is found by every later poll
-/

namespace Sentinel

open Lib Machine Prog GatewayApi RecoveryQueueConsumer

structure ApiState where
  system : SystemState
  counters : CounterStore

def ApiState.initial : ApiState := ⟨.initial, .empty⟩

/-- A post is known by the id its job gets, a poll by the job and a number. -/
inductive ApiRole
  | post (jobId : String)
  | poll (n : Nat) (jobId : String)
  | consumer (n : Nat)
deriving DecidableEq

/-- Who this is for the system behind. -/
def ApiRole.system : ApiRole → SystemRole
  | post jobId => .gateway jobId
  | poll n _ | consumer n => .consumer n

inductive ApiSpawn (limiter : RedisRateLimiter) : ApiRole → GatewayProg Unit → Prop
  | post (jobId clientIp : String) (json : Json) :
      ApiSpawn limiter (.post jobId) (postJobs limiter clientIp jobId json)
  | poll (n : Nat) (jobId : String) : ApiSpawn limiter (.poll n jobId) (getJobs jobId)
  | consumer {n : Nat} {p : SystemProg Unit} : SystemSpawn (.consumer n) p →
      ApiSpawn limiter (.consumer n) p.inl

def apiSem (X : Services) (mode : WriteMode) : (op : GatewayPort.Op) → ApiState →
    Except PyError (GatewayPort.Ans op) → ApiState → Prop
  | .inl op, t, r, t' =>
    withFaults (commandOk X mode) op t.system r t'.system ∧ t'.counters = t.counters
  | .inr (.inl op), t, r, t' =>
    withFaults (fun op s a s' => counterStep op s = (a, s')) op t.counters r t'.counters ∧
      t'.system = t.system
  | .inr (.inr _), t, _, t' => t' = t

def apiMachine (X : Services) (mode : WriteMode) (limiter : RedisRateLimiter) :
    Machine GatewayPort PyError ApiRole ApiState where
  sem _ op t r t' := apiSem X mode op t r t'
  spawn _ i p := ApiSpawn limiter i p
  env t t' := ∃ d, t' = ⟨{ t.system with now := t.system.now + d }, t.counters.wait d⟩
  crashes := True

abbrev ApiPool := Pool GatewayPort PyError ApiRole ApiState

def apiInitial : ApiPool := Pool.initial ApiState.initial

/-! ## a run -/

/-- The calls of the scripts below; the services answer as `titleReplies` does. -/
def apiStep (i : ApiRole) : (op : GatewayPort.Op) → ApiState →
    Except PyError (GatewayPort.Ans op) × ApiState
  | .inl op, t =>
    ((titleStep i.system op t.system).1, { t with system := (titleStep i.system op t.system).2 })
  | .inr (.inl op), t =>
    (.ok (counterStep op t.counters).1, { t with counters := (counterStep op t.counters).2 })
  | .inr (.inr (.respond _)), t => (.ok (), t)

theorem apiStep_faulty (i : ApiRole) (op : GatewayPort.Op) (t : ApiState) :
    (apiMachine anyServices .atomic {}).sem i op t (apiStep i op t).1 (apiStep i op t).2 :=
  match op with
  | .inl op => ⟨titleStep_faulty i.system op t.system, rfl⟩
  | .inr (.inl _) => ⟨rfl, rfl⟩
  | .inr (.inr (.respond _)) => rfl

def titleBody : Json :=
  .obj [("url", .str "https://shop.test/1"), ("domain", .str "shop.test"),
    ("required_fields", .arr [.str "title"])]

abbrev ApiMove := Move GatewayPort PyError ApiRole ApiState

/-- A post, up to its answer. -/
def postRun : List ApiMove :=
  [.spawn (.post "7") (postJobs {} "203.0.113.7" "7" titleBody), .turn (.post "7") 9]

def postPool : ApiPool := play apiStep postRun apiInitial

theorem postPool_run : (apiMachine anyServices .atomic {}).Steps anyStep apiInitial postPool :=
  Steps.play apiStep_faulty postRun _
    ⟨⟨⟨rfl, .post _ _ _⟩, trivial⟩, turnAllowed_anyStep _ _ _, trivial⟩

def acceptedBody : ScrapeResponseBody where
  jobId := "7"
  status := .recoveryPending
  result := none
  recoveryUsed := true
  pollUrl := some "/api/v1/jobs/7"

theorem postPool_fire : (apiMachine anyServices .atomic {}).Fire postPool
    (.call (.post "7") (.inr (.inr (.respond
      { status := 202, body := some acceptedBody.toJson })) : GatewayPort.Op) (.ok ()))
    (next apiStep (.post "7") postPool) :=
  Fire.next apiStep_faulty rfl

/-- What the answer says, and how the system has to be for it to be true. -/
inductive PostAnswer (jobId : String) (s : SystemState) : HttpResponse → Prop
  /-- Nothing is known. -/
  | error : PostAnswer jobId s { status := 500 }
  /-- The body was not accepted: there is no job. -/
  | invalid : s.jobs jobId = none → ¬HasEntry s jobId → PostAnswer jobId s { status := 422 }
  /-- The client has posted too often: there is no job. -/
  | refused : s.jobs jobId = none → ¬HasEntry s jobId →
      PostAnswer jobId s (httpException 429 "Rate limit exceeded")
  /-- The job has succeeded with this result, and nothing will touch it. -/
  | succeeded {job : Job} {body : ScrapeResponseBody} :
      Alone jobId (some (jobToModel job)) s → job.id = jobId → job.status = .success →
      ScrapeResponseBody.fromJob job = .ok body →
      PostAnswer jobId s { status := 200, body := some body.toJson }
  /-- The job is stored, and there is a message that will have it recovered. -/
  | accepted {row : JobModel} :
      s.jobs jobId = some row → HasEntry s jobId →
      PostAnswer jobId s { status := 202, body := some (ScrapeResponseBody.toJson
        { jobId := jobId, status := .recoveryPending, result := none, recoveryUsed := true
          pollUrl := some ("/api/v1/jobs/" ++ jobId) }) }
  /-- The job has failed for this reason, and nothing will touch it. -/
  | failed {job : Job} {reason : FailureReason} :
      Alone jobId (some (jobToModel job)) s → job.id = jobId → job.status = .failed →
      job.failureReason = some reason →
      PostAnswer jobId s
        { status := 422, body := some (ProblemDetail.validationFailed job).toJson }

section Answers

variable {X : Services} {mode : WriteMode} {jobId : String} {s s' : SystemState}
  {r : HttpResponse}

/-- What others do leaves an answer true. -/
theorem PostAnswer.rely (h : PostAnswer jobId s r) (hr : (gatewayRely jobId).rel s s')
    (hkept : Kept s s') : PostAnswer jobId s' r := by
  cases h with
  | error => exact .error
  | invalid hnone hno =>
    obtain ⟨hno', heq⟩ := hr hno
    exact .invalid (heq.trans hnone) hno'
  | refused hnone hno =>
    obtain ⟨hno', heq⟩ := hr hno
    exact .refused (heq.trans hnone) hno'
  | succeeded halone hid hst hbody => exact .succeeded (halone.rely hr) hid hst hbody
  | accepted hrow he =>
    obtain ⟨row', hrow', -⟩ := hkept.rows jobId _ hrow he
    exact .accepted hrow' (hkept.hasEntry he)
  | failed halone hid hst hreason => exact .failed (halone.rely hr) hid hst hreason

/-- So does the request itself, once there is a job and the answer is true. -/
theorem PostAnswer.request (h : PostAnswer jobId s r) (hsome : s.jobs jobId ≠ none)
    (hstep : RequestStep X jobId s s') : PostAnswer jobId s' r := by
  -- a row that is settled, or has an entry, is not one that a request goes on with
  have hcontra : ∀ {job}, Alone jobId (some (jobToModel job)) s →
      (job.status = .success ∨ job.status = .failed) → s' = s := by
    intro job halone hst
    cases hstep with
    | idle => rfl
    | create hnone _ => exact absurd hnone hsome
    | conclude halone' _ =>
      have hrow := congrArg JobModel.status (Option.some.inj (halone.1.symm.trans halone'.1))
      have hpending := JobStatus.value_inj.mp (show job.status.value = JobStatus.value .pending from
        hrow)
      rw [hpending] at hst
      rcases hst with h | h <;> cases h
    | @announce _ _ _ job' _ halone' _ hst' _ =>
      have hrow := congrArg JobModel.status (Option.some.inj (halone.1.symm.trans halone'.1))
      have hpending := JobStatus.value_inj.mp (show job.status.value = job'.status.value from hrow)
      rw [hpending, hst'] at hst
      rcases hst with h | h <;> cases h
  cases h with
  | error => exact .error
  | invalid hnone hno => exact absurd hnone hsome
  | refused hnone hno => exact absurd hnone hsome
  | succeeded halone hid hst hbody =>
    rw [hcontra halone (Or.inl hst)]
    exact .succeeded halone hid hst hbody
  | accepted hrow he =>
    cases hstep with
    | idle => exact .accepted hrow he
    | create hnone _ => exact absurd hnone hsome
    | conclude halone _ => exact absurd he halone.2
    | announce halone _ _ _ => exact absurd he halone.2
  | failed halone hid hst hreason =>
    rw [hcontra halone (Or.inr hst)]
    exact .failed halone hid hst hreason

/-- The end of the route: what is answered about a job that the use case has returned. -/
theorem answer_true {url domain : String} {requiredFields : List String} {job : Job}
    (h : Returned X jobId url domain requiredFields job s) (hr : answer job = .ok r) :
    PostAnswer jobId s r := by
  obtain ⟨hconcluded, hrow, hentry⟩ := h
  have hid := hconcluded.identity.1
  unfold answer at hr
  split at hr
  · next hst =>
    cases hbody : ScrapeResponseBody.fromJob job with
    | error e => rw [hbody] at hr; cases hr
    | ok body =>
      rw [hbody] at hr
      cases hr
      have hno : ¬HasEntry s jobId := fun he => by rw [hentry.mp he] at hst; cases hst
      exact .succeeded ⟨hrow, hno⟩ hid hst hbody
  · split at hr
    · next hst =>
      rw [hconcluded.waiting hst] at hr
      cases hr
      exact .accepted hrow (hentry.mpr hst)
    · next hns hnp =>
      cases hr
      have hno : ¬HasEntry s jobId := fun he => hnp (hentry.mp he)
      rcases hconcluded.cases with ⟨_, rfl⟩ | rfl | ⟨reason, rfl⟩
      · exact absurd rfl hns
      · exact absurd rfl hnp
      · exact .failed ⟨hrow, hno⟩ hid rfl rfl

end Answers

/-! ## the discipline -/

/-- What an answer owes to the client of this role. -/
def AnswerTrue : ApiRole → SystemState → HttpResponse → Prop
  | .post jobId, s, r => PostAnswer jobId s r
  | _, _, _ => True

/-- What holds of the system behind the interface. -/
structure ApiInv (mode : WriteMode) (s : SystemState) : Prop where
  inv : SystemInv mode (fun _ _ => True) s
  tracked : Tracked s

def apiDiscipline (X : Services) (mode : WriteMode) :
    Machine.Discipline GatewayPort PyError ApiRole ApiState where
  inv t := ApiInv mode t.system
  rely i :=
    { rel := fun t t' => ((requestDiscipline X mode).rely i.system).rel t.system t'.system ∧
        Kept t.system t'.system
      refl := fun _ => ⟨((requestDiscipline X mode).rely i.system).refl _, Kept.refl _⟩
      trans := fun h h' => ⟨((requestDiscipline X mode).rely i.system).trans h.1 h'.1,
        h.2.trans h'.2⟩ }
  guar i op t t' :=
    match op with
    | .inl op => (requestDiscipline X mode).guar i.system op t.system t'.system
    | .inr (.inl _) => t'.system = t.system
    | .inr (.inr (.respond r)) => t' = t ∧ AnswerTrue i t.system r
  sem _ op t r t' := apiSem X mode op t r t'
  fresh i t := (requestDiscipline X mode).fresh i.system t.system
  post _ _ _ := True

section Safety

variable {X : Services} {mode : WriteMode} {jobId : String} {t t' : ApiState} {i : ApiRole}

abbrev ApiSafe (X : Services) (mode : WriteMode) (i : ApiRole) {α : Type} (p : GatewayProg α)
    (Q : Except PyError α → ApiState → Prop) (t : ApiState) : Prop :=
  p.Safe ((apiDiscipline X mode).contract i) Q t

/-- A program of the system keeps its promises behind the interface. -/
theorem useCase_safe {α : Type} {p : SystemProg α} {Q : Except PyError α → SystemState → Prop}
    (h : p.Safe ((requestDiscipline X mode).contract i.system) Q t.system) :
    ApiSafe X mode i p.inl (fun out t => Q out t.system) t := by
  have hsem : ∀ (op : SystemPort.Op) (t : ApiState) (r : Except PyError (SystemPort.Ans op))
      (t' : ApiState), apiSem X mode (.inl op) t r t' →
      ((requestDiscipline X mode).contract i.system).sem op t.system r t'.system := by
    rintro op t r t' ⟨hsem, -⟩
    cases i.system with
    | consumer n => exact hsem
    | gateway id => exact ⟨hsem, nofun⟩
  have hguar : ∀ (op : SystemPort.Op) (t t' : ApiState),
      ApiInv mode t.system → (requestDiscipline X mode).guar i.system op t.system t'.system →
      SystemInv mode (fun _ _ => True) t'.system →
      (apiDiscipline X mode).guar i (.inl op) t t' ∧ ApiInv mode t'.system :=
    fun op t t' hi hguar hinv' => ⟨hguar, hinv', (row_step hguar hi.tracked).1⟩
  exact h.inl (fun _ _ hr => And.left hr) (fun _ hi => ApiInv.inv hi)
    (fun op t r t' _ => hsem op t r t') fun op t _ t' hi _ hg hinv' => hguar op t t' hi hg hinv'

/-- Asking the limiter leaves the system alone. -/
theorem rateLimiter_safe {α : Type} (p : RateLimiterProg α) (h : Alone jobId none t.system) :
    ApiSafe X mode (.post jobId) (rateLimiter p) (fun _ t => Alone jobId none t.system) t := by
  have honly : (rateLimiter p).Only fun op : GatewayPort.Op =>
      ∃ o : RateLimiterOp, op = Sum.inr (Sum.inl o) := by
    refine Only.inr (P := fun op => ∃ o : RateLimiterOp, op = Sum.inl o) ?_ ?_
    · exact (only_true p).inl fun op _ => ⟨op, rfl⟩
    · rintro op ⟨o, rfl⟩
      exact ⟨o, rfl⟩
  refine honly.safe_keeps (J := fun t : ApiState => Alone jobId none t.system)
    (fun s s' hs hr => ?_) ?_ h
  · exact hs.rely hr.1
  · rintro op s r s' ⟨o, rfl⟩ hinv hs ⟨-, hsame⟩
    have hsame : s'.system = s.system := hsame
    refine ⟨⟨hsame, ?_⟩, ?_⟩
    · show ApiInv mode s'.system
      rw [hsame]
      exact hinv
    · rw [hsame]
      exact hs

/-- The rule of `serve`: what the route returns is answered, if it is still true. -/
theorem serve_safe {route : GatewayProg HttpResponse}
    (h : ApiSafe X mode i route (fun out t => ∀ r, out = .ok r → AnswerTrue i t.system r) t)
    (herror : ∀ s, AnswerTrue i s { status := 500 })
    (hstable : ∀ r t t', AnswerTrue i t.system r →
      ((apiDiscipline X mode).contract i).rely.rel t t' → AnswerTrue i t'.system r) :
    ApiSafe X mode i (GatewayApi.serve route) (fun _ _ => True) t := by
  refine Safe.bind (Q := fun out t => ∀ r, out = .ok r → AnswerTrue i t.system r) ?_ ?_
    fun _ _ _ => trivial
  · refine h.handle (fun _ _ h => h) fun e t _ => ?_
    rintro r ⟨⟩
    exact herror _
  · intro r t hr
    refine safe_perform.mpr ?_
    rintro t₁ hrely hinv out t₂ hsem
    have hsem : t₂ = t₁ := hsem
    subst hsem
    exact ⟨⟨⟨rfl, hstable r t t₂ (hr r rfl) hrely⟩, hinv⟩, trivial⟩

theorem createScrapeJob_safe (limiter : RedisRateLimiter) (clientIp : String)
    (body : CreateScrapeRequestBody) (h : Alone jobId none t.system) :
    ApiSafe X mode (.post jobId) (createScrapeJob limiter clientIp jobId body)
      (fun out t => ∀ r, out = .ok r → PostAnswer jobId t.system r) t := by
  unfold createScrapeJob
  refine (rateLimiter_safe _ h).bind (fun allowed t₁ h₁ => ?_) fun _ _ _ => nofun
  split
  · have hsafe : (ProcessScrapeRequestUseCase.execute jobId body.url body.domain
        body.requiredFields).Safe ((requestDiscipline X mode).contract (.gateway jobId))
          (fun out s => True ∧ ∀ job, out = .ok job →
            Returned X jobId body.url body.domain body.requiredFields job s) t₁.system :=
      (Safe.of_bind (execute_safe (fun _ _ _ _ _ _ => trivial) _ _ _ h₁)).layer
        (execute_steps _ _ _ h₁)
    refine (useCase_safe (i := .post jobId) hsafe).bind (fun job t₂ h₂ => ?_) fun _ _ _ => nofun
    have hreturned := h₂.2 job rfl
    cases hr : answer job with
    | error e => exact nofun
    | ok r =>
      rintro _ ⟨⟩
      exact answer_true hreturned hr
  · rintro _ ⟨⟩
    exact .refused h₁.1 h₁.2

theorem postJobs_safe (limiter : RedisRateLimiter) (clientIp : String) (json : Json)
    (h : Alone jobId none t.system) :
    ApiSafe X mode (.post jobId) (postJobs limiter clientIp jobId json) (fun _ _ => True) t := by
  refine serve_safe ?_ (fun _ => .error) fun r t t' hr hrely => PostAnswer.rely hr hrely.1 hrely.2
  split
  · rintro _ ⟨⟩
    exact .invalid h.1 h.2
  · exact createScrapeJob_safe limiter clientIp _ h

/-- A poll only reads. -/
theorem getJobs_safe (n : Nat) (id : String) :
    ApiSafe X mode (.poll n id) (getJobs id) (fun _ _ => True) t := by
  have hget : (SqlAlchemyJobRepository.get id).Only (· = SystemOp.selectJob id) := by
    refine Only.bind (only_perform rfl) fun model => ?_
    cases model with
    | none => trivial
    | some model => exact Only.bind (only_lift _) fun _ => trivial
  have hroute : (getJob id).Only (· = Sum.inl (SystemOp.selectJob id)) := by
    refine Only.bind (hget.inl fun op h => congrArg Sum.inl h) fun job => ?_
    exact only_lift _
  refine serve_safe ?_ (fun _ => trivial) fun _ _ _ _ _ => trivial
  refine hroute.safe ?_ (fun _ _ _ _ => trivial) t
  rintro op s r s' rfl hinv ⟨hsem, -⟩
  have hsame : s'.system = s.system := by
    cases r with
    | ok a => exact (commandOk_selectJob hsem).2
    | error e =>
      rcases hsem with h | ⟨a, h⟩
      · exact h
      · exact (commandOk_selectJob h).2
  refine ⟨?_, ?_⟩
  · show ConsumerGuar s.system s'.system ∧ True
    rw [hsame]
    exact ⟨ConsumerGuar.refl _, trivial⟩
  · show ApiInv mode s'.system
    rw [hsame]
    exact hinv

theorem consumer_api_safe {n : Nat} {p : SystemProg Unit} (hp : SystemSpawn (.consumer n) p) :
    ApiSafe X mode (.consumer n) p.inl (fun _ _ => True) t := by
  have hbase : p.Safe ((discipline X mode (fun _ _ => True) False).contract (.consumer n))
      (fun _ _ => True) t.system :=
    systemSpawn_safe (fun _ _ _ _ _ _ => trivial) (fun _ _ _ _ _ => trivial) hp trivial
  exact (useCase_safe (i := .consumer n) (hbase.layer (consumer_steps p t.system))).mono
    fun _ _ _ => trivial

/-- What one process promises is among what every other one counts on. -/
theorem api_rely {i j : ApiRole} {op : GatewayPort.Op} (hij : i ≠ j)
    (h : (apiDiscipline X mode).guar i op t t') :
    ((requestDiscipline X mode).rely j.system).rel t.system t'.system ∧
      Kept t.system t'.system := by
  have hsame : t'.system = t.system →
      ((requestDiscipline X mode).rely j.system).rel t.system t'.system ∧
        Kept t.system t'.system := by
    intro heq
    rw [heq]
    exact ⟨((requestDiscipline X mode).rely j.system).refl _, Kept.refl _⟩
  match op, h with
  | .inl op, h =>
    have hguar : (discipline X mode (fun _ _ => True) False).guar i.system op t.system t'.system :=
      h.1
    refine ⟨?_, guar_kept hguar⟩
    cases j with
    | post id =>
      refine guar_gatewayRely (fun he => hij ?_) hguar
      cases i with
      | post id' => exact congrArg ApiRole.post (SystemRole.gateway.inj he)
      | poll n id' => cases he
      | consumer n => cases he
    | poll n id => exact guar_kept hguar
    | consumer n => exact guar_kept hguar
  | .inr (.inl _), h => exact hsame h
  | .inr (.inr (.respond _)), h => exact hsame (congrArg ApiState.system h.1)

theorem api_sound (X : Services) (mode : WriteMode) (limiter : RedisRateLimiter) :
    (apiMachine X mode limiter).Sound anyStep (apiDiscipline X mode) fun _ => True where
  sem hsem _ := hsem
  spawn := by
    intro c i p hp _ hfresh
    cases hp with
    | post id clientIp json => exact postJobs_safe limiter clientIp json hfresh
    | poll n id => exact getJobs_safe n id
    | consumer hp => exact consumer_api_safe hp
  compat := fun _ _ _ hij _ _ hguar => api_rely hij hguar
  freshStable := by
    intro i j op t t' hij _ hguar hfresh
    have hrely := (api_rely hij hguar).1
    cases j with
    | post id =>
      obtain ⟨hno', heq⟩ := hrely hfresh.2
      exact ⟨heq.trans hfresh.1, hno'⟩
    | poll n id => trivial
    | consumer n => trivial
  env := by
    rintro t t' ⟨d, rfl⟩ ⟨hinv, htracked⟩
    have hclock : ∀ i, ((discipline X mode (fun _ _ => True) False).rely i).rel t.system
        { t.system with now := t.system.now + d } := fun i => clock_rely i t.system d
    refine ⟨⟨⟨hinv.ids, hinv.entries, hinv.acked, hinv.success⟩, htracked.status,
      htracked.covered⟩, fun j => ⟨hclock j.system, hclock (.consumer 0)⟩, fun j hfresh => ?_⟩
    have hfresh : (discipline X mode (fun _ _ => True) False).fresh j.system t.system := hfresh
    exact show (discipline X mode (fun _ _ => True) False).fresh j.system _ from
      clock_fresh d hfresh

end Safety

/-! ## runs -/

section Runs

variable {X : Services} {mode : WriteMode} {limiter : RedisRateLimiter} {c c' : ApiPool}
  {jobId : String} {r : HttpResponse}

abbrev ApiRun (X : Services) (mode : WriteMode) (limiter : RedisRateLimiter) (c c' : ApiPool) :
    Prop :=
  (apiMachine X mode limiter).Steps anyStep c c'

abbrev ApiFire (X : Services) (mode : WriteMode) (limiter : RedisRateLimiter) (c : ApiPool)
    (l : Label GatewayPort PyError ApiRole) (c' : ApiPool) : Prop :=
  (apiMachine X mode limiter).Fire c l c'

/-- The call that sends an answer. -/
abbrev sends (i : ApiRole) (r : HttpResponse) (out : Except PyError Unit) :
    Label GatewayPort PyError ApiRole :=
  .call i (.inr (.inr (.respond r)) : GatewayPort.Op) out

theorem api_start : Ok (apiDiscipline X mode) apiInitial := by
  have hfresh : ∀ i, (discipline X mode (fun _ _ => True) False).fresh i SystemState.initial :=
    initial_fresh
  exact Ok.initial (s := ApiState.initial) ⟨SystemInv.initial, Tracked.initial⟩
    fun i => hfresh i.system

theorem api_inv (hrun : ApiRun X mode limiter apiInitial c) : ApiInv mode c.state.system :=
  ((api_sound X mode limiter).ok (fun _ _ => trivial) api_start hrun).inv

theorem api_guar (hrun : ApiRun X mode limiter apiInitial c) {i : ApiRole} {op : GatewayPort.Op}
    {out : Except PyError (GatewayPort.Ans op)}
    (hf : ApiFire X mode limiter c (.call i op out) c') :
    (apiDiscipline X mode).guar i op c.state c'.state :=
  (api_sound X mode limiter).call (fun _ _ => trivial) api_start hrun hf trivial

/-- One step of the whole, as the system behind sees it. -/
theorem api_step (hrun : ApiRun X mode limiter apiInitial c)
    {l : Label GatewayPort PyError ApiRole} (hf : ApiFire X mode limiter c l c') :
    (∃ i op, (requestDiscipline X mode).guar i op c.state.system c'.state.system) ∨
      ∃ d, c'.state.system = { c.state.system with now := c.state.system.now + d } := by
  cases hf with
  | spawn => exact Or.inr ⟨0, rfl⟩
  | crash => exact Or.inr ⟨0, rfl⟩
  | env henv =>
    obtain ⟨d, rfl⟩ := henv
    exact Or.inr ⟨d, rfl⟩
  | @call i op k out s' hi hsem =>
    have hguar := api_guar hrun (Fire.call hi hsem)
    match op, hguar with
    | .inl op, hguar => exact Or.inl ⟨i.system, op, hguar⟩
    | .inr (.inl _), hguar => exact Or.inr ⟨0, hguar⟩
    | .inr (.inr (.respond _)), hguar => exact Or.inr ⟨0, congrArg ApiState.system hguar.1⟩

/-- **The life cycle of a job**, as of the system alone. -/
theorem api_lifecycle (hrun : ApiRun X mode limiter apiInitial c)
    (hrun' : ApiRun X mode limiter c c') {row : JobModel}
    (hrow : c.state.system.jobs jobId = some row) :
    ∃ row', c'.state.system.jobs jobId = some row' ∧ RowLived row row' := by
  refine hrun'.induct
    (P := fun c' => ∃ row', c'.state.system.jobs jobId = some row' ∧ RowLived row row') ?_ ?_
  · obtain ⟨st, hst⟩ := (api_inv hrun).tracked.status jobId row hrow
    exact ⟨row, hrow, .refl hst⟩
  · rintro c₁ l c₂ hsteps ⟨row₁, hrow₁, hlived⟩ hf -
    have hrun₁ : ApiRun X mode limiter apiInitial c₁ := hrun.trans hsteps
    rcases api_step hrun₁ hf with ⟨i, op, hguar⟩ | ⟨d, hclock⟩
    · obtain ⟨row₂, hrow₂, hmove⟩ := (row_step hguar (api_inv hrun₁).tracked).2 jobId row₁ hrow₁
      exact ⟨row₂, hrow₂, hlived.tail hmove⟩
    · exact ⟨row₁, by rw [hclock]; exact hrow₁, hlived⟩

/-- A true answer about a job that exists is true after the next step. -/
theorem PostAnswer.step (hrun : ApiRun X mode limiter apiInitial c)
    (h : PostAnswer jobId c.state.system r) (hsome : c.state.system.jobs jobId ≠ none)
    {l : Label GatewayPort PyError ApiRole} (hf : ApiFire X mode limiter c l c') :
    PostAnswer jobId c'.state.system r := by
  cases hf with
  | spawn => exact h
  | crash => exact h
  | env henv =>
    obtain ⟨d, rfl⟩ := henv
    have hclock : ∀ i, ((discipline X mode (fun _ _ => True) False).rely i).rel c.state.system
        { c.state.system with now := c.state.system.now + d } :=
      fun i => clock_rely i c.state.system d
    exact h.rely (hclock (.gateway jobId)) (hclock (.consumer 0))
  | @call i op k out s' hi hsem =>
    have hguar := api_guar hrun (Fire.call hi hsem)
    by_cases hij : i = .post jobId
    · subst hij
      match op, hguar with
      | .inl op, hguar => exact h.request (X := X) hsome hguar.2
      | .inr (.inl _), hguar =>
        have hsame : s'.system = c.state.system := hguar
        rw [hsame]
        exact h
      | .inr (.inr (.respond _)), hguar =>
        have hsame : s' = c.state := hguar.1
        rw [hsame]
        exact h
    · obtain ⟨hrely, hkept⟩ := api_rely hij hguar
      exact h.rely hrely hkept

/-- An answer is true when it is sent. -/
theorem answer_sent (hrun : ApiRun X mode limiter apiInitial c) {out : Except PyError Unit}
    (hf : ApiFire X mode limiter c (sends (.post jobId) r out) c') :
    c'.state = c.state ∧ PostAnswer jobId c.state.system r :=
  api_guar hrun hf

/-- A true answer about a job that exists stays true. -/
theorem answer_lasts (hrun : ApiRun X mode limiter apiInitial c)
    (h : PostAnswer jobId c.state.system r) (hsome : c.state.system.jobs jobId ≠ none)
    (hrun' : ApiRun X mode limiter c c') : PostAnswer jobId c'.state.system r := by
  refine (hrun'.induct (P := fun c' => PostAnswer jobId c'.state.system r ∧
    c'.state.system.jobs jobId ≠ none) ⟨h, hsome⟩ ?_).1
  rintro c₁ l c₂ hsteps ⟨h, hsome₁⟩ hf -
  have hrun₁ : ApiRun X mode limiter apiInitial c₁ := hrun.trans hsteps
  refine ⟨h.step hrun₁ hsome₁ hf, ?_⟩
  obtain ⟨row, hrow⟩ := Option.ne_none_iff_exists'.mp hsome₁
  obtain ⟨row', hrow', -⟩ := api_lifecycle hrun₁ (.single ⟨_, hf, trivial⟩) hrow
  rw [hrow']
  nofun

/--
**Answers to a post are true.** Whatever is sent to the client is true at that moment: a result
comes with a job that has succeeded with it, an acceptance with a stored job and a message that
will have it recovered, a failure with a job that has failed for this reason, a refusal without a
job. And where there is a job, the answer is true in every later state.
-/
theorem post_answer_true (hrun : ApiRun X mode limiter apiInitial c) {out : Except PyError Unit}
    (hf : ApiFire X mode limiter c (sends (.post jobId) r out) c') :
    PostAnswer jobId c.state.system r ∧ (c.state.system.jobs jobId ≠ none →
      ∀ c'', ApiRun X mode limiter c' c'' → PostAnswer jobId c''.state.system r) := by
  obtain ⟨hsame, hanswer⟩ := answer_sent hrun hf
  refine ⟨hanswer, fun hsome c'' hrun' => ?_⟩
  exact answer_lasts (hrun.tail ⟨_, hf, trivial⟩) (hsame ▸ hanswer) (hsame ▸ hsome) hrun'

/-- The request of the script is accepted, and stays so. -/
theorem post_answer_true_postRun :
    PostAnswer "7" postPool.state.system { status := 202, body := some acceptedBody.toJson } ∧
      (postPool.state.system.jobs "7" ≠ none → ∀ c'',
        (apiMachine anyServices .atomic {}).Steps anyStep (next apiStep (.post "7") postPool) c'' →
          PostAnswer "7" c''.state.system
            { status := 202, body := some acceptedBody.toJson }) :=
  post_answer_true postPool_run postPool_fire

/-! ## polls -/

/-- The answer to a poll, by the row that was found. -/
def pollAnswer (jobId : String) : Option JobModel → HttpResponse
  | none => httpException 404 ("Job " ++ jobId ++ " not found")
  | some row =>
    match modelToJob row with
    | .error _ => { status := 500 }
    | .ok job =>
      match ScrapeResponseBody.fromJob job with
      | .error _ => { status := 500 }
      | .ok body => { status := 200, body := some body.toJson }

def pollReply (jobId : String) : Except PyError (Option JobModel) → HttpResponse
  | .ok row => pollAnswer jobId row
  | .error _ => { status := 500 }

/-- A poll is one query and the answer. -/
theorem getJobs_eq (jobId : String) :
    getJobs jobId = @Prog.call GatewayPort PyError Unit (Sum.inl (SystemOp.selectJob jobId))
      fun out => respond (pollReply jobId out) := by
  refine congrArg (@Prog.call GatewayPort PyError Unit (Sum.inl (SystemOp.selectJob jobId)))
    (funext fun out => ?_)
  match out with
  | .error e => rfl
  | .ok none => rfl
  | .ok (some row) =>
    have hfound : ∀ x : Except PyError Job,
        GatewayApi.serve (useCase (Prog.lift x >>= fun job => Prog.ret (some job)) >>=
          fun job => Prog.lift (found jobId job)) = respond (
            match x with
            | .error _ => { status := 500 }
            | .ok job =>
              match ScrapeResponseBody.fromJob job with
              | .error _ => { status := 500 }
              | .ok body => { status := 200, body := some body.toJson }) := by
      intro x
      cases x with
      | error e => rfl
      | ok job =>
        show GatewayApi.serve (Prog.lift (found jobId (some job))) = _
        dsimp only [found]
        cases ScrapeResponseBody.fromJob job <;> rfl
    exact hfound (modelToJob row)

/-- The query of a poll, and what it is answered. -/
abbrev asks (n : Nat) (jobId : String) (reply : Except PyError (Option JobModel)) :
    Label GatewayPort PyError ApiRole :=
  .call (.poll n jobId) (.inl (SystemOp.selectJob jobId) : GatewayPort.Op) reply

/-- In the run from `c` to `m` the poll has made its query and got this reply. -/
def Asked (X : Services) (mode : WriteMode) (limiter : RedisRateLimiter) (c : ApiPool) (n : Nat)
    (jobId : String) (m : ApiPool) (reply : Except PyError (Option JobModel)) : Prop :=
  ∃ m₁ m₂, ApiRun X mode limiter c m₁ ∧ ApiFire X mode limiter m₁ (asks n jobId reply) m₂ ∧
    ApiRun X mode limiter m₂ m

/-- What a query finds is the row at that moment. -/
theorem Asked.row {n : Nat} {m : ApiPool} {row : Option JobModel}
    (h : Asked X mode limiter c n jobId m (.ok row)) : ∃ m₁, ApiRun X mode limiter c m₁ ∧
      ApiRun X mode limiter m₁ m ∧ row = m₁.state.system.jobs jobId := by
  obtain ⟨m₁, m₂, hm₁, hf, hm₂⟩ := h
  refine ⟨m₁, hm₁, (Relation.ReflTransGen.single ⟨_, hf, trivial⟩).trans hm₂, ?_⟩
  cases hf with
  | call _ hsem => exact (commandOk_selectJob hsem.1).1

/-- Where a poll is in a run from `c` to `m`. -/
inductive Polling (X : Services) (mode : WriteMode) (limiter : RedisRateLimiter) (c : ApiPool)
    (n : Nat) (jobId : String) (m : ApiPool) : Proc GatewayPort PyError → Prop
  | unused : Polling X mode limiter c n jobId m .unused
  | query : Polling X mode limiter c n jobId m (.running (getJobs jobId))
  | answer {reply : Except PyError (Option JobModel)} :
      Asked X mode limiter c n jobId m reply →
      Polling X mode limiter c n jobId m (.running (respond (pollReply jobId reply)))
  | done (out : Except PyError Unit) :
      Polling X mode limiter c n jobId m (.running (Prog.lift out))
  | dead : Polling X mode limiter c n jobId m .dead

/-- Another process makes a step. -/
theorem Polling.mono {n : Nat} {m m' : ApiPool} (hrun : ApiRun X mode limiter m m')
    {x : Proc GatewayPort PyError} (h : Polling X mode limiter c n jobId m x) :
    Polling X mode limiter c n jobId m' x := by
  cases h with
  | unused => exact .unused
  | query => exact .query
  | answer hasked =>
    obtain ⟨m₁, m₂, hm₁, hf, hm₂⟩ := hasked
    exact .answer ⟨m₁, m₂, hm₁, hf, hm₂.trans hrun⟩
  | done out => exact .done out
  | dead => exact .dead

/-- The poll makes its next call. -/
theorem Polling.call {n : Nat} {m m' : ApiPool} (hrun : ApiRun X mode limiter c m)
    {op : GatewayPort.Op} {k : Except PyError (GatewayPort.Ans op) → GatewayProg Unit}
    {out : Except PyError (GatewayPort.Ans op)}
    (h : Polling X mode limiter c n jobId m (.running (Prog.call op k)))
    (hf : ApiFire X mode limiter m (.call (.poll n jobId) op out) m') :
    Polling X mode limiter c n jobId m' (.running (k out)) := by
  generalize hp : Prog.call op k = p at h
  cases h with
  | query =>
    rw [getJobs_eq] at hp
    cases hp
    exact .answer ⟨m, m', hrun, hf, .refl⟩
  | answer hasked =>
    cases hp
    cases out with
    | ok a => exact .done (.ok a)
    | error e => exact .done (.error e)
  | done out' => cases out' <;> cases hp

theorem Polling.step {n : Nat} {m m' : ApiPool} (hrun : ApiRun X mode limiter c m)
    (h : Polling X mode limiter c n jobId m (m.procs (.poll n jobId)))
    {l : Label GatewayPort PyError ApiRole} (hf : ApiFire X mode limiter m l m') :
    Polling X mode limiter c n jobId m' (m'.procs (.poll n jobId)) := by
  by_cases hsame : m'.procs (.poll n jobId) = m.procs (.poll n jobId)
  · rw [hsame]
    exact h.mono (.single ⟨l, hf, trivial⟩)
  · -- the step is one of the poll itself
    cases hf with
    | env henv => exact absurd rfl hsame
    | @spawn i p hu hsp =>
      by_cases hi : .poll n jobId = i
      · subst hi
        cases hsp with
        | poll =>
          simp only [Function.update_self]
          exact .query
      · exact absurd (Function.update_of_ne hi _ _) hsame
    | @crash i p hc hi =>
      by_cases hi : .poll n jobId = i
      · subst hi
        simp only [Function.update_self]
        exact .dead
      · exact absurd (Function.update_of_ne hi _ _) hsame
    | @call i op k out s' hi hsem =>
      by_cases hij : .poll n jobId = i
      · subst hij
        have hf := Fire.call hi hsem
        rw [hi] at h
        have hnext := Polling.call hrun h hf
        simp only [Function.update_self]
        exact hnext
      · exact absurd (Function.update_of_ne hij _ _) hsame

end Runs

end Sentinel
