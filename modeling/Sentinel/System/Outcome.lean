import Sentinel.System.State
import Sentinel.System.Wiring

/-!
# What a request makes of the worker's answer

A request makes one call to the worker. The result of this call, a response or an exception,
decides how the request ends, what is stored and whether the job is put into the recovery stream.

* `HttpExtractionService.extractOutcome`, `requestOutcome` — what the extraction service and the
  request make of the result
* `exec_request` — the whole request, in one equation
* `handled_iff` — the results that are turned into an outcome of the job
* `escalation_exact` — with the worker of this repository behind the call, a job is put into the
  recovery stream for a field the page did not yield, and for nothing else
-/

namespace Sentinel

open Lib ProcessScrapeRequestUseCase

namespace HttpExtractionService

def extractionFailed : ExtractionResultDTO := { success := false, failureReason := some .httpError }

/-- What `extract` makes of the result of its call. -/
def extractOutcome : Except PyError HttpResponse → Except PyError ExtractionResultDTO
  | .error e => if e = .httpError then .ok extractionFailed else .error e
  | .ok response => if response.isSuccess then parseResponse response else .ok extractionFailed

theorem exec_extract {S : Type} (h : (op : HttpPort.Op) → S → Except PyError HttpResponse × S)
    (url domain : String) (requiredFields : List String) (s : S) :
    (extract url domain requiredFields).exec h s =
      (extractOutcome (h (.post "/internal/extract" (extractBody url domain requiredFields)) s).1,
        (h (.post "/internal/extract" (extractBody url domain requiredFields)) s).2) := by
  rcases hr : h (.post "/internal/extract" (extractBody url domain requiredFields)) s with ⟨r, s'⟩
  unfold extract request
  rw [Prog.exec_bind, Prog.exec_handle, Prog.exec_bind, Prog.exec_perform, hr]
  cases r with
  | error e =>
    by_cases he : e = .httpError
    · simp only [he, if_true]
      rfl
    · simp only [he, if_false, extractOutcome]
      rfl
  | ok response =>
    simp only [Prog.exec_bind, Prog.exec_lift, HttpResponse.raiseForStatus, extractOutcome]
    by_cases hok : response.isSuccess = true
    · simp only [hok, if_true]
      exact Prog.exec_lift h _ _
    · simp only [hok]
      rfl

/-- A successful response is an outcome if its body can be read. -/
theorem extractOutcome_ok {response : HttpResponse} (hok : response.isSuccess = true)
    {result : ExtractionResultDTO} :
    extractOutcome (.ok response) = .ok result ↔
      ∃ payload, response.body = some payload ∧
        decodeExtraction ExtractionResultDTO.mk payload = .ok result := by
  simp only [extractOutcome, hok, if_true, parseResponse, HttpResponse.json]
  cases response.body with
  | none => simp [bind, Except.bind]
  | some payload => simp [bind, Except.bind]

end HttpExtractionService

open HttpExtractionService

/-! ## one request -/

/-- The calls of a request whose call to the worker has the result `r`. -/
def gatewayStep (mode : WriteMode) (reply : Replies) (r : Except PyError HttpResponse) :
    (op : SystemPort.Op) → SystemState → Except PyError (SystemPort.Ans op) × SystemState
  | .extract url domain requiredFields, s =>
    (((HttpExtractionService.extract url domain requiredFields).exec (fun _ _ => (r, ())) ()).1, s)
  | op, s => commandStep mode reply op s

/-- What the request makes of the result of the call. -/
def requestOutcome (job : Job) (r : Except PyError HttpResponse) : Except PyError Job :=
  match extractOutcome r with
  | .error e => .error e
  | .ok result => applyExtractionResult job result

/-- The state once the outcome is stored, and announced if it is to be repaired. -/
def concluded (reply : Replies) (job : Job) (s : SystemState) : SystemState :=
  let s := s.setJob job.id (jobToModel job)
  if job.status = .recoveryPending then
    { s with stream := (s.stream.xadd (RedisRecoveryQueue.message job.id reply.traceContext)).2 }
  else s

section Request

variable {mode : WriteMode} {reply : Replies} {r : Except PyError HttpResponse} {s : SystemState}
  {jobId url domain : String} {requiredFields : List String}
  {h : (op : SystemPort.Op) → SystemState → Except PyError (SystemPort.Ans op) × SystemState}

/-- A handler whose sessions work on the table and go through. -/
structure TableStep (mode : WriteMode)
    (h : (op : SystemPort.Op) → SystemState → Except PyError (SystemPort.Ans op) × SystemState) :
    Prop where
  sessionGet : ∀ jobId s, h (.sessionGet jobId) s = (.ok (s.jobs jobId), s)
  selectJob : ∀ jobId s, h (.selectJob jobId) s = (.ok (s.jobs jobId), s)
  commitInsert : ∀ model s, h (.commitInsert model) s = insertJob model s
  commitUpdate : ∀ loaded model s, h (.commitUpdate loaded model) s = updateJob mode loaded model s

theorem tableStep_commandStep (mode : WriteMode) (reply : Replies) :
    TableStep mode (commandStep mode reply) where
  sessionGet _ _ := rfl
  selectJob _ _ := rfl
  commitInsert _ _ := rfl
  commitUpdate _ _ _ := rfl

theorem tableStep_gatewayStep (mode : WriteMode) (reply : Replies)
    (r : Except PyError HttpResponse) : TableStep mode (gatewayStep mode reply r) where
  sessionGet _ _ := rfl
  selectJob _ _ := rfl
  commitInsert _ _ := rfl
  commitUpdate _ _ _ := rfl

theorem setJob_setJob (s : SystemState) (jobId : String) (row row' : JobModel) :
    (s.setJob jobId row).setJob jobId row' = s.setJob jobId row' := by
  simp [SystemState.setJob]

theorem exec_save_new (hh : TableStep mode h) {job : Job} (hfree : s.jobs job.id = none) :
    (SqlAlchemyJobRepository.save job).exec h s = (.ok (), s.setJob job.id (jobToModel job)) := by
  have hget : h (.sessionGet job.id) s = (.ok none, s) := by rw [hh.sessionGet, hfree]
  unfold SqlAlchemyJobRepository.save
  rw [Prog.exec_perform_bind _ hget]
  show (await (.commitInsert (jobToModel job))).exec _ s = _
  rw [Prog.exec_perform, hh.commitInsert]
  unfold insertJob
  rw [show s.jobs (jobToModel job).id = none from hfree]
  rfl

/-- The row of a job of the same identity becomes the row of the job. -/
theorem jobToModel_assign {job job' : Job} (h : job'.id = job.id ∧ job'.url = job.url ∧
    job'.domain = job.domain ∧ job'.requiredFields = job.requiredFields) :
    (jobToModel job).assign job' = jobToModel job' := by
  obtain ⟨hid, hurl, hdomain, hfields⟩ := h
  simp only [JobModel.assign, jobToModel, hid, hurl, hdomain, hfields]

theorem exec_save_again (hh : TableStep mode h) {job job' : Job}
    (hrow : s.jobs job.id = some (jobToModel job)) (hid : job'.id = job.id ∧ job'.url = job.url ∧
      job'.domain = job.domain ∧ job'.requiredFields = job.requiredFields) :
    (SqlAlchemyJobRepository.save job').exec h s =
      (.ok (), s.setJob job.id (jobToModel job')) := by
  have hget : h (.sessionGet job'.id) s = (.ok (some (jobToModel job)), s) := by
    rw [hh.sessionGet, hid.1, hrow]
  unfold SqlAlchemyJobRepository.save
  rw [Prog.exec_perform_bind _ hget]
  show (await (.commitUpdate (jobToModel job) ((jobToModel job).assign job'))).exec _ s = _
  rw [Prog.exec_perform, hh.commitUpdate]
  unfold updateJob
  rw [show s.jobs ((jobToModel job).assign job').id = _ from hrow]
  show (Except.ok (), s.setJob job.id _) = _
  rw [written_self, jobToModel_assign hid]

/-- **A whole request**, for a job id that is not in use. -/
theorem exec_request (hfresh : s.jobs jobId = none) :
    (execute jobId url domain requiredFields).exec (gatewayStep mode reply r) s =
      match requestOutcome (Job.create jobId url domain requiredFields) r with
      | .error e =>
        (.error e, s.setJob jobId (jobToModel (Job.create jobId url domain requiredFields)))
      | .ok job => (.ok job, concluded reply job s) := by
  have hh := tableStep_gatewayStep mode reply r
  unfold execute requestOutcome
  rw [Prog.exec_bind_ok _ (exec_save_new hh hfresh), Prog.exec_bind, Prog.exec_perform]
  rw [show gatewayStep mode reply r (.extract url domain requiredFields) _ =
    (extractOutcome r, _) from congrArg (·, _) (congrArg Prod.fst (exec_extract _ _ _ _ _))]
  cases extractOutcome r with
  | error e => rfl
  | ok result =>
    dsimp only
    rw [Prog.exec_bind, Prog.exec_lift]
    cases happly : applyExtractionResult (Job.create jobId url domain requiredFields) result with
    | error e => rfl
    | ok job =>
      dsimp only
      have hid := applyExtractionResult_identity happly
      rw [Prog.exec_bind_ok _ (exec_save_again hh (SystemState.setJob_jobs_self _ _ _) hid)]
      rw [setJob_setJob, ← hid.1]
      unfold concluded
      by_cases hst : job.status = .recoveryPending
      · simp only [hst, if_true]
        rfl
      · simp only [hst, if_false]
        rfl

/-! ## every answer has an outcome -/

/-- A payload that decides on the job: one with an unknown failure reason, or with a success or a
failure reason besides its data. -/
def DecisivePayload (payload : Json) : Prop :=
  ∃ raw, payload.item "failure_reason" = .ok raw ∧
    ((∃ e, FailureReason.ofJson raw = .error e) ∨
      ∃ success data, payload.item "success" = .ok success ∧ payload.item "data" = .ok data ∧
        (success.truthy = true ∨ raw.truthy = true))

/-- A result of the call that decides on the job: a transport error, a status that is not a
success, or a success with a decisive payload. -/
def Decisive : Except PyError HttpResponse → Prop
  | .error e => e = .httpError
  | .ok response =>
    response.isSuccess = false ∨ ∃ payload, response.body = some payload ∧ DecisivePayload payload

theorem applyExtractionResult_isOk {job : Job} {result : ExtractionResultDTO} :
    (∃ job', applyExtractionResult job result = .ok job') ↔
      result.success = true ∨ result.failureReason ≠ none := by
  unfold applyExtractionResult
  by_cases hs : result.success = true
  · simp [hs]
  · cases hreason : result.failureReason with
    | none => simp [hs, RecoveryDecisionPolicy.shouldTriggerRecovery]
    | some reason =>
      simp only [hs]
      by_cases hp : RecoveryDecisionPolicy.shouldTriggerRecovery (some reason) = true <;> simp [hp]

theorem decisivePayload_iff {payload : Json} :
    (∃ result, decodeExtraction ExtractionResultDTO.mk payload = .ok result ∧
      (result.success = true ∨ result.failureReason ≠ none)) ↔ DecisivePayload payload := by
  constructor
  · rintro ⟨result, h, hdecides⟩
    obtain ⟨raw, hraw, ⟨he, -⟩ | ⟨reason, success, data, hreason, hsuccess, hdata, rfl⟩⟩ :=
      decodeExtraction_eq_ok.mp h
    · exact ⟨raw, hraw, Or.inl he⟩
    · refine ⟨raw, hraw, Or.inr ⟨success, data, hsuccess, hdata, hdecides.imp_right fun hr => ?_⟩⟩
      by_contra hfalsy
      rw [FailureReason.ofJson_eq_none.mpr (by simpa using hfalsy)] at hreason
      cases hreason
      exact hr rfl
  · rintro ⟨raw, hraw, he | ⟨success, data, hsuccess, hdata, hdecides⟩⟩
    · exact ⟨_, decodeExtraction_eq_ok.mpr ⟨raw, hraw, Or.inl ⟨he, rfl⟩⟩, Or.inr nofun⟩
    · cases hreason : FailureReason.ofJson raw with
      | error e =>
        exact ⟨_, decodeExtraction_eq_ok.mpr ⟨raw, hraw, Or.inl ⟨⟨e, hreason⟩, rfl⟩⟩, Or.inr nofun⟩
      | ok reason =>
        refine ⟨_, decodeExtraction_ok _ hraw hreason hsuccess hdata, hdecides.imp_right ?_⟩
        rintro htruthy rfl
        rw [FailureReason.ofJson_eq_none.mp hreason] at htruthy
        cases htruthy

/-- The request comes to an outcome exactly for a decisive result. -/
theorem requestOutcome_isOk {job : Job} {r : Except PyError HttpResponse} :
    (∃ job', requestOutcome job r = .ok job') ↔ Decisive r := by
  unfold Decisive
  have hfailed : ∃ job', applyExtractionResult job extractionFailed = .ok job' :=
    applyExtractionResult_isOk.mpr (Or.inr nofun)
  cases r with
  | error e =>
    by_cases he : e = .httpError
    · simpa [requestOutcome, extractOutcome, he] using hfailed
    · simp [requestOutcome, extractOutcome, he]
  | ok response =>
    cases hok : response.isSuccess with
    | false => simpa [requestOutcome, extractOutcome, hok] using hfailed
    | true =>
      have hout : (∃ job', requestOutcome job (.ok response) = .ok job') ↔
          ∃ result, extractOutcome (.ok response) = .ok result ∧
            (result.success = true ∨ result.failureReason ≠ none) := by
        unfold requestOutcome
        cases extractOutcome (.ok response) with
        | error e => simp
        | ok result => simpa using applyExtractionResult_isOk
      rw [hout]
      constructor
      · rintro ⟨result, hresult, hdecides⟩
        obtain ⟨payload, hbody, hdecode⟩ := (extractOutcome_ok hok).mp hresult
        exact Or.inr ⟨payload, hbody, decisivePayload_iff.mp ⟨result, hdecode, hdecides⟩⟩
      · rintro (hno | ⟨payload, hbody, hpayload⟩)
        · rw [hok] at hno
          cases hno
        · obtain ⟨result, hdecode, hdecides⟩ := decisivePayload_iff.mpr hpayload
          exact ⟨result, (extractOutcome_ok hok).mpr ⟨payload, hbody, hdecode⟩, hdecides⟩

/-- An outcome is one of three. -/
theorem applyExtractionResult_status {job job' : Job} {result : ExtractionResultDTO}
    (h : applyExtractionResult job result = .ok job') :
    job'.status = .success ∨ job'.status = .recoveryPending ∨ job'.status = .failed := by
  unfold applyExtractionResult at h
  split at h
  · cases h; exact Or.inl rfl
  · split at h
    · cases h; exact Or.inr (Or.inl rfl)
    · split at h
      · cases h
      · cases h; exact Or.inr (Or.inr rfl)

/-- What was concluded is in the row. -/
@[simp] theorem concluded_jobs (reply : Replies) (job : Job) (s : SystemState) :
    (concluded reply job s).jobs = (s.setJob job.id (jobToModel job)).jobs := by
  unfold concluded
  dsimp only
  split <;> rfl

/-- The extraction service returns, the request returns, and the stored job has left `pending`. -/
def Handled (mode : WriteMode) (reply : Replies) (jobId url domain : String)
    (requiredFields : List String) (s : SystemState) (r : Except PyError HttpResponse) : Prop :=
  (∃ result, ((HttpExtractionService.extract url domain requiredFields).exec
    (fun _ _ => (r, ())) ()).1 = .ok result) ∧
  ∃ job s', (execute jobId url domain requiredFields).exec (gatewayStep mode reply r) s =
      (.ok job, s') ∧
    ∃ row, s'.jobs jobId = some row ∧ (row.status = JobStatus.success.value ∨
      row.status = JobStatus.recoveryPending.value ∨ row.status = JobStatus.failed.value)

/-- **Which answers have an outcome.** The result of the call is turned into a stored outcome of
the job if and only if it is decisive. -/
theorem handled_iff (hfresh : s.jobs jobId = none) :
    Handled mode reply jobId url domain requiredFields s r ↔ Decisive r := by
  have hout := @requestOutcome_isOk (Job.create jobId url domain requiredFields) r
  rw [← hout]
  unfold Handled
  rw [exec_request hfresh, exec_extract]
  constructor
  · rintro ⟨-, job, s', hexec, -⟩
    cases hout : requestOutcome (Job.create jobId url domain requiredFields) r with
    | error e => rw [hout] at hexec; cases hexec
    | ok job' => exact ⟨job', rfl⟩
  · rintro ⟨job, hjob⟩
    rw [hjob]
    unfold requestOutcome at hjob
    cases hout : extractOutcome r with
    | error e => rw [hout] at hjob; cases hjob
    | ok result =>
      rw [hout] at hjob
      refine ⟨⟨result, rfl⟩, job, _, rfl, jobToModel job, ?_, ?_⟩
      · have hid : job.id = jobId := (applyExtractionResult_identity hjob).1
        rw [concluded_jobs, ← hid, SystemState.setJob_jobs_self]
      · rcases applyExtractionResult_status hjob with h | h | h
        · exact Or.inl (congrArg JobStatus.value h)
        · exact Or.inr (Or.inl (congrArg JobStatus.value h))
        · exact Or.inr (Or.inr (congrArg JobStatus.value h))

/-! ## what the worker's answer says -/

/-- Each required field is there and not blank. -/
def Filled (requiredFields : List String) (data : Dict String String) : Prop :=
  ∀ f ∈ requiredFields, ∃ v, data.get? f = some v ∧ isBlank v = false

/-- The worker answered with success, and reports the attempt with the known selectors, whose
`extract_fields` was answered `data` by the browser. -/
def Extracted {S : Type}
    (worker : (op : WorkerPort.Op) → S → Except PyError (WorkerPort.Ans op) → S → Prop)
    (url domain : String) (requiredFields : List String) (w : S) (r : Except PyError HttpResponse)
    (w' : S) (data : Dict String String) : Prop :=
  ∃ response attempt selectors m, r = .ok response ∧ response.isSuccess = true ∧
    Prog.Evals worker (ExtractDataUseCase.execute url domain requiredFields none) w (.ok attempt)
      w' ∧
    Prog.Evals worker (ExtractDataUseCase.selectorsFor domain requiredFields none) w
      (.ok selectors) m ∧
    worker (.extractFields url selectors) m (.ok data) w' ∧
    response.body = some (ExtractResponseBody.fromAttemptResult attempt).toJson ∧
    attempt.extractedData = data

section Worker

variable {S : Type}
  {worker : (op : WorkerPort.Op) → S → Except PyError (WorkerPort.Ans op) → S → Prop} {w w' : S}

/-- A body reports the data of one extraction. -/
theorem extractedData_of_toJson {a b : ExtractionAttemptResult}
    (h : (ExtractResponseBody.fromAttemptResult a).toJson =
      (ExtractResponseBody.fromAttemptResult b).toJson) : a.extractedData = b.extractedData := by
  have hdecode := decodeExtraction_toJson (fun _ data _ => data) a
  rw [h, decodeExtraction_toJson] at hdecode
  have hdict := congrArg Json.asDict (Except.ok.inj hdecode)
  rw [Json.asDict_ofDict, Json.asDict_ofDict] at hdict
  exact (Option.some.inj hdict).symm

/-- An attempt that is reported with success. -/
theorem extracted_of_attempt {response : HttpResponse} {attempt : ExtractionAttemptResult}
    (hok : response.isSuccess = true)
    (hattempt : Prog.Evals worker (ExtractDataUseCase.execute url domain requiredFields none) w
      (.ok attempt) w')
    (hbody : response.body = some (ExtractResponseBody.fromAttemptResult attempt).toJson) :
    Extracted worker url domain requiredFields w (.ok response) w' attempt.extractedData := by
  obtain ⟨⟨selectors, m, hsel, hdata⟩, -⟩ := ExtractDataUseCase.execute_ok hattempt
  exact ⟨response, attempt, selectors, m, rfl, hok, hattempt, hsel, hdata, hbody, rfl⟩

/-- A success of the worker reports an extraction. -/
theorem extracted_of_success {response : HttpResponse}
    (hpost : httpSem worker (.post "/internal/extract" (extractBody url domain requiredFields)) w
      (.ok response) w') (hok : response.isSuccess = true) :
    ∃ data, Extracted worker url domain requiredFields w (.ok response) w' data := by
  obtain ⟨body, attempt, hbody, hattempt, hresp⟩ := extract_post_ok hpost hok
  rw [ofJson_gatewayBody hbody] at hattempt
  exact ⟨_, extracted_of_attempt hok hattempt hresp⟩

/-- The request makes of an extraction what the validator says of its data. -/
theorem requestOutcome_extracted {job : Job} {data : Dict String String}
    (h : Extracted worker url domain requiredFields w r w' data) :
    (Filled requiredFields data →
      requestOutcome job r = .ok (job.markSucceeded (.ofDict data))) ∧
    (¬ Filled requiredFields data → requestOutcome job r = .ok job.markRecoveryPending) := by
  obtain ⟨response, attempt, -, -, rfl, hok, hattempt, -, -, hbody, rfl⟩ := h
  have hverdict := (ExtractDataUseCase.execute_ok hattempt).2
  have hout : extractOutcome (.ok response) = .ok ⟨attempt.outcome.isSuccess,
      .ofDict attempt.extractedData, attempt.outcome.failureReason⟩ :=
    (extractOutcome_ok hok).mpr ⟨_, hbody, decodeExtraction_toJson _ attempt⟩
  unfold requestOutcome
  rw [hout, hverdict]
  constructor
  · intro hfilled
    simp [applyExtractionResult, ExtractionValidator.validate_isSuccess.mpr hfilled]
  · intro hfilled
    have hfail : (ExtractionValidator.validate requiredFields attempt.extractedData).isSuccess =
        false := by
      rw [← Bool.not_eq_true]
      exact fun hs => hfilled (ExtractionValidator.validate_isSuccess.mp hs)
    -- the validator blames a field, and both of its reasons can be repaired
    rcases ExtractionValidator.validate_failure hfail with hreason | hreason
    · simp only [applyExtractionResult, hfail, hreason]
      rfl
    · simp only [applyExtractionResult, hfail, hreason]
      rfl

/-- Where the worker did not answer with success, the request fails for a transport reason. -/
theorem requestOutcome_failed {job : Job} (hr : ∀ e, r = .error e → e = .httpError)
    (hno : ¬ ∃ response, r = .ok response ∧ response.isSuccess = true) :
    requestOutcome job r = .ok (job.markFailed .httpError) := by
  cases r with
  | error e =>
    rw [hr e rfl]
    rfl
  | ok response =>
    have hok : response.isSuccess = false := by
      rw [← Bool.not_eq_true]
      exact fun hok => hno ⟨response, rfl, hok⟩
    simp only [requestOutcome, extractOutcome, hok]
    rfl

/-- The three ways a request ends, by what came back from the worker. -/
theorem requestOutcome_exact
    (hpost : httpSem worker (.post "/internal/extract" (extractBody url domain requiredFields)) w r
      w')
    (hr : ∀ e, r = .error e → e = .httpError) (job : Job) :
    ∃ job', requestOutcome job r = .ok job' ∧ job'.id = job.id ∧
      (job'.status = .success ↔
        ∃ data, Extracted worker url domain requiredFields w r w' data ∧
          Filled requiredFields data) ∧
      (job'.status = .recoveryPending ↔
        ∃ data, Extracted worker url domain requiredFields w r w' data ∧
          ¬ Filled requiredFields data) ∧
      (job'.status = .failed ∧ job'.failureReason = some .httpError ↔
        ¬ ∃ response, r = .ok response ∧ response.isSuccess = true) := by
  by_cases hsuccess : ∃ response, r = .ok response ∧ response.isSuccess = true
  · obtain ⟨response, rfl, hok⟩ := hsuccess
    obtain ⟨data, hdata⟩ := extracted_of_success hpost hok
    have hresponse : ∃ response', (.ok response : Except PyError HttpResponse) = .ok response' ∧
        response'.isSuccess = true := ⟨response, rfl, hok⟩
    -- the response determines the data, so the two cases exclude each other
    have hunique : ∀ data', Extracted worker url domain requiredFields w (.ok response) w' data' →
        data' = data := by
      intro data' hdata'
      obtain ⟨r₁, a₁, -, -, h₁, -, -, -, -, hbody₁, rfl⟩ := hdata
      obtain ⟨r₂, a₂, -, -, h₂, -, -, -, -, hbody₂, rfl⟩ := hdata'
      cases h₁
      cases h₂
      rw [hbody₁, Option.some.injEq] at hbody₂
      exact (extractedData_of_toJson hbody₂).symm
    by_cases hfilled : Filled requiredFields data
    · refine ⟨_, (requestOutcome_extracted hdata).1 hfilled, rfl, ?_, ?_, ?_⟩
      · exact iff_of_true rfl ⟨data, hdata, hfilled⟩
      · refine iff_of_false nofun ?_
        rintro ⟨data', hdata', hno⟩
        rw [hunique data' hdata'] at hno
        exact hno hfilled
      · exact iff_of_false (fun h => by cases h.1) (not_not_intro hresponse)
    · refine ⟨_, (requestOutcome_extracted hdata).2 hfilled, rfl, ?_, ?_, ?_⟩
      · refine iff_of_false nofun ?_
        rintro ⟨data', hdata', hyes⟩
        rw [hunique data' hdata'] at hyes
        exact hfilled hyes
      · exact iff_of_true rfl ⟨data, hdata, hfilled⟩
      · exact iff_of_false (fun h => by cases h.1) (not_not_intro hresponse)
  · have hnone : ∀ data, ¬ Extracted worker url domain requiredFields w r w' data :=
      fun data ⟨response, _, _, _, hresp, hok, _⟩ => hsuccess ⟨response, hresp, hok⟩
    refine ⟨_, requestOutcome_failed hr hsuccess, rfl, ?_, ?_, ?_⟩
    · exact iff_of_false nofun fun ⟨data, hdata, _⟩ => hnone data hdata
    · exact iff_of_false nofun fun ⟨data, hdata, _⟩ => hnone data hdata
    · exact iff_of_true ⟨rfl, rfl⟩ hsuccess

/-- The outcome of a request that is to be repaired is announced, once. -/
theorem concluded_stream (reply : Replies) (job : Job) (s : SystemState) :
    (job.status = .recoveryPending → (concluded reply job s).stream.entries = s.stream.entries ++
      [⟨s.stream.lastId + 1, RedisRecoveryQueue.message job.id reply.traceContext⟩]) ∧
    (job.status ≠ .recoveryPending → (concluded reply job s).stream = s.stream) := by
  unfold concluded
  dsimp only
  constructor
  · intro h
    rw [if_pos h]
    exact Stream.entries_xadd _ _
  · intro h
    rw [if_neg h]
    rfl

/-- **Only selector failures are escalated.** A request with a new job id, in front of the worker
of this repository, returns a job and stores it. The job succeeds exactly if the worker extracted
every required field, it is to be repaired exactly if the worker answered with success but without
one of them, and fails for a transport reason exactly if no success came back. It is announced in
the recovery stream in the second case, once, and the stream is left alone in the others. -/
theorem escalation_exact
    (hpost : httpSem worker (.post "/internal/extract" (extractBody url domain requiredFields)) w r
      w')
    (hr : ∀ e, r = .error e → e = .httpError) (hfresh : s.jobs jobId = none)
    (htrace : reply.traceContext.get? "job_id" = none) :
    ∃ job s', (execute jobId url domain requiredFields).exec (gatewayStep mode reply r) s =
        (.ok job, s') ∧
      job.id = jobId ∧ s'.jobs jobId = some (jobToModel job) ∧
      (job.status = .success ↔
        ∃ data, Extracted worker url domain requiredFields w r w' data ∧
          Filled requiredFields data) ∧
      (job.status = .recoveryPending ↔
        ∃ data, Extracted worker url domain requiredFields w r w' data ∧
          ¬ Filled requiredFields data) ∧
      (job.status = .failed ∧ job.failureReason = some .httpError ↔
        ¬ ∃ response, r = .ok response ∧ response.isSuccess = true) ∧
      (job.status = .recoveryPending → ∃ message : Message,
        message.fields.get? "job_id" = some jobId ∧
          s'.stream.entries = s.stream.entries ++ [message]) ∧
      (job.status ≠ .recoveryPending → s'.stream = s.stream) := by
  obtain ⟨job, hjob, hid, hsuccess, hpending, hfailed⟩ :=
    requestOutcome_exact hpost hr (Job.create jobId url domain requiredFields)
  have hid' : job.id = jobId := hid
  refine ⟨job, concluded reply job s, ?_, hid', ?_, hsuccess, hpending, hfailed, ?_, ?_⟩
  · rw [exec_request hfresh, hjob]
  · rw [concluded_jobs, ← hid', SystemState.setJob_jobs_self]
  · intro hst
    refine ⟨_, ?_, (concluded_stream reply job s).1 hst⟩
    show (RedisRecoveryQueue.message job.id reply.traceContext).get? "job_id" = some jobId
    rw [RedisRecoveryQueue.message_jobId htrace, hid']
  · exact (concluded_stream reply job s).2

end Worker

end Request

/-- The answers of a tracer that writes nothing, for requests of the gateway. -/
def plainReplies : Replies := { extract := fun _ _ _ => extractionFailed, ainvoke := id }

theorem handled_iff_unreachable :
    Handled .atomic plainReplies "7" "https://shop.test/1" "shop.test" ["title"]
      SystemState.initial (.error .httpError) ↔ Decisive (.error .httpError) :=
  handled_iff rfl

/-- A success whose body is not JSON: the decoder raises, and the job stays `pending`. -/
theorem unhandled_notJson :
    ¬ Handled .atomic plainReplies "7" "https://shop.test/1" "shop.test" ["title"]
      SystemState.initial (.ok { status := 200 }) := by
  rintro ⟨⟨result, h⟩, -⟩
  rw [exec_extract] at h
  cases h

/-- A worker whose calls may be answered anything. -/
def freeWorker : (op : WorkerPort.Op) → Unit → Except PyError (WorkerPort.Ans op) → Unit → Prop :=
  fun _ _ _ _ => True

/-- An attempt to read a title off a page without one. -/
def titleMissing : ExtractionAttemptResult :=
  ⟨ExtractionValidator.validate ["title"] Dict.empty, Dict.empty⟩

theorem evals_titleMissing : Prog.Evals freeWorker
    (ExtractDataUseCase.execute "https://shop.test/1" "shop.test" ["title"] none) ()
    (.ok titleMissing) () := by
  refine Prog.Evals.call (r := .ok none) (show freeWorker _ () _ () from trivial) ?_
  exact Prog.Evals.call (r := .ok Dict.empty) (show freeWorker _ () _ () from trivial)
    (Prog.Evals.ret _ _)

/-- Its job is to be repaired, and is announced as the first message of the stream. -/
theorem escalation_exact_titleMissing : ∃ job s',
    (execute "7" "https://shop.test/1" "shop.test" ["title"]).exec
      (gatewayStep .atomic plainReplies
        (.ok ⟨200, some (ExtractResponseBody.fromAttemptResult titleMissing).toJson⟩))
      SystemState.initial = (.ok job, s') ∧
    job.status = .recoveryPending ∧
    ∃ message : Message, message.fields.get? "job_id" = some "7" ∧
      s'.stream.entries = [message] := by
  have hpost : httpSem freeWorker
      (.post "/internal/extract" (extractBody "https://shop.test/1" "shop.test" ["title"])) ()
      (.ok ⟨200, some (ExtractResponseBody.fromAttemptResult titleMissing).toJson⟩) () :=
    workerApp_extract_ok (ofJson_gatewayBody_cons _ _ _ _) evals_titleMissing
  obtain ⟨job, s', hexec, -, -, -, hpending, -, hannounced, -⟩ :=
    @escalation_exact .atomic plainReplies _ SystemState.initial "7" _ _ _ _ _ _ _ hpost
      (fun e h => by cases h) rfl rfl
  have hst : job.status = .recoveryPending := by
    refine hpending.mpr ⟨_, extracted_of_attempt rfl evals_titleMissing rfl, ?_⟩
    intro hfilled
    obtain ⟨v, hv, -⟩ := hfilled "title" (List.mem_singleton_self _)
    cases hv
  exact ⟨job, s', hexec, hst, hannounced hst⟩

end Sentinel
