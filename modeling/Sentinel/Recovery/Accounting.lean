import Sentinel.Recovery.Attempts

/-!
# The accounting of a recovery run

What a whole run has done, told by the attempts it made: how many, what the engine was shown
before each, and how the last one ended the run.

* `proposalHistories` — the histories the engine was shown, read off the record of the calls
* `Accounted` — the account of a run
* `attempts_exact` — without a step limit, every run halts with such an account
-/

namespace Sentinel

open Lib Prog RecoveryQueueConsumer

/-! ## the histories -/

/-- The histories the engine was shown, one for each proposal asked for. -/
def proposalHistories (tr : List RecoveryEvent) : List (List RejectionReason) :=
  tr.filterMap fun ev =>
    match ev.op with
    | .proposeSelectors _ _ history => some history
    | _ => none

section Histories

variable {job : Job} {screenshot : String} {history : List RejectionReason}

theorem proposalHistories_append (tr tr' : List RecoveryEvent) :
    proposalHistories (tr ++ tr') = proposalHistories tr ++ proposalHistories tr' :=
  List.filterMap_append

theorem proposalHistories_saves (l : List (String × String)) :
    proposalHistories (l.map (saveEvent job)) = [] := by
  unfold proposalHistories
  rw [List.filterMap_map]
  exact List.filterMap_eq_nil_iff.mpr fun _ _ => rfl

/-- Each attempt asks once, with the history as it is. -/
theorem proposalHistories_events (a : Attempt) :
    proposalHistories (a.events job screenshot history) = [history] := by
  cases a with
  | unconfident selectors => rfl
  | tested selectors r =>
    cases r with
    | error e => rfl
    | ok result =>
      show history :: proposalHistories (if result.success then _ else []) = [history]
      split
      · rw [proposalHistories_saves]
      · rfl

theorem proposalHistories_recordFrom (history : List RejectionReason) (attempts : List Attempt) :
    proposalHistories (recordFrom job screenshot history attempts) =
      (List.range attempts.length).map fun i => historyAfter history (attempts.take i) := by
  induction attempts generalizing history with
  | nil => rfl
  | cons a attempts ih =>
    rw [recordFrom, proposalHistories_append, proposalHistories_events, ih, List.length_cons,
      List.range_succ_eq_map, List.map_cons, List.map_map]
    rfl

/-- A rejected attempt adds the one entry it has a reason for. -/
theorem addTo_of_rejected {a : Attempt} (h : a.verdict = .rejected) : ∃ reason,
    a.reason (1 + history.length) = some reason ∧ a.addTo history = history ++ [reason] := by
  have hlen := length_addTo h history
  unfold Attempt.addTo at hlen ⊢
  cases hr : a.reason (1 + history.length) with
  | none => simp [hr] at hlen
  | some reason => exact ⟨reason, rfl, rfl⟩

/-- After rejected attempts the history has one entry more for each, their reasons in order. -/
theorem historyAfter_rejected {attempts : List Attempt}
    (h : ∀ a ∈ attempts, a.verdict = .rejected) (history : List RejectionReason) :
    history <+: historyAfter history attempts ∧
      (historyAfter history attempts).length = history.length + attempts.length ∧
      ∀ j, j < attempts.length → (historyAfter history attempts)[history.length + j]? =
        attempts[j]?.bind (Attempt.reason (1 + (history.length + j : Nat))) := by
  induction attempts generalizing history with
  | nil => exact ⟨List.prefix_refl _, rfl, nofun⟩
  | cons a attempts ih =>
    obtain ⟨reason, hreason, hadd⟩ := addTo_of_rejected (h a List.mem_cons_self)
    obtain ⟨hpre, hlen, hentries⟩ :=
      ih (fun a' ha' => h a' (List.mem_cons_of_mem _ ha')) (a.addTo history)
    have hafter : historyAfter history (a :: attempts) = historyAfter (a.addTo history) attempts :=
      rfl
    rw [hafter]
    rw [hadd] at hpre hlen hentries ⊢
    rw [List.length_append, List.length_singleton] at hlen hentries
    refine ⟨(List.prefix_append _ _).trans hpre, by rw [hlen, List.length_cons]; omega, ?_⟩
    intro j hj
    cases j with
    | zero =>
      obtain ⟨rest, hrest⟩ := hpre
      rw [← hrest]
      simp [hreason]
    | succ j =>
      have := hentries j (Nat.lt_of_succ_lt_succ hj)
      rw [show history.length + (j + 1) = history.length + 1 + j by omega]
      simpa using this

end Histories

/-! ## the live tests -/

section LiveTests

variable {job : Job} {screenshot : String} {history : List RejectionReason}
  {url domain : String} {fields : List String} {selectors : Dict String String}
  {r : Except PyError WorkerExtractionResult}

theorem liveTest_mem_events {a : Attempt} :
    (⟨.validateSelectors url domain fields selectors, r⟩ : RecoveryEvent) ∈
      a.events job screenshot history ↔
    (url = job.url ∧ domain = job.domain ∧ fields = (expectedSchema job.requiredFields).keys) ∧
      a = .tested selectors r := by
  have hsave : ∀ l : List (String × String),
      (⟨.validateSelectors url domain fields selectors, r⟩ : RecoveryEvent) ∉
        l.map (saveEvent job) := by
    intro l hl
    obtain ⟨item, -, h⟩ := List.mem_map.mp hl
    cases h
  cases a with
  | unconfident selectors' => simp [Attempt.events]
  | tested selectors' r' =>
    unfold Attempt.events
    rw [List.mem_cons, List.mem_cons]
    constructor
    · rintro (h | h | h)
      · cases h
      · cases h
        exact ⟨⟨rfl, rfl, rfl⟩, rfl⟩
      · -- what follows is saves, if anything
        exfalso
        cases r' with
        | error e => exact List.not_mem_nil h
        | ok result =>
          dsimp only at h
          split at h
          · exact hsave _ h
          · exact List.not_mem_nil h
    · rintro ⟨⟨rfl, rfl, rfl⟩, h⟩
      cases h
      exact Or.inr (Or.inl rfl)

/-- The live tests of the record are those of the attempts. -/
theorem liveTest_mem_recordFrom {attempts : List Attempt} :
    (⟨.validateSelectors url domain fields selectors, r⟩ : RecoveryEvent) ∈
      recordFrom job screenshot history attempts ↔
    (url = job.url ∧ domain = job.domain ∧ fields = (expectedSchema job.requiredFields).keys) ∧
      .tested selectors r ∈ attempts := by
  induction attempts generalizing history with
  | nil => simp [recordFrom]
  | cons a attempts ih =>
    rw [recordFrom, List.mem_append, liveTest_mem_events, ih, List.mem_cons, ← and_or_left]
    exact and_congr_right fun _ => or_congr_left eq_comm

end LiveTests

/-! ## a whole run -/

/-- The state after the screenshot. -/
def photographed (job : Job) (m : Int) (screenshot : String) : RecoveryState :=
  (buildInitialState job m).merge { screenshotBase64 := some (.str screenshot) }

theorem photographed_atAttempt (job : Job) (m : Int) (screenshot : String) :
    AtAttempt job m screenshot [] (photographed job m screenshot) :=
  ⟨rfl, rfl, rfl, rfl, rfl, rfl, rfl⟩

def screenshotEvent (job : Job) (screenshot : String) : RecoveryEvent :=
  ⟨.captureScreenshot job.url, .ok (.str screenshot)⟩

theorem exec_ainvoke (x : Collaborators) (job : Job) (m : Int) (limit : Nat) :
    (ainvoke (limit + 1) (buildInitialState job m)).exec (recorded x.answer) [] =
      (runFrom limit .analyzeAndPropose
        (photographed job m (x.captureScreenshot [] job.url))).exec (recorded x.answer)
          [screenshotEvent job (x.captureScreenshot [] job.url)] :=
  exec_runFrom_next rfl rfl limit

/-- The attempts of a run that returned `final`, with the record `tr` of its calls: what they
called, how many there were, how they ended, and what the engine was shown before each. -/
structure Accounted (job : Job) (m : Int) (attempts : List Attempt) (tr : List RecoveryEvent)
    (final : RecoveryState) : Prop where
  record : ∃ screenshot,
    tr = screenshotEvent job screenshot :: recordFrom job screenshot [] attempts
  returned : ∀ a ∈ attempts, ∀ e, a.verdict ≠ .aborted e
  accepted : ∀ k a, attempts[k]? = some a → a.verdict = .accepted →
    attempts.length = k + 1 ∧ (k + 1 : Int) ≤ max 1 m ∧ final.finalStatus = some .success
  exhausted : (∀ a ∈ attempts, a.verdict ≠ .accepted) →
    (attempts.length : Int) = max 1 m ∧ final.finalStatus = some .needsHumanReview
  proposals : (proposalHistories tr).length = attempts.length
  histories : ∀ i history, (proposalHistories tr)[i]? = some history →
    history.length = i ∧
      ∀ j, j < i → history[j]? = attempts[j]?.bind (Attempt.reason (1 + (j : Nat)))
  attemptNumber : final.attemptNumber = 1 + final.rejectionHistory.length

section Run

variable {x : Collaborators} {job : Job} {m : Int}

/-- Before each attempt the engine is shown the reasons of the attempts before. -/
theorem histories_of_rejected {init : List Attempt} {last : Attempt} {screenshot : String}
    (h : ∀ a ∈ init, a.verdict = .rejected) {i : Nat} {history : List RejectionReason}
    (hi : (proposalHistories (recordFrom job screenshot [] (init ++ [last])))[i]? = some history) :
    history.length = i ∧
      ∀ j, j < i → history[j]? = (init ++ [last])[j]?.bind (Attempt.reason (1 + (j : Nat))) := by
  rw [proposalHistories_recordFrom, List.getElem?_map, Option.map_eq_some_iff] at hi
  obtain ⟨i', hi', rfl⟩ := hi
  obtain ⟨hlt, heq⟩ := List.getElem?_eq_some_iff.mp hi'
  rw [List.getElem_range] at heq
  subst heq
  rw [List.length_range, List.length_append, List.length_singleton] at hlt
  have hle : i ≤ init.length := Nat.lt_succ_iff.mp hlt
  rw [List.take_append_of_le_length hle]
  obtain ⟨-, hlen, hentries⟩ :=
    historyAfter_rejected (fun a ha => h a (List.mem_of_mem_take ha)) []
  rw [List.length_nil, Nat.zero_add, List.length_take, Nat.min_eq_left hle] at hlen
  refine ⟨hlen, fun j hj => ?_⟩
  have hentry := hentries j (by rw [List.length_take, Nat.min_eq_left hle]; exact hj)
  rw [List.length_nil, Nat.zero_add, List.getElem?_take_of_lt hj] at hentry
  rw [hentry, List.getElem?_append_left (Nat.lt_of_lt_of_le hj hle)]

/-- Only the last attempt can be accepted. -/
theorem accepted_last {init : List Attempt} {last : Attempt}
    (h : ∀ a ∈ init, a.verdict = .rejected) {k : Nat} {a : Attempt}
    (hk : (init ++ [last])[k]? = some a) (ha : a.verdict = .accepted) :
    k = init.length ∧ a = last := by
  rcases Nat.lt_or_ge k init.length with hlt | hge
  · rw [List.getElem?_append_left hlt] at hk
    rw [h a (List.mem_of_getElem? hk)] at ha
    cases ha
  · rw [List.getElem?_append_right hge, List.getElem?_singleton] at hk
    split at hk
    · exact ⟨by omega, (Option.some.inj hk).symm⟩
    · cases hk

/-- A run that ends without an aborted attempt is accounted for. -/
theorem RunsAs.accounted {screenshot : String} {state : RecoveryState} {tr : List RecoveryEvent}
    {b : Nat} {init : List Attempt} {last : Attempt} {out : Except PyError RecoveryState}
    (h : RunsAs x job screenshot [] state tr b init last out) (hb : (b : Int) + 1 = max 1 m)
    (hlast : ∀ e, last.verdict ≠ .aborted e) :
    ∃ final, out = .ok final ∧ Accounted job m (init ++ [last])
      (screenshotEvent job screenshot :: recordFrom job screenshot [] (init ++ [last])) final := by
  have hlen : (init ++ [last]).length = init.length + 1 := by simp
  have hwithin : ((init.length : Nat) + 1 : Int) ≤ max 1 m := by
    have := h.within
    omega
  have hreturned : ∀ a ∈ init ++ [last], ∀ e, a.verdict ≠ .aborted e := by
    intro a ha e
    rcases List.mem_append.mp ha with ha | ha
    · rw [h.rejected a ha]
      nofun
    · rw [List.mem_singleton.mp ha]
      exact hlast e
  have hproposals : (proposalHistories (screenshotEvent job screenshot ::
      recordFrom job screenshot [] (init ++ [last]))).length = (init ++ [last]).length := by
    show (proposalHistories (recordFrom job screenshot [] (init ++ [last]))).length = _
    rw [proposalHistories_recordFrom, List.length_map, List.length_range]
  have hends := h.ends
  unfold Ends at hends
  cases hv : last.verdict with
  | aborted e => exact absurd hv (hlast e)
  | accepted =>
    rw [hv] at hends
    obtain ⟨final, rfl, hfinal⟩ := hends
    refine ⟨final, rfl, ⟨screenshot, rfl⟩, hreturned, ?_, ?_, hproposals,
      fun i history hi => histories_of_rejected h.rejected hi, ?_⟩
    · intro k a hk ha
      obtain ⟨rfl, -⟩ := accepted_last h.rejected hk ha
      exact ⟨hlen, hwithin, hfinal.status⟩
    · intro hnone
      exact absurd hv (hnone last (List.mem_append_right _ (List.mem_singleton_self _)))
    · rw [hfinal.rejectionHistory, hfinal.attemptNumber]
  | rejected =>
    rw [hv] at hends
    obtain ⟨final, rfl, hfinal⟩ := hends
    refine ⟨final, rfl, ⟨screenshot, rfl⟩, hreturned, ?_, ?_, hproposals,
      fun i history hi => histories_of_rejected h.rejected hi, ?_⟩
    · intro k a hk ha
      obtain ⟨-, rfl⟩ := accepted_last h.rejected hk ha
      rw [hv] at ha
      cases ha
    · intro _
      have := h.exhausted hv
      exact ⟨by rw [hlen]; omega, hfinal.status⟩
    · rw [hfinal.rejectionHistory, hfinal.attemptNumber]

/-- Every run of the graph, for every step limit: what it does once the limit is large enough, and
that it raises before. -/
theorem exec_ainvoke_runsAs (x : Collaborators) (job : Job) (m : Int) :
    ∃ (b : Nat) (init : List Attempt) (last : Attempt) (out : Except PyError RecoveryState),
    (b : Int) + 1 = max 1 m ∧
    RunsAs x job (x.captureScreenshot [] job.url) []
      (photographed job m (x.captureScreenshot [] job.url))
      [screenshotEvent job (x.captureScreenshot [] job.url)] b init last out := by
  obtain ⟨init, last, out, hruns⟩ := @exec_attempts x job m _ [] _ (max 1 m - 1).toNat
    (photographed_atAttempt job m (x.captureScreenshot [] job.url))
    (by rw [List.length_nil]; omega) [screenshotEvent job (x.captureScreenshot [] job.url)]
  exact ⟨_, init, last, out, by omega, hruns⟩

/-- A live test in the record of a run was answered by the worker, as things stood then. -/
theorem liveTest_answered {tr : List RecoveryEvent} {out : Except PyError RecoveryState}
    {limit : Nat}
    (h : (ainvoke limit (buildInitialState job m)).exec (recorded x.answer) [] = (out, tr))
    {url domain : String} {fields : List String} {selectors : Dict String String}
    {r : Except PyError WorkerExtractionResult}
    (hev : (⟨.validateSelectors url domain fields selectors, r⟩ : RecoveryEvent) ∈ tr) :
    ∃ pre suf, tr = pre ++ ⟨.validateSelectors url domain fields selectors, r⟩ :: suf ∧
      x.validateSelectors pre url domain fields selectors = r := by
  obtain ⟨pre, suf, htr⟩ := List.append_of_mem hev
  exact ⟨pre, suf, htr, ((exec_recorded h).2 pre _ suf htr (Nat.zero_le _)).symm⟩

/-- The run of which `RunsAs` speaks. -/
theorem RunsAs.ainvoke {b : Nat} {init : List Attempt} {last : Attempt}
    {out : Except PyError RecoveryState}
    (h : RunsAs x job (x.captureScreenshot [] job.url) []
      (photographed job m (x.captureScreenshot [] job.url))
      [screenshotEvent job (x.captureScreenshot [] job.url)] b init last out)
    {limit : Nat} (hlimit : 2 * init.length + 4 ≤ limit) :
    (ainvoke limit (buildInitialState job m)).exec (recorded x.answer) [] =
      (out, screenshotEvent job (x.captureScreenshot [] job.url) ::
        recordFrom job (x.captureScreenshot [] job.url) [] (init ++ [last])) := by
  obtain ⟨n, rfl⟩ : ∃ n, limit = n + 1 := ⟨limit - 1, by omega⟩
  rw [exec_ainvoke, h.run n (by omega)]
  rfl

/-- The last live test of a run was answered by the worker. -/
theorem RunsAs.last_answered {b : Nat} {init : List Attempt} {selectors : Dict String String}
    {r : Except PyError WorkerExtractionResult} {out : Except PyError RecoveryState}
    (h : RunsAs x job (x.captureScreenshot [] job.url) []
      (photographed job m (x.captureScreenshot [] job.url))
      [screenshotEvent job (x.captureScreenshot [] job.url)] b init (.tested selectors r) out) :
    ∃ pre, x.validateSelectors pre job.url job.domain (expectedSchema job.requiredFields).keys
      selectors = r := by
  have hmem := (@liveTest_mem_recordFrom job (x.captureScreenshot [] job.url) [] _ _ _ selectors r
    (init ++ [.tested selectors r])).mpr ⟨⟨rfl, rfl, rfl⟩, by simp⟩
  obtain ⟨pre, suf, -, hanswer⟩ :=
    liveTest_answered (h.ainvoke (Nat.le_refl _)) (List.mem_cons_of_mem _ hmem)
  exact ⟨pre, hanswer⟩

/-- A run with collaborators whose calls return has no aborted attempt. -/
theorem RunsAs.returned {b : Nat} {init : List Attempt} {last : Attempt}
    {out : Except PyError RecoveryState}
    (h : RunsAs x job (x.captureScreenshot [] job.url) []
      (photographed job m (x.captureScreenshot [] job.url))
      [screenshotEvent job (x.captureScreenshot [] job.url)] b init last out)
    (hx : x.Return) (e : PyError) : last.verdict ≠ .aborted e := by
  intro hlast
  obtain ⟨selectors, rfl⟩ := Attempt.eq_of_aborted hlast
  obtain ⟨pre, hanswer⟩ := h.last_answered
  obtain ⟨result, hresult⟩ :=
    hx pre job.url job.domain (expectedSchema job.requiredFields).keys selectors
  rw [hresult] at hanswer
  cases hanswer

/-- **Exact attempt accounting.** With collaborators whose calls return, a run without a step
limit halts, and its attempts are accounted for. -/
theorem attempts_exact (hx : x.Return) (job : Job) (m : Int) : ∃ attempts tr final,
    (∃ limit₀, ∀ limit, limit₀ ≤ limit →
      (ainvoke limit (buildInitialState job m)).exec (recorded x.answer) [] = (.ok final, tr)) ∧
    Accounted job m attempts tr final := by
  obtain ⟨b, init, last, out, hb, hruns⟩ := exec_ainvoke_runsAs x job m
  obtain ⟨final, rfl, haccounted⟩ := hruns.accounted hb (hruns.returned hx)
  exact ⟨_, _, final, ⟨_, fun limit hlimit => hruns.ainvoke hlimit⟩, haccounted⟩

end Run

/-- An engine that is confident once it has been shown a rejection, and a worker that accepts. -/
def secondTry : Collaborators where
  captureScreenshot _ _ := "png"
  proposeSelectors _ _ _ history :=
    if history.isEmpty then ⟨false, Dict.empty⟩ else ⟨true, Dict.empty.set "title" "h1"⟩
  validateSelectors _ _ _ _ _ := .ok { success := true }

theorem attempts_exact_secondTry : ∃ attempts tr final,
    (∃ limit₀, ∀ limit, limit₀ ≤ limit →
      (ainvoke limit (buildInitialState (Job.create "7" "https://shop.test/1" "shop.test" ["title"])
        3)).exec (recorded secondTry.answer) [] = (.ok final, tr)) ∧
    Accounted (Job.create "7" "https://shop.test/1" "shop.test" ["title"]) 3 attempts tr final :=
  attempts_exact (fun _ _ _ _ _ => ⟨_, rfl⟩) _ 3

end Sentinel
