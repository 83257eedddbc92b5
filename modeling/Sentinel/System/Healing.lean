import Sentinel.System.Wiring
import Sentinel.Worker.KnownSelectors

/-!
# Self-healing

What a successful recovery run leaves behind, and what an extraction with the known selectors
makes of it afterwards. The run tests candidates and saves them one by one; the extraction looks
them up again, in Redis or in Postgres.

* `Recovery` — a successful run on the stores and a page
* `Recovery.aftermath` — the selectors it has saved are those of its last live test
* `healed_iff_ownEntries` — the extraction gives the recovered data exactly if no required field
  has a foreign entry under its cache key
* `healed_of_lookupsApart` — only a lookup of another pair with that key can put one there
* `port_unheals` — a lookup for another site can put one there
-/

namespace Sentinel

open Lib Prog PlaywrightBrowser ExtractDataUseCase RecoveryQueueConsumer

/-- The calls of a recovery run on the selector stores and a page. -/
abbrev siteSem (jsonLoads : String → Except PyError Json) (page : Page) (image : String) :
    (op : RecoveryPort.Op) → SelectorStore → Except PyError (RecoveryPort.Ans op) →
      SelectorStore → Prop :=
  recoverySem jsonLoads fun op s r s' => workerStep page image op s = (r, s')

/-- A run of the graph for `job` with the calls `tr`, from `s` to `s'`, that ended in success. -/
structure Recovery (jsonLoads : String → Except PyError Json) (page : Page) (image : String)
    (job : Job) (tr : List RecoveryEvent) (final : RecoveryState) (s s' : SelectorStore) :
    Prop where
  run : ∃ maxAttempts limit,
    Runs (ainvoke limit (buildInitialState job maxAttempts)) tr (.ret final)
  calls : Threads (siteSem jsonLoads page image) s tr s'
  success : final.finalStatus = some .success

/-- The run has saved this selector for the field. -/
def Persisted (job : Job) (tr : List RecoveryEvent) (fieldName selectorValue : String) : Prop :=
  saveEvent job (fieldName, selectorValue) ∈ tr

/-- An extraction without candidates resolves each required field to the selector that the run has
saved, succeeds, and returns the recovered data. -/
def Healed (page : Page) (image : String) (job : Job) (tr : List RecoveryEvent)
    (final : RecoveryState) (s : SelectorStore) : Prop :=
  ∃ resolved result s',
    (resolveKnownSelectors job.domain job.requiredFields).exec (workerStep page image) s =
      (.ok resolved, s') ∧
    (∀ f ∈ job.requiredFields, ∃ v, Persisted job tr f v ∧ resolved.get? f = some v) ∧
    (execute job.url job.domain job.requiredFields none).exec (workerStep page image) s =
      (.ok result, s') ∧
    result.outcome.isSuccess = true ∧
    ∃ data, final.recoveredData = .ofDict data ∧ result.extractedData.Same data

/-- Whatever Redis has under the key of a required field was saved for it by the run. -/
def OwnEntries (job : Job) (tr : List RecoveryEvent) (s : SelectorStore) : Prop :=
  ∀ f ∈ job.requiredFields, ∀ payload, s.cache (cacheKey job.domain f) = some payload →
    Persisted job tr f payload.selectorValue

section Stores

variable {s s' : SelectorStore} {H : SelectorHistory} {page : Page} {image : String}

/-- A save appends its selector to the history. -/
theorem save_represents (h : Represents s H) (selector : Selector) : ∃ s',
    (saveSelector selector).exec storeStep s = (.ok (), s') ∧
      Represents s' (H.record (selector.domain, selector.fieldName)
        (selector.selectorValue, selector.source)) := by
  obtain ⟨m, saved, hexec, -, hrep, -⟩ := h.save selector
  exact ⟨_, hexec, hrep.of_rows rfl⟩

/-- No call of the worker spoils the table. -/
theorem workerStep_represents (op : WorkerPort.Op) (s : SelectorStore)
    (r : Except PyError (WorkerPort.Ans op)) (s' : SelectorStore) (h : ∃ H, Represents s H)
    (hstep : workerStep page image op s = (r, s')) : ∃ H, Represents s' H := by
  obtain ⟨H, h⟩ := h
  cases op with
  | getActiveSelector domain fieldName =>
    obtain ⟨a, m, hexec, hrep, -⟩ := served_get h domain fieldName
    rw [show workerStep page image (.getActiveSelector domain fieldName) s = (.ok a, m) from hexec]
      at hstep
    cases hstep
    exact ⟨H, hrep⟩
  | saveSelector selector =>
    obtain ⟨m, hexec, hrep⟩ := save_represents h selector
    rw [show workerStep page image (.saveSelector selector) s = _ from hexec] at hstep
    cases hstep
    exact ⟨_, hrep⟩
  | extractFields url selectors =>
    cases hstep
    exact ⟨H, h⟩
  | captureScreenshot url =>
    cases hstep
    exact ⟨H, h⟩

/-- Lookups and evictions leave the history as it is. -/
theorem callStep_represents {c : SelectorCall} (hc : ∀ selector, c ≠ .save selector)
    (h : Represents s H) : Represents (callStep c s).2 H := by
  cases c with
  | get domain fieldName =>
    obtain ⟨a, m, hexec, hrep, -⟩ := served_get h domain fieldName
    rw [show callStep (.get domain fieldName) s = (.ok a, m) from hexec]
    exact hrep
  | save selector => exact absurd rfl (hc selector)
  | evict key => exact h.of_rows rfl

/-- A lookup that misses puts the active selector under its key. -/
theorem callStep_get_warms {domain fieldName : String} {selector : Selector}
    (h : Represents s H) (hactive : H.active domain fieldName = some selector)
    (hcache : s.cache (cacheKey domain fieldName) = none) :
    (callStep (.get domain fieldName) s).2.cache (cacheKey domain fieldName) =
      some selector.payload := by
  show ((getActiveSelector domain fieldName).exec storeStep s).2.cache _ = _
  rcases h.get domain fieldName with ⟨payload, hhit, -⟩ | ⟨-, hexec⟩
  · rw [hcache] at hhit
    cases hhit
  · rw [hexec, hactive]
    simp [SelectorStore.setCache]

/-- After any calls on empty stores the table holds a history. -/
theorem replay_represents (calls : List SelectorCall) :
    ∃ H, Represents (replay callStep calls SelectorStore.empty).2 H := by
  refine replay_induct (P := fun s => ∃ H, Represents s H) (fun _ => True) ?_ (fun _ _ => trivial)
    ⟨_, represents_empty⟩
  rintro c s - ⟨H, h⟩
  cases c with
  | get domain fieldName => exact ⟨H, callStep_represents nofun h⟩
  | evict key => exact ⟨H, callStep_represents nofun h⟩
  | save selector =>
    obtain ⟨m, hexec, hrep⟩ := save_represents h selector
    have hm : (callStep (.save selector) s).2 = m := congrArg Prod.snd hexec
    rw [hm]
    exact ⟨_, hrep⟩

/-- What the saves of these items add to the history. -/
def approvedEntries (domain : String) (l : List (String × String)) :
    List ((String × String) × String × SelectorSource) :=
  l.map fun item => ((domain, item.1), (item.2, .aiGenerated))

theorem approvedEntries_nodup (domain : String) {l : List (String × String)}
    (hl : (l.map Prod.fst).Nodup) : ((approvedEntries domain l).map Prod.fst).Nodup := by
  have hkeys : (approvedEntries domain l).map Prod.fst =
      (l.map Prod.fst).map (Prod.mk domain) := by
    simp [approvedEntries, Function.comp_def]
  rw [hkeys]
  exact hl.map fun _ _ h => (Prod.mk.inj h).2

theorem mem_approvedEntries {domain : String} {l : List (String × String)}
    {item : String × String} (h : item ∈ l) :
    ((domain, item.1), (item.2, SelectorSource.aiGenerated)) ∈ approvedEntries domain l :=
  List.mem_map_of_mem h

/-- A series of reported saves. -/
theorem saves_represents {jsonLoads : String → Except PyError Json} {job : Job}
    {l : List (String × String)} (h : Represents s H)
    (hsaves : Threads (siteSem jsonLoads page image) s (l.map (saveEvent job)) s') :
    Represents s' (H.recordAll (approvedEntries job.domain l)) := by
  induction l generalizing s H with
  | nil =>
    cases hsaves
    exact h
  | cons item l ih =>
    cases hsaves with
    | cons hop hrest =>
      have hstep := saveApprovedSelector_ok hop
      obtain ⟨m, hexec, hrep⟩ := save_represents h
        { domain := job.domain, fieldName := item.1, selectorValue := item.2
          source := .aiGenerated }
      rw [show workerStep page image (.saveSelector _) s = _ from hexec] at hstep
      cases hstep
      exact ih hrep hrest

/-- A save ends with its selector in the cache. -/
theorem save_cache {selector : Selector}
    (h : (saveSelector selector).exec storeStep s = (.ok (), s')) :
    ∃ payload : CachedSelector, payload.selectorValue = selector.selectorValue ∧
      s'.cache = Function.update s.cache (cacheKey selector.domain selector.fieldName)
        (some payload) := by
  rw [exec_saveSelector] at h
  split at h
  · cases h
    exact ⟨_, rfl, rfl⟩
  · cases h

/-- After a series of reported saves Redis has each selector under the key of its field. -/
theorem saves_cache {jsonLoads : String → Except PyError Json} {job : Job}
    {l : List (String × String)} (hl : (l.map Prod.fst).Nodup)
    (hsaves : Threads (siteSem jsonLoads page image) s (l.map (saveEvent job)) s') :
    (∀ item ∈ l, ∃ payload, s'.cache (cacheKey job.domain item.1) = some payload ∧
      payload.selectorValue = item.2) ∧
    ∀ f, f ∉ l.map Prod.fst →
      s'.cache (cacheKey job.domain f) = s.cache (cacheKey job.domain f) := by
  induction l generalizing s with
  | nil =>
    cases hsaves
    exact ⟨nofun, fun _ _ => rfl⟩
  | cons item l ih =>
    obtain ⟨hnot, hl⟩ := List.nodup_cons.mp hl
    cases hsaves with
    | cons hop hrest =>
      obtain ⟨payload, hvalue, hcache⟩ := save_cache (saveApprovedSelector_ok hop)
      obtain ⟨hitems, hother⟩ := ih hl hrest
      refine ⟨?_, ?_⟩
      · intro x hx
        rcases List.mem_cons.mp hx with rfl | hx
        · -- the later saves are for other fields, and so under other keys
          rw [hother _ hnot, hcache]
          exact ⟨payload, Function.update_self _ _ _, hvalue⟩
        · exact hitems x hx
      · intro f hf
        have hf' : f ≠ item.1 ∧ f ∉ l.map Prod.fst := by simpa using hf
        rw [hother f hf'.2, hcache, Function.update_of_ne]
        simpa using hf'.1

end Stores

/-! ## after the run -/

/-- The saved map, and what store, page and final state have to do with it. -/
structure Aftermath (page : Page) (job : Job) (tr : List RecoveryEvent) (final : RecoveryState)
    (s' : SelectorStore) (selectors : Dict String String) (H : SelectorHistory) : Prop where
  history : Represents s' H
  persisted : ∀ f v, Persisted job tr f v ↔ selectors.get? f = some v
  active : ∀ f v, selectors.get? f = some v →
    (H.active job.domain f).map Selector.selectorValue = some v
  cached : ∀ f v, selectors.get? f = some v →
    ∃ payload, s'.cache (cacheKey job.domain f) = some payload ∧ payload.selectorValue = v
  required : ∀ f ∈ selectors.keys, f ∈ job.requiredFields
  data : final.recoveredData = .ofDict (readPage page selectors)
  complete : ∀ f ∈ job.requiredFields,
    ∃ v, (readPage page selectors).get? f = some v ∧ isBlank v = false

section Run

variable {jsonLoads : String → Except PyError Json} {page : Page} {image : String} {job : Job}
  {tr : List RecoveryEvent} {final : RecoveryState} {s s' : SelectorStore} {H : SelectorHistory}
  {selectors : Dict String String}

/-- A live test on the page reads the page with the candidates. -/
theorem liveTest_page {result : WorkerExtractionResult}
    (h : siteSem jsonLoads page image (liveTest job selectors result).op s (.ok result) s') :
    s' = s ∧ result.data = .ofDict (readPage page selectors) ∧
      result.success = (ExtractionValidator.validate (expectedSchema job.requiredFields).keys
        (readPage page selectors)).isSuccess := by
  obtain ⟨attempt, hattempt, rfl⟩ := validateSelectors_ok h
  rw [evals_iff_exec (fun _ _ _ _ => Iff.rfl)] at hattempt
  have hsel : (selectorsFor job.domain (expectedSchema job.requiredFields).keys
      (some selectors)).exec (workerStep page image) s = (.ok selectors, s) := rfl
  rw [exec_execute hsel] at hattempt
  cases hattempt
  exact ⟨rfl, rfl, rfl⟩

theorem persisted_iff {pre : List RecoveryEvent} (hpre : NoSave pre)
    {result : WorkerExtractionResult} {f v : String} :
    Persisted job (pre ++ liveTest job selectors result ::
      selectors.entries.map (saveEvent job)) f v ↔ selectors.get? f = some v := by
  rw [← Dict.mem_entries_iff]
  constructor
  · intro h
    rcases List.mem_append.mp h with h | h
    · exact absurd rfl (hpre _ h _ _ _)
    · rcases List.mem_cons.mp h with h | h
      · cases congrArg Event.op h
      · obtain ⟨item, hitem, heq⟩ := List.mem_map.mp h
        cases congrArg Event.op heq
        exact hitem
  · intro h
    exact List.mem_append_right _ (List.mem_cons_of_mem _ (List.mem_map_of_mem h))

/-- **What a successful run leaves behind.** -/
theorem Recovery.aftermath (h : Recovery jsonLoads page image job tr final s s')
    (hs : ∃ H, Represents s H) : ∃ selectors H, Aftermath page job tr final s' selectors H := by
  obtain ⟨maxAttempts, limit, hruns⟩ := h.run
  have hsettled : Settled job (.ok final) tr := ainvoke_settled hruns
  obtain ⟨selectors, result, ⟨pre, rfl, hok, hno, hprop⟩, hdata⟩ :=
    hsettled.2 h.success
  obtain ⟨m, hpre, hrest⟩ := h.calls.append
  obtain ⟨H₁, hrep₁⟩ := hpre.preserves (recoverySem_preserves workerStep_represents) hs
  cases hrest with
  | cons hlive hsaves =>
    obtain ⟨rfl, hresult, hverdict⟩ := liveTest_page hlive
    refine ⟨selectors, _, saves_represents hrep₁ hsaves, fun f v => persisted_iff hno, ?_, ?_, ?_,
      hdata.trans hresult, ?_⟩
    · intro f v hv
      have hlast := History.recordAll_of_mem H₁
        (approvedEntries_nodup job.domain selectors.nodup)
        (mem_approvedEntries (Dict.mem_entries_iff.mpr hv))
      simp [SelectorHistory.active, History.current, hlast]
    · intro f v hv
      exact (saves_cache selectors.nodup hsaves).1 _ (Dict.mem_entries_iff.mpr hv)
    · intro f hf
      obtain ⟨screenshot, history, hmem⟩ := hprop
      obtain ⟨_, _, -, hproposes⟩ := hpre.mem hmem
      exact mem_expectedSchema_keys.mp (hproposes.keys f hf)
    · intro f hf
      rw [hverdict, ExtractionValidator.validate_isSuccess] at hok
      exact hok f (mem_expectedSchema_keys.mpr hf)

/-! ## the extraction afterwards -/

/-- The run has saved a selector for every required field. -/
theorem Aftermath.saved (hA : Aftermath page job tr final s' selectors H) {f : String}
    (hf : f ∈ job.requiredFields) : ∃ v, selectors.get? f = some v := by
  obtain ⟨w, hw, -⟩ := hA.complete f hf
  rw [get?_readPage, Option.bind_eq_some_iff] at hw
  obtain ⟨v, hv, -⟩ := hw
  exact ⟨v, hv⟩

/-- A foreign entry under the key of a required field is served instead of the saved selector. -/
theorem Healed.ownEntries (hs : Represents s H) (h : Healed page image job tr final s) :
    OwnEntries job tr s := by
  obtain ⟨resolved, result, m, hresolve, hall, -⟩ := h
  obtain ⟨resolved', m', hexec, -, hserved⟩ :=
    exec_resolveKnownSelectors page image job.domain hs job.requiredFields
  rw [hresolve] at hexec
  cases hexec
  intro f hf payload hcache
  obtain ⟨v, hv, hget⟩ := hall f hf
  rw [hserved, if_pos hf, served_hit hcache] at hget
  cases hget
  exact hv

/-- Without a cache entry, or with one of its own, a required field is served what was saved. -/
theorem Aftermath.served (hA : Aftermath page job tr final s' selectors H) (hs : Represents s H)
    (hown : OwnEntries job tr s) {f : String} (hf : f ∈ job.requiredFields) :
    served s job.domain f = selectors.get? f := by
  obtain ⟨v, hv⟩ := hA.saved hf
  cases hc : s.cache (cacheKey job.domain f) with
  | none => rw [served_miss hs hc, hA.active f v hv, hv]
  | some payload => rw [served_hit hc, (hA.persisted f _).mp (hown f hf payload hc)]

theorem Aftermath.healed (hA : Aftermath page job tr final s' selectors H) (hs : Represents s H)
    (hown : OwnEntries job tr s) : Healed page image job tr final s := by
  obtain ⟨resolved, m, hexec, -, hserved⟩ :=
    exec_resolveKnownSelectors page image job.domain hs job.requiredFields
  -- as maps, the resolved selectors are the saved ones
  have hsame : resolved.Same selectors := by
    intro k
    rw [hserved]
    by_cases hk : k ∈ job.requiredFields
    · rw [if_pos hk, hA.served hs hown hk]
    · rw [if_neg hk, eq_comm, Dict.get?_eq_none_iff]
      exact fun hmem => hk (hA.required k hmem)
  have hdata : (readPage page resolved).Same (readPage page selectors) := by
    intro k
    rw [get?_readPage, get?_readPage, hsame]
  refine ⟨resolved, _, m, hexec, ?_, exec_execute hexec, ?_, _, hA.data, hdata⟩
  · intro f hf
    obtain ⟨v, hv⟩ := hA.saved hf
    exact ⟨v, (hA.persisted f v).mpr hv, (hsame f).trans hv⟩
  · rw [ExtractionValidator.validate_isSuccess]
    intro f hf
    rw [hdata f]
    exact hA.complete f hf

/--
**Self-healing.** Take any stores that calls can lead to, a successful run, and lookups and
evictions after it. An extraction with the known selectors then resolves every required field to
the selector just saved and returns the recovered data, if and only if what Redis has under the
keys of the required fields was saved by the run.
-/
theorem healed_iff_ownEntries {before after : List SelectorCall}
    (hrun : Recovery jsonLoads page image job tr final
      (replay callStep before SelectorStore.empty).2 s')
    (hafter : ∀ c ∈ after, ∀ selector, c ≠ .save selector) :
    Healed page image job tr final (replay callStep after s').2 ↔
      OwnEntries job tr (replay callStep after s').2 := by
  obtain ⟨selectors, H, hA⟩ := hrun.aftermath (replay_represents before)
  have hs : Represents (replay callStep after s').2 H :=
    replay_induct (P := fun s => Represents s H) (fun c => ∀ selector, c ≠ .save selector)
      (fun _ _ hc h => callStep_represents hc h) hafter hA.history
  exact ⟨fun h => h.ownEntries hs, fun h => hA.healed hs h⟩

/-! ## keys apart -/

/-- No lookup among the calls is for another pair with the cache key of a required field. -/
def LookupsApart (job : Job) (calls : List SelectorCall) : Prop :=
  ∀ c ∈ calls, ∀ d f, c = .get d f → ∀ r ∈ job.requiredFields,
    cacheKey d f = cacheKey job.domain r → (d, f) = (job.domain, r)

/-- Right after the run Redis has what the run has saved. -/
theorem Aftermath.ownEntries (hA : Aftermath page job tr final s' selectors H) :
    OwnEntries job tr s' := by
  intro f hf payload hcache
  obtain ⟨v, hv⟩ := hA.saved hf
  obtain ⟨payload', hcache', hvalue⟩ := hA.cached f v hv
  rw [hcache] at hcache'
  cases hcache'
  rw [hvalue]
  exact (hA.persisted f v).mpr hv

/-- A call that is no save, and no lookup of another pair with the key of a required field, puts
no foreign entry there. -/
theorem Aftermath.ownEntries_callStep (hA : Aftermath page job tr final s' selectors H)
    (hs : Represents s H) (hown : OwnEntries job tr s) {c : SelectorCall}
    (hc : ∀ selector, c ≠ .save selector)
    (hapart : ∀ d f, c = .get d f → ∀ r ∈ job.requiredFields,
      cacheKey d f = cacheKey job.domain r → (d, f) = (job.domain, r)) :
    OwnEntries job tr (callStep c s).2 := by
  cases c with
  | save selector => exact absurd rfl (hc selector)
  | evict key =>
    intro r hr payload hcache
    by_cases hk : cacheKey job.domain r = key
    · simp [callStep, SelectorStore.evict, hk] at hcache
    · exact hown r hr payload (by simpa [callStep, SelectorStore.evict, hk] using hcache)
  | get d f =>
    show OwnEntries job tr ((getActiveSelector d f).exec storeStep s).2
    rcases hs.get d f with ⟨payload, -, hexec⟩ | ⟨-, hexec⟩
    · rw [hexec]
      exact hown
    · rw [hexec]
      cases hactive : H.active d f with
      | none => exact hown
      | some selector =>
        intro r hr payload hcache
        by_cases hk : cacheKey job.domain r = cacheKey d f
        · -- the lookup was for the required field, whose active selector is the saved one
          cases hapart d f rfl r hr hk.symm
          have hpayload : selector.payload = payload := by
            simpa [SelectorStore.setCache] using hcache
          obtain ⟨v, hv⟩ := hA.saved hr
          have hvalue := hA.active f v hv
          rw [hactive, Option.map_some, Option.some.injEq] at hvalue
          rw [← hpayload, show selector.payload.selectorValue = v from hvalue]
          exact (hA.persisted f v).mpr hv
        · exact hown r hr payload (by simpa [SelectorStore.setCache, hk] using hcache)

/-- **Without a lookup under a common key self-healing heals**, whatever the stores were before
the run. -/
theorem healed_of_lookupsApart {before after : List SelectorCall}
    (hrun : Recovery jsonLoads page image job tr final
      (replay callStep before SelectorStore.empty).2 s')
    (hafter : ∀ c ∈ after, ∀ selector, c ≠ .save selector) (hapart : LookupsApart job after) :
    Healed page image job tr final (replay callStep after s').2 := by
  obtain ⟨selectors, H, hA⟩ := hrun.aftermath (replay_represents before)
  have hend : Represents (replay callStep after s').2 H ∧
      OwnEntries job tr (replay callStep after s').2 := by
    refine replay_induct (P := fun s => Represents s H ∧ OwnEntries job tr s)
      (fun c => (∀ selector, c ≠ .save selector) ∧ ∀ d f, c = .get d f →
        ∀ r ∈ job.requiredFields, cacheKey d f = cacheKey job.domain r →
          (d, f) = (job.domain, r)) ?_ (fun c hc => ⟨hafter c hc, hapart c hc⟩)
      ⟨hA.history, hA.ownEntries⟩
    rintro c s ⟨hc, hap⟩ ⟨hs, hown⟩
    exact ⟨callStep_represents hc hs, hA.ownEntries_callStep hs hown hc hap⟩
  exact hA.healed hend.1 hend.2

end Run

/-! ## a run on one page -/

def portJob : Job where
  id := "8"
  url := "https://shop.test/1"
  domain := "shop.test"
  requiredFields := ["8080:price"]
  status := .recoveryPending

def portSelectors : Dict String String :=
  Dict.empty.set "8080:price" ".css-selector-for-8080:price"

/-- What the mock proposes is there, and so is what was once saved for another site. -/
def portPage : Page := fun selector =>
  if selector = ".css-selector-for-8080:price" then some (some " 9 ")
  else if selector = ".p" then some (some "7")
  else none

def portRun : List RecoveryEvent :=
  [⟨.captureScreenshot "https://shop.test/1", .ok (.str "png")⟩,
    ⟨.proposeSelectors (.str "png") (expectedSchema ["8080:price"]) [],
      .ok ⟨true, portSelectors⟩⟩,
    liveTest portJob portSelectors ⟨true, .ofDict (readPage portPage portSelectors), none⟩,
    saveEvent portJob ("8080:price", ".css-selector-for-8080:price")]

/-- A parser that accepts nothing; the mock engine does not use it. -/
def noJson : String → Except PyError Json := fun _ => .error .jsonDecodeError

theorem port_runs : ∃ final, Runs (ainvoke 25 (buildInitialState portJob 3)) portRun (.ret final) ∧
    final.finalStatus = some .success := by
  apply Exists.intro
  constructor
  · iterate 4 apply Runs.call
    exact Runs.refl _
  · rfl

theorem port_recovery {s : SelectorStore} {H : SelectorHistory} (h : Represents s H) :
    ∃ final s', Recovery noJson portPage "png" portJob portRun final s s' ∧
      Represents s' (H.record ("shop.test", "8080:price")
        (".css-selector-for-8080:price", .aiGenerated)) := by
  obtain ⟨final, hruns, hsuccess⟩ := port_runs
  obtain ⟨s', hexec, hrep⟩ := save_represents h
    ⟨"shop.test", "8080:price", ".css-selector-for-8080:price", .aiGenerated, 1⟩
  have hvalid : ExtractionValidator.validate ["8080:price"] (readPage portPage portSelectors) =
      ⟨true, none, []⟩ := by decide
  have hlive : siteSem noJson portPage "png" (liveTest portJob portSelectors
      ⟨true, .ofDict (readPage portPage portSelectors), none⟩).op s
      (.ok ⟨true, .ofDict (readPage portPage portSelectors), none⟩) s := by
    have hsel : (selectorsFor "shop.test" ["8080:price"] (some portSelectors)).exec
        (workerStep portPage "png") s = (.ok portSelectors, s) := rfl
    have hexec : (execute "https://shop.test/1" "shop.test" ["8080:price"]
        (some portSelectors)).exec (workerStep portPage "png") s = _ := exec_execute hsel
    have hattempt := evals_validateSelectors ((evals_iff_exec fun _ _ _ _ => Iff.rfl).mpr hexec)
    rw [hvalid] at hattempt
    exact hattempt
  refine ⟨final, s', ⟨⟨3, 25, hruns⟩, ?_, hsuccess⟩, hrep⟩
  refine Threads.cons (evals_captureScreenshot ?_) <| Threads.cons ⟨rfl, Proposes.mock true⟩ <|
    Threads.cons hlive <| Threads.cons (evals_saveApprovedSelector hexec) (Threads.nil _)
  show (_, s) = (_, s)
  rw [exec_captureScreenshot]

/-- An eviction after the run makes no difference. -/
theorem healed_iff_ownEntries_port : ∃ final s',
    Recovery noJson portPage "png" portJob portRun final SelectorStore.empty s' ∧
      Healed portPage "png" portJob portRun final
        (replay callStep [.evict (cacheKey "shop.test" "8080:price")] s').2 := by
  obtain ⟨final, s', hrun, -⟩ := port_recovery represents_empty
  refine ⟨final, s', hrun, ?_⟩
  have hrun' : Recovery noJson portPage "png" portJob portRun final
      (replay callStep [] SelectorStore.empty).2 s' := hrun
  refine (healed_iff_ownEntries hrun' (by simp)).mpr ?_
  intro f hf payload hcache
  cases List.mem_singleton.mp hf
  simp [callStep, SelectorStore.evict, portJob] at hcache

/-- A selector of the field `price` of the same site on port 8080. -/
def otherSelector : Selector := ⟨"shop.test:8080", "price", ".p", .manual, 1⟩

/-- The other selector is known, and the run heals the field `8080:price` of the site itself. Then
Redis drops the entry and the other field is looked up: from then on the extraction of the healed
field reads the page with the other selector. -/
theorem port_unheals : ∃ final s',
    Recovery noJson portPage "png" portJob portRun final
        (replay callStep [.save otherSelector] SelectorStore.empty).2 s' ∧
      ¬Healed portPage "png" portJob portRun final
        (replay callStep [.evict (cacheKey "shop.test" "8080:price"),
          .get "shop.test:8080" "price"] s').2 := by
  obtain ⟨m, hexec, hrep⟩ := save_represents represents_empty otherSelector
  have hm : (replay callStep [.save otherSelector] SelectorStore.empty).2 = m :=
    congrArg Prod.snd hexec
  rw [hm]
  obtain ⟨final, s', hrun, hrep'⟩ := port_recovery hrep
  refine ⟨final, s', hrun, fun hhealed => ?_⟩
  have hkey : cacheKey "shop.test:8080" "price" = cacheKey "shop.test" "8080:price" := by decide
  have hevict := callStep_represents (c := .evict (cacheKey "shop.test" "8080:price"))
    (fun _ => by rintro ⟨⟩) hrep'
  have hactive := active_record_of_ne (History.record History.empty ("shop.test:8080", "price")
    (".p", .manual)) (p := ("shop.test", "8080:price"))
    (".css-selector-for-8080:price", .aiGenerated) (d := "shop.test:8080") (f := "price")
    (by decide)
  -- the lookup misses and puts its own selector under the common key
  have hwarm := callStep_get_warms hevict hactive
    (by simp [callStep, SelectorStore.evict, hkey])
  have hown := hhealed.ownEntries (callStep_represents (fun _ => by rintro ⟨⟩) hevict)
  rw [hkey] at hwarm
  have hp := hown "8080:price" (List.mem_singleton_self _) _ hwarm
  simp [Persisted, saveEvent, portRun, liveTest, portJob, Selector.payload] at hp

end Sentinel
