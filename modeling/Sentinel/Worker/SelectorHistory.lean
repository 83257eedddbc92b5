import Mathlib.Data.Set.Operations
import Sentinel.Lib.History
import Sentinel.Lib.Replay
import Sentinel.Worker.SelectorTable

/-!
# The selector repository as a versioned history

The repository, called by one client at a time, against the plain history of what was saved.

* `Represents` — the table holds the history of every pair, one row for each version
* `Represents.save`, `Represents.get` — no call fails, and the table follows the history
* `Warm` — the cache holds nothing but the current selector of a pair
* `repository_refines_history` — with distinct cache keys, the answers are those of the history
-/

namespace Sentinel

open Lib

inductive SelectorCall
  | get (domain fieldName : String)
  | save (selector : Selector)
  | evict (key : String)
deriving DecidableEq, Repr

/-- The pair a call is about. -/
def SelectorCall.pair : SelectorCall → Option (String × String)
  | .get domain fieldName => some (domain, fieldName)
  | .save selector => some (selector.domain, selector.fieldName)
  | .evict _ => none

/-- One call on the repository, run to its end. A save or an eviction answers nothing. -/
def callStep : SelectorCall → SelectorStore → Except PyError (Option Selector) × SelectorStore
  | .get domain fieldName, s => (getActiveSelector domain fieldName).exec storeStep s
  | .save selector, s =>
    (((saveSelector selector).exec storeStep s).1.map fun _ => none,
      ((saveSelector selector).exec storeStep s).2)
  | .evict key, s => (.ok none, s.evict key)

/-! ## the history -/

/-- For each pair of a domain and a field name, the saved values with their sources. -/
abbrev SelectorHistory := History (String × String) (String × SelectorSource)

namespace SelectorHistory

def active (H : SelectorHistory) (domain fieldName : String) : Option Selector :=
  (H.current (domain, fieldName)).map fun x =>
    { domain := domain, fieldName := fieldName, selectorValue := x.1, source := x.2
      version := H.version (domain, fieldName) }

/-- What is active for a pair depends on its own values only. -/
theorem active_congr {H H' : SelectorHistory} {domain fieldName : String}
    (h : H' (domain, fieldName) = H (domain, fieldName)) :
    H'.active domain fieldName = H.active domain fieldName := by
  simp only [active, History.current, History.version, h]

/-- An entry has no domain and no field name; a lookup puts back those of the pair. -/
theorem toSelector_payload {H : SelectorHistory} {domain fieldName : String} {selector : Selector}
    (h : H.active domain fieldName = some selector) :
    selector.payload.toSelector domain fieldName = selector := by
  obtain ⟨x, -, rfl⟩ := Option.map_eq_some_iff.mp h
  rfl

end SelectorHistory

def historyStep : SelectorCall → SelectorHistory →
    Except PyError (Option Selector) × SelectorHistory
  | .get domain fieldName, H => (.ok (H.active domain fieldName), H)
  | .save selector, H =>
    (.ok none, H.record (selector.domain, selector.fieldName)
      (selector.selectorValue, selector.source))
  | .evict _, H => (.ok none, H)

/-! ## rows of a history -/

/-- The row of the `i`-th value of a pair, counted from 0. -/
def versionRow (domain fieldName : String) (x : String × SelectorSource) (i : Nat)
    (isActive : Bool) : SelectorModel where
  id := 0
  domain := domain
  fieldName := fieldName
  selectorValue := x.1
  version := i + 1
  source := x.2.value
  isActive := isActive

/-- The rows of a pair: versions from 1 on, and only the last one is active. -/
def historyRows (domain fieldName : String) (l : List (String × SelectorSource)) :
    List SelectorModel :=
  l.zipIdx.map fun x => versionRow domain fieldName x.1 x.2 (x.2 + 1 == l.length)

section HistoryRows

variable {domain fieldName : String}

theorem map_inactive_historyRows (l : List (String × SelectorSource)) :
    (historyRows domain fieldName l).map SelectorModel.inactive =
      l.zipIdx.map fun x => versionRow domain fieldName x.1 x.2 false := by
  simp [historyRows, SelectorModel.inactive, versionRow]

theorem historyRows_concat (l : List (String × SelectorSource)) (x : String × SelectorSource) :
    historyRows domain fieldName (l ++ [x]) =
      (historyRows domain fieldName l).map SelectorModel.inactive ++
        [versionRow domain fieldName x l.length true] := by
  rw [map_inactive_historyRows]
  unfold historyRows
  rw [List.zipIdx_append, List.map_append]
  congr 1
  · refine List.map_congr_left fun y hy => ?_
    have hlt := (List.mem_zipIdx hy).2.1
    have hne : (y.2 + 1 == (l ++ [x]).length) = false := by
      rw [beq_eq_false_iff_ne, List.length_append, List.length_singleton]
      omega
    rw [hne]
  · simp

/-- The active rows of a pair are its last one, if it has any. -/
theorem filter_historyRows (l : List (String × SelectorSource)) :
    (historyRows domain fieldName l).filter (·.isActive) =
      (l.getLast?.map fun x => versionRow domain fieldName x (l.length - 1) true).toList := by
  rcases List.eq_nil_or_concat l with rfl | ⟨l, x, rfl⟩
  · rfl
  · rw [List.concat_eq_append, historyRows_concat, List.filter_append, List.filter_eq_nil_iff.mpr]
    · simp [versionRow]
    · intro r hr
      obtain ⟨r', -, rfl⟩ := List.mem_map.mp hr
      simp [SelectorModel.inactive]

theorem modelToSelector_versionRow (x : String × SelectorSource) (i : Nat) (isActive : Bool) :
    modelToSelector (versionRow domain fieldName x i isActive) =
      { domain := domain, fieldName := fieldName, selectorValue := x.1, source := x.2
        version := i + 1 } := by
  obtain ⟨value, source⟩ := x
  cases source <;> simp [modelToSelector, versionRow, SelectorSource.value]

end HistoryRows

/-! ## the table holds the history -/

structure Represents (s : SelectorStore) (H : SelectorHistory) : Prop where
  ids : s.IdsDistinct
  rows : ∀ domain fieldName, (s.rowsOf domain fieldName).map SelectorModel.content =
    historyRows domain fieldName (H (domain, fieldName))

theorem represents_empty : Represents SelectorStore.empty History.empty :=
  ⟨rfl, fun _ _ => rfl⟩

namespace Represents

variable {s s' : SelectorStore} {H : SelectorHistory} {domain fieldName : String}
  {selector : Selector}

theorem of_rows (h : Represents s H) (hrows : s'.rows = s.rows) : Represents s' H := by
  refine ⟨h.ids.of_rows hrows, fun d f => ?_⟩
  have he : s'.rowsOf d f = s.rowsOf d f := by
    unfold SelectorStore.rowsOf
    rw [hrows]
  rw [he]
  exact h.rows d f

theorem activeRows (h : Represents s H) (domain fieldName : String) :
    (s.activeRows domain fieldName).map SelectorModel.content =
      ((H.current (domain, fieldName)).map fun x =>
        versionRow domain fieldName x (H.version (domain, fieldName) - 1) true).toList := by
  have hfilter : (s.activeRows domain fieldName).map SelectorModel.content =
      ((s.rowsOf domain fieldName).map SelectorModel.content).filter (·.isActive) := by
    rw [SelectorStore.activeRows_eq, List.filter_map]
    rfl
  rw [hfilter, h.rows, filter_historyRows]
  rfl

/-- The lookup of the active row finds at most one, and it is the current version. -/
theorem lookup (h : Represents s H) (domain fieldName : String) :
    (s.activeRows domain fieldName = [] ∧ H.current (domain, fieldName) = none) ∨
      ∃ m x, s.activeRows domain fieldName = [m] ∧ H.current (domain, fieldName) = some x ∧
        m.content = versionRow domain fieldName x (H.version (domain, fieldName) - 1) true := by
  have hact := h.activeRows domain fieldName
  cases hc : H.current (domain, fieldName) with
  | none =>
    rw [hc] at hact
    exact Or.inl ⟨by simpa using hact, rfl⟩
  | some x =>
    rw [hc, Option.map_some, Option.toList_some] at hact
    rcases hr : s.activeRows domain fieldName with _ | ⟨m, _ | ⟨m', l⟩⟩
    · simp [hr] at hact
    · rw [hr, List.map_singleton, List.cons.injEq] at hact
      exact Or.inr ⟨m, x, rfl, rfl, hact.1⟩
    · simp [hr] at hact

theorem version_pos {x : String × SelectorSource} (hc : H.current (domain, fieldName) = some x) :
    0 < H.version (domain, fieldName) := by
  have hne : H (domain, fieldName) ≠ [] := fun he => by
    rw [History.current_eq_none.mpr he] at hc
    cases hc
  exact List.length_pos_iff.mpr hne

theorem selector_eq {m : SelectorModel} {x : String × SelectorSource}
    (hc : H.current (domain, fieldName) = some x)
    (hm : m.content = versionRow domain fieldName x (H.version (domain, fieldName) - 1) true) :
    H.active domain fieldName = some (modelToSelector m) := by
  have hpos := version_pos hc
  have hver : ((H.version (domain, fieldName) - 1 : Nat) : Int) + 1 =
      H.version (domain, fieldName) := by omega
  have hsel : modelToSelector m = modelToSelector m.content := rfl
  rw [hsel, hm, modelToSelector_versionRow, hver]
  simp [SelectorHistory.active, hc]

theorem nextVersion_eq (h : Represents s H) {previous : Option SelectorModel}
    (hprev : scalarOneOrNone (s.activeRows selector.domain selector.fieldName) = .ok previous) :
    SelectorWrite.nextVersion ⟨previous, selector⟩ =
      H.version (selector.domain, selector.fieldName) + 1 := by
  have hact := SelectorStore.activeRows_eq_toList hprev
  rcases h.lookup selector.domain selector.fieldName with ⟨hnil, hc⟩ | ⟨m, x, hm, hc, hcontent⟩
  · rw [hnil] at hact
    cases previous with
    | none => simp [SelectorWrite.nextVersion, History.version, History.current_eq_none.mp hc]
    | some p => cases hact
  · rw [hm] at hact
    cases previous with
    | none => cases hact
    | some p =>
      cases hact
      have hv : m.version = m.content.version := rfl
      have hpos := version_pos hc
      simp only [SelectorWrite.nextVersion, hv, hcontent, versionRow]
      omega

/-- The commit of a save appends a version to its pair and leaves the other pairs alone. -/
theorem commit (h : Represents s H) {previous : Option SelectorModel}
    (hprev : scalarOneOrNone (s.activeRows selector.domain selector.fieldName) = .ok previous) :
    Represents (s.commit ⟨previous, selector⟩)
      (H.record (selector.domain, selector.fieldName)
        (selector.selectorValue, selector.source)) := by
  have hact := SelectorStore.activeRows_eq_toList hprev
  refine ⟨h.ids.commit _, fun d f => ?_⟩
  by_cases hp : (selector.domain, selector.fieldName) = (d, f)
  · cases hp
    rw [SelectorStore.rowsOf_commit, if_pos rfl, List.map_append, List.map_map, History.record_self,
      historyRows_concat, ← h.rows, List.map_map]
    congr 1
    · refine List.map_congr_left fun r hr => ?_
      have hmem : ∀ p, previous = some p → p ∈ s.rows := fun p hp =>
        (SelectorStore.mem_rowsOf.mp (SelectorStore.mem_rowsOf_of_previous hprev hp)).1
      -- a row of the pair is the one that was active, or it was inactive before
      simp only [Function.comp, h.ids.deactivate_eq hmem (SelectorStore.mem_rowsOf.mp hr).1]
      split
      · rfl
      · next hne =>
        have hinactive : r.isActive = false := by
          by_contra hac
          have hra : r ∈ s.activeRows selector.domain selector.fieldName := by
            rw [SelectorStore.activeRows_eq, List.mem_filter]
            exact ⟨hr, by simpa using hac⟩
          rw [hact, Option.mem_toList] at hra
          exact hne hra
        simp [SelectorModel.content, SelectorModel.inactive, hinactive]
    · simp [SelectorModel.content, SelectorWrite.newModel, versionRow, h.nextVersion_eq hprev,
        History.version]
  · rw [SelectorStore.rowsOf_commit_of_ne h.ids hprev hp, History.record_of_ne _ _ (Ne.symm hp),
      h.rows]

/-- After the commit the new version is the active selector of its pair. -/
theorem commit_active (h : Represents s H) {previous : Option SelectorModel}
    (hprev : scalarOneOrNone (s.activeRows selector.domain selector.fieldName) = .ok previous) :
    SelectorHistory.active (H.record (selector.domain, selector.fieldName)
      (selector.selectorValue, selector.source)) selector.domain selector.fieldName =
        some { selector with version := SelectorWrite.nextVersion ⟨previous, selector⟩ } := by
  rw [h.nextVersion_eq hprev]
  simp [SelectorHistory.active]

/-- The lookup of the active row does not fail. -/
theorem previous (h : Represents s H) (domain fieldName : String) :
    ∃ previous, scalarOneOrNone (s.activeRows domain fieldName) = .ok previous := by
  rcases h.lookup domain fieldName with ⟨hnil, -⟩ | ⟨m, x, hm, -, -⟩
  · exact ⟨none, by rw [hnil]; rfl⟩
  · exact ⟨some m, by rw [hm]; rfl⟩

/-- The active selector of the history is the content of the active row. -/
theorem active_row (h : Represents s H) (hact : H.active domain fieldName = some selector) :
    ∃ m, s.activeRows domain fieldName = [m] ∧ modelToSelector m = selector := by
  rcases h.lookup domain fieldName with ⟨-, hnone⟩ | ⟨m, x, hm, hx, hcontent⟩
  · simp [SelectorHistory.active, hnone] at hact
  · rw [selector_eq hx hcontent, Option.some.injEq] at hact
    exact ⟨m, hm, hact⟩

/-! ### calls -/

/-- The first half of a save commits a version and leaves the cache alone. -/
theorem saveToPostgres (h : Represents s H) (selector : Selector) : ∃ s' saved,
    (Sentinel.saveToPostgres selector).exec storeStep s = (.ok saved, s') ∧
    saved.domain = selector.domain ∧ saved.fieldName = selector.fieldName ∧
    s'.cache = s.cache ∧
    Represents s' (H.record (selector.domain, selector.fieldName)
      (selector.selectorValue, selector.source)) ∧
    SelectorHistory.active (H.record (selector.domain, selector.fieldName)
      (selector.selectorValue, selector.source)) selector.domain selector.fieldName =
        some saved := by
  obtain ⟨previous, hprev⟩ := h.previous selector.domain selector.fieldName
  refine ⟨s.commit ⟨previous, selector⟩,
    { selector with version := SelectorWrite.nextVersion ⟨previous, selector⟩ }, ?_, rfl, rfl, rfl,
    h.commit hprev, h.commit_active hprev⟩
  rw [exec_saveToPostgres, hprev]

/-- A save succeeds, commits a version and puts it into the cache. -/
theorem save (h : Represents s H) (selector : Selector) : ∃ s' saved,
    (saveSelector selector).exec storeStep s =
      (.ok (), s'.setCache (cacheKey selector.domain selector.fieldName) (Selector.payload saved)) ∧
    s'.cache = s.cache ∧
    Represents s' (H.record (selector.domain, selector.fieldName)
      (selector.selectorValue, selector.source)) ∧
    SelectorHistory.active (H.record (selector.domain, selector.fieldName)
      (selector.selectorValue, selector.source)) selector.domain selector.fieldName =
        some saved := by
  obtain ⟨s', saved, hexec, hd, hf, hcache, hrep, hact⟩ := h.saveToPostgres selector
  refine ⟨s', saved, ?_, hcache, hrep, hact⟩
  rw [saveSelector, Prog.exec_bind_ok _ hexec, exec_writeToCache, hd, hf]

/-- A lookup hits the cache, or answers from the table and warms the cache. -/
theorem get (h : Represents s H) (domain fieldName : String) :
    (∃ payload, s.cache (cacheKey domain fieldName) = some payload ∧
      (getActiveSelector domain fieldName).exec storeStep s =
        (.ok (some (payload.toSelector domain fieldName)), s)) ∨
    (s.cache (cacheKey domain fieldName) = none ∧
      (getActiveSelector domain fieldName).exec storeStep s =
        (.ok (H.active domain fieldName),
          match H.active domain fieldName with
          | none => s
          | some selector => s.setCache (cacheKey domain fieldName) selector.payload)) := by
  cases hc : s.cache (cacheKey domain fieldName) with
  | some payload => exact Or.inl ⟨payload, rfl, exec_getActiveSelector_hit hc⟩
  | none =>
    refine Or.inr ⟨rfl, ?_⟩
    rw [exec_getActiveSelector_miss hc]
    rcases h.lookup domain fieldName with ⟨hnil, hnone⟩ | ⟨m, x, hm, hx, hcontent⟩
    · simp [hnil, scalarOneOrNone, SelectorHistory.active, hnone]
    · have hd : m.domain = domain := congrArg SelectorModel.domain hcontent
      have hf : m.fieldName = fieldName := congrArg SelectorModel.fieldName hcontent
      rw [hm, selector_eq hx hcontent, ← hd, ← hf]
      rfl

end Represents

/-! ## the cache holds the current version -/

/-- The cache key strings of the pairs in `P` are pairwise distinct. -/
def KeysDistinct (P : Set (String × String)) : Prop :=
  Set.InjOn (fun p => cacheKey p.1 p.2) P

/-- The pairs of one domain have distinct keys. -/
theorem keysDistinct_domain (domain : String) : KeysDistinct {p | p.1 = domain} := by
  rintro ⟨d, f⟩ rfl ⟨d', f'⟩ rfl he
  exact congrArg (Prod.mk _) (cacheKey_right_inj.mp he)

def Warm (P : Set (String × String)) (s : SelectorStore) (H : SelectorHistory) : Prop :=
  ∀ domain fieldName, (domain, fieldName) ∈ P → ∀ payload,
    s.cache (cacheKey domain fieldName) = some payload →
      ∃ selector, H.active domain fieldName = some selector ∧ payload = selector.payload

section Warm

variable {P : Set (String × String)} {s s' : SelectorStore} {H H' : SelectorHistory}
  {domain fieldName : String}

theorem warm_evict (h : Warm P s H) (key : String) : Warm P (s.evict key) H := by
  intro d f hp payload hcache
  by_cases hk : cacheKey d f = key
  · simp [SelectorStore.evict, hk] at hcache
  · exact h d f hp payload (by simpa [SelectorStore.evict, hk] using hcache)

/-- Writing the current selector of a pair, in a history that may have changed there only. -/
theorem warm_setCache (hP : KeysDistinct P) (h : Warm P s H)
    (hrest : ∀ d f, (d, f) ≠ (domain, fieldName) → H'.active d f = H.active d f)
    (hmem : (domain, fieldName) ∈ P) (hs' : s'.cache = s.cache) {selector : Selector}
    (hsel : H'.active domain fieldName = some selector) :
    Warm P (s'.setCache (cacheKey domain fieldName) selector.payload) H' := by
  intro d f hp payload hcache
  by_cases hpair : (d, f) = (domain, fieldName)
  · cases hpair
    refine ⟨selector, hsel, ?_⟩
    simpa [SelectorStore.setCache, eq_comm] using hcache
  · -- the only place where the keys have to be distinct
    have hk : cacheKey d f ≠ cacheKey domain fieldName := fun he => hpair (hP hp hmem he)
    rw [hrest d f hpair]
    exact h d f hp payload (by simpa [SelectorStore.setCache, hk, hs'] using hcache)

end Warm

/-! ## refinement -/

def Refines (P : Set (String × String)) (s : SelectorStore) (H : SelectorHistory) : Prop :=
  Represents s H ∧ Warm P s H

theorem active_record_of_ne (H : SelectorHistory) {p : String × String}
    (x : String × SelectorSource) {d f : String} (h : (d, f) ≠ p) :
    SelectorHistory.active (H.record p x) d f = H.active d f :=
  SelectorHistory.active_congr (History.record_of_ne H x h)

/-- One call gives the answer of the history, and the stores follow it. -/
theorem callStep_refines {P : Set (String × String)} (hP : KeysDistinct P)
    (c : SelectorCall) (s : SelectorStore) (H : SelectorHistory)
    (hc : ∀ p, c.pair = some p → p ∈ P) (h : Refines P s H) :
    (callStep c s).1 = (historyStep c H).1 ∧ Refines P (callStep c s).2 (historyStep c H).2 := by
  obtain ⟨hrep, hwarm⟩ := h
  cases c with
  | get domain fieldName =>
    have hmem := hc _ rfl
    change ((getActiveSelector domain fieldName).exec storeStep s).1 =
      .ok (H.active domain fieldName) ∧
        Refines P ((getActiveSelector domain fieldName).exec storeStep s).2 H
    rcases hrep.get domain fieldName with ⟨payload, hcache, hexec⟩ | ⟨hcache, hexec⟩
    · obtain ⟨selector, hact, rfl⟩ := hwarm domain fieldName hmem payload hcache
      rw [hexec]
      exact ⟨by rw [SelectorHistory.toSelector_payload hact, hact], hrep, hwarm⟩
    · rw [hexec]
      refine ⟨rfl, ?_⟩
      cases hact : H.active domain fieldName with
      | none => exact ⟨hrep, hwarm⟩
      | some selector =>
        exact ⟨hrep.of_rows rfl, warm_setCache hP hwarm (fun _ _ _ => rfl) hmem rfl hact⟩
  | save selector =>
    obtain ⟨s', saved, hexec, hcache, hrep', hact⟩ := hrep.save selector
    change ((saveSelector selector).exec storeStep s).1.map (fun _ => none) = .ok none ∧
      Refines P ((saveSelector selector).exec storeStep s).2 _
    rw [hexec]
    exact ⟨rfl, hrep'.of_rows rfl, warm_setCache hP hwarm
      (fun d f hne => active_record_of_ne H _ hne) (hc _ rfl) hcache hact⟩
  | evict key => exact ⟨rfl, hrep.of_rows rfl, warm_evict hwarm key⟩

/-- What was saved for a pair in a list of calls, in order. -/
def saved (calls : List SelectorCall) (domain fieldName : String) :
    List (String × SelectorSource) :=
  calls.filterMap fun
    | .save selector =>
      if selector.domain = domain ∧ selector.fieldName = fieldName then
        some (selector.selectorValue, selector.source) else none
    | _ => none

/-- The last saved value of a pair, with the number of saves as its version. -/
def lastSaved (calls : List SelectorCall) (domain fieldName : String) : Option Selector :=
  (saved calls domain fieldName).getLast?.map fun x =>
    { domain := domain, fieldName := fieldName, selectorValue := x.1, source := x.2
      version := (saved calls domain fieldName).length }

/-- The history after a list of calls is what was saved in it. -/
theorem history_eq_saved (calls : List SelectorCall) (H : SelectorHistory)
    (domain fieldName : String) : (replay historyStep calls H).2 (domain, fieldName) =
      H (domain, fieldName) ++ saved calls domain fieldName := by
  induction calls generalizing H with
  | nil => simp [saved]
  | cons c calls ih =>
    rw [replay_cons, ih]
    cases c with
    | get d f => rfl
    | evict key => rfl
    | save selector =>
      by_cases hp : selector.domain = domain ∧ selector.fieldName = fieldName
      · obtain ⟨rfl, rfl⟩ := hp
        simp [historyStep, saved]
      · have hne : (domain, fieldName) ≠ (selector.domain, selector.fieldName) := fun he => by
          cases he
          exact hp ⟨rfl, rfl⟩
        simp [historyStep, saved, hp, History.record_of_ne _ _ hne]

theorem active_eq_lastSaved (calls : List SelectorCall) (domain fieldName : String) :
    SelectorHistory.active (replay historyStep calls History.empty).2 domain fieldName =
      lastSaved calls domain fieldName := by
  have h := history_eq_saved calls History.empty domain fieldName
  rw [History.empty_apply, List.nil_append] at h
  simp only [SelectorHistory.active, History.current, History.version, h, lastSaved]

section Run

variable {P : Set (String × String)} {calls : List SelectorCall}

theorem replay_refines (hP : KeysDistinct P)
    (hcalls : ∀ c ∈ calls, ∀ p, c.pair = some p → p ∈ P) :
    (replay callStep calls SelectorStore.empty).1 = (replay historyStep calls History.empty).1 ∧
      Refines P (replay callStep calls SelectorStore.empty).2
        (replay historyStep calls History.empty).2 :=
  replay_simulates (fun c => ∀ p, c.pair = some p → p ∈ P)
    (fun c s H hc h => callStep_refines hP c s H hc h) hcalls
    ⟨represents_empty, fun _ _ _ _ h => by cases h⟩

/-- The answers after a lookup are those without it. -/
theorem replay_get_unobservable (hP : KeysDistinct P) {pre post : List SelectorCall}
    {domain fieldName : String}
    (hcalls : ∀ c ∈ pre ++ .get domain fieldName :: post, ∀ p, c.pair = some p → p ∈ P) :
    (replay callStep post
        (replay callStep (pre ++ [.get domain fieldName]) SelectorStore.empty).2).1 =
      (replay callStep post (replay callStep pre SelectorStore.empty).2).1 := by
  have hpost : ∀ c ∈ post, ∀ p, c.pair = some p → p ∈ P :=
    fun c hc => hcalls c (List.mem_append_right _ (List.mem_cons_of_mem _ hc))
  have hpre : ∀ c ∈ pre, ∀ p, c.pair = some p → p ∈ P :=
    fun c hc => hcalls c (List.mem_append_left _ hc)
  have hget : ∀ c ∈ pre ++ [.get domain fieldName], ∀ p, c.pair = some p → p ∈ P := by
    intro c hc
    rcases List.mem_append.mp hc with hc | hc
    · exact hpre c hc
    · rw [List.mem_singleton.mp hc]
      exact hcalls _ (List.mem_append_right _ List.mem_cons_self)
  have hsim := fun {s : SelectorStore} {H : SelectorHistory} (h : Refines P s H) =>
    (replay_simulates (fun c => ∀ p, c.pair = some p → p ∈ P)
      (fun c s H hc h => callStep_refines hP c s H hc h) hpost h).1
  -- the history after the lookup is the one before it
  have hH : (replay historyStep (pre ++ [.get domain fieldName]) History.empty).2 =
      (replay historyStep pre History.empty).2 := by
    rw [replay_append]
    rfl
  rw [hsim (replay_refines hP hget).2, hsim (replay_refines hP hpre).2, hH]

/--
**The cache-aside store refines a versioned history.** After any sequence of calls the rows of a
pair are the versions saved for it, the cache has the last of them or nothing, every lookup
answers the last save before it, and dropping a lookup changes no later answer.
-/
theorem repository_refines_history (hP : KeysDistinct P)
    (hcalls : ∀ c ∈ calls, ∀ p, c.pair = some p → p ∈ P) :
    (∀ domain fieldName,
      ((replay callStep calls SelectorStore.empty).2.rowsOf domain fieldName).map
        SelectorModel.content = historyRows domain fieldName (saved calls domain fieldName)) ∧
    (∀ domain fieldName, (domain, fieldName) ∈ P →
      let entry := (replay callStep calls SelectorStore.empty).2.cache (cacheKey domain fieldName)
      entry = none ∨ ∃ selector, lastSaved calls domain fieldName = some selector ∧
        entry = some selector.payload) ∧
    (∀ pre domain fieldName post, calls = pre ++ .get domain fieldName :: post →
      (replay callStep calls SelectorStore.empty).1[pre.length]? =
          some (.ok (lastSaved pre domain fieldName)) ∧
        (replay callStep post
            (replay callStep (pre ++ [.get domain fieldName]) SelectorStore.empty).2).1 =
          (replay callStep post (replay callStep pre SelectorStore.empty).2).1) := by
  obtain ⟨hans, hrep, hwarm⟩ := replay_refines hP hcalls
  refine ⟨fun d f => ?_, fun d f hmem => ?_, ?_⟩
  · rw [hrep.rows, history_eq_saved, History.empty_apply, List.nil_append]
  · cases hc : (replay callStep calls SelectorStore.empty).2.cache (cacheKey d f) with
    | none => exact Or.inl rfl
    | some payload =>
      obtain ⟨selector, hact, rfl⟩ := hwarm d f hmem payload hc
      rw [active_eq_lastSaved] at hact
      exact Or.inr ⟨selector, hact, rfl⟩
  · rintro pre d f post rfl
    refine ⟨?_, replay_get_unobservable hP hcalls⟩
    have hlen := length_replay historyStep pre History.empty
    rw [hans, replay_append, replay_cons, List.getElem?_append_right (by omega), hlen,
      Nat.sub_self, List.getElem?_cons_zero]
    exact congrArg (fun x => some (Except.ok x)) (active_eq_lastSaved pre d f)

/-- Two fields of one site: a save, a read, an eviction and a second save. -/
def shopCalls : List SelectorCall :=
  [.save ⟨"shop.test", "title", "h1", .manual, 1⟩, .get "shop.test" "title",
    .evict (cacheKey "shop.test" "title"), .get "shop.test" "price",
    .save ⟨"shop.test", "title", "h2", .aiGenerated, 7⟩]

theorem repository_refines_history_shop :
    (replay callStep (shopCalls ++ [.get "shop.test" "title"]) SelectorStore.empty).1[5]? =
      some (.ok (some ⟨"shop.test", "title", "h2", .aiGenerated, 2⟩)) := by
  have hcalls : ∀ c ∈ shopCalls ++ [.get "shop.test" "title"], ∀ p, c.pair = some p →
      p ∈ {p : String × String | p.1 = "shop.test"} := by
    simp [shopCalls, SelectorCall.pair]
  exact ((repository_refines_history (keysDistinct_domain _) hcalls).2.2 shopCalls "shop.test"
    "title" [] rfl).1

end Run

end Sentinel
