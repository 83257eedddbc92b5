import Mathlib.Data.List.Induction
import Sentinel.Lib.RelyGuarantee
import Sentinel.Worker.SelectorHistory

/-!
# Failing writes to the cache

Every call of the repository writes to Redis at most once, and that write may raise, with or
without effect. The row of a save is committed before that. If the write has had no effect, the
entry of an earlier version stays, and as nothing expires, lookups go on answering it.

* `faultyCall` — a call whose `SET`, if it makes one, has the given outcome
* `LastWritten` — which call has written the entry that is in the cache
* `cache_concat` — what one call does to the entry of its pair
* `lookup_lags` — a lookup that misses answers the active row, one that hits the row that was
  active when the entry was last written
* `stale_lookup` — one failed write, and the lookup misses the active row
-/

namespace Sentinel

open Lib Prog

inductive SetOutcome
  | returns
  | raises (effect : Bool)
deriving DecidableEq, Repr

namespace SetOutcome

def reply : SetOutcome → Except PyError Unit
  | returns => .ok ()
  | raises _ => .error (.other "RedisError")

def effect : SetOutcome → Bool
  | returns => true
  | raises effect => effect

/-- What a `SET` with this outcome does. -/
def write (outcome : SetOutcome) (key : String) (payload : CachedSelector) (s : SelectorStore) :
    SelectorStore :=
  if outcome.effect then s.setCache key payload else s

end SetOutcome

/-- The commands, of which `SET` has the given outcome. -/
def faultyStep (outcome : SetOutcome) : (op : SelectorPort.Op) → SelectorStore →
    Except PyError (SelectorPort.Ans op) × SelectorStore
  | .redisSet key payload, s => (outcome.reply, outcome.write key payload s)
  | op, s => storeStep op s

/-- A call and the outcome of the `SET` it makes, if it makes one. -/
abbrev FaultyCall := SelectorCall × SetOutcome

def faultyCall : FaultyCall → SelectorStore → Except PyError (Option Selector) × SelectorStore
  | (.get domain fieldName, outcome), s =>
    (getActiveSelector domain fieldName).exec (faultyStep outcome) s
  | (.save selector, outcome), s =>
    (((saveSelector selector).exec (faultyStep outcome) s).1.map fun _ => none,
      ((saveSelector selector).exec (faultyStep outcome) s).2)
  | (.evict key, _), s => (.ok none, s.evict key)

/-- The selector in the active row of a pair. -/
def activeSelector (s : SelectorStore) (domain fieldName : String) : Option Selector :=
  (s.activeRows domain fieldName).head?.map modelToSelector

/-- The stores after some calls. -/
abbrev storesAfter (calls : List FaultyCall) : SelectorStore :=
  (replay faultyCall calls SelectorStore.empty).2

section Exec

variable (outcome : SetOutcome) {s : SelectorStore} {H : SelectorHistory}
  {domain fieldName : String} {selector : Selector}

def NotSet (op : SelectorOp) : Prop := ∀ key payload, op ≠ .redisSet key payload

theorem faultyStep_eq (op : SelectorOp) (s : SelectorStore) (h : NotSet op) :
    faultyStep outcome op s = storeStep op s := by
  cases op with
  | redisSet key payload => exact absurd rfl (h key payload)
  | _ => rfl

theorem getFromPostgres_notSet : (getFromPostgres domain fieldName).Only NotSet := by
  refine Only.bind (only_perform nofun) fun result => ?_
  exact Only.bind (only_lift _) fun _ => by trivial

theorem saveToPostgres_notSet : (saveToPostgres selector).Only NotSet := by
  refine Only.bind (only_perform nofun) fun result => ?_
  refine Only.bind (only_lift _) fun previous => ?_
  refine Only.bind (only_perform nofun) fun _ => ?_
  exact Only.bind (only_perform nofun) fun _ => by trivial

theorem Represents.activeSelector_eq (h : Represents s H) (domain fieldName : String) :
    activeSelector s domain fieldName = H.active domain fieldName := by
  unfold activeSelector
  rcases h.lookup domain fieldName with ⟨hnil, hnone⟩ | ⟨m, x, hm, hx, hcontent⟩
  · simp [hnil, SelectorHistory.active, hnone]
  · rw [Represents.selector_eq hx hcontent, hm]
    rfl

/-- A lookup hits the cache, or answers from the table unless its write raises. -/
theorem Represents.faulty_get (h : Represents s H) (domain fieldName : String) :
    (∃ payload, s.cache (cacheKey domain fieldName) = some payload ∧
      (getActiveSelector domain fieldName).exec (faultyStep outcome) s =
        (.ok (some (payload.toSelector domain fieldName)), s)) ∨
    (s.cache (cacheKey domain fieldName) = none ∧
      (getActiveSelector domain fieldName).exec (faultyStep outcome) s =
        match H.active domain fieldName with
        | none => (.ok none, s)
        | some selector => (outcome.reply.map fun _ => some selector,
            outcome.write (cacheKey domain fieldName) selector.payload s)) := by
  have hcached : (getFromCache domain fieldName).exec (faultyStep outcome) s =
      (.ok ((s.cache (cacheKey domain fieldName)).map (·.toSelector domain fieldName)), s) := rfl
  unfold getActiveSelector
  rw [exec_bind_ok _ hcached]
  cases hc : s.cache (cacheKey domain fieldName) with
  | some payload => exact Or.inl ⟨payload, rfl, rfl⟩
  | none =>
    refine Or.inr ⟨rfl, ?_⟩
    show Prog.exec (faultyStep outcome) (getFromPostgres domain fieldName >>= _) s = _
    rw [exec_bind, getFromPostgres_notSet.exec_congr (faultyStep_eq outcome), exec_getFromPostgres]
    rcases h.lookup domain fieldName with ⟨hnil, hnone⟩ | ⟨m, x, hm, hx, hcontent⟩
    · rw [hnil, show H.active domain fieldName = none by simp [SelectorHistory.active, hnone]]
      rfl
    · have hd : m.domain = domain := congrArg SelectorModel.domain hcontent
      have hf : m.fieldName = fieldName := congrArg SelectorModel.fieldName hcontent
      rw [hm, Represents.selector_eq hx hcontent, ← hd, ← hf]
      cases outcome <;> rfl

/-- A save commits its version, and raises after that if its write does. -/
theorem Represents.faulty_save (h : Represents s H) (selector : Selector) : ∃ s' saved,
    (saveSelector selector).exec (faultyStep outcome) s = (outcome.reply,
      outcome.write (cacheKey selector.domain selector.fieldName) (Selector.payload saved) s') ∧
    s'.cache = s.cache ∧
    Represents s' (H.record (selector.domain, selector.fieldName)
      (selector.selectorValue, selector.source)) ∧
    SelectorHistory.active (H.record (selector.domain, selector.fieldName)
      (selector.selectorValue, selector.source)) selector.domain selector.fieldName =
        some saved := by
  obtain ⟨s', saved, hexec, hd, hf, hcache, hrep, hact⟩ := h.saveToPostgres selector
  rw [← saveToPostgres_notSet.exec_congr (faultyStep_eq outcome)] at hexec
  refine ⟨s', saved, ?_, hcache, hrep, hact⟩
  rw [saveSelector, exec_bind_ok _ hexec, ← hd, ← hf]
  exact exec_perform _ _ _

end Exec

/-! ## the table and the cache after some calls -/

/-- What was saved in the calls; a save whose write raises counts. -/
def historyOf (calls : List FaultyCall) : SelectorHistory :=
  (replay historyStep (calls.map Prod.fst) History.empty).2

section Runs

variable {calls earlier later : List FaultyCall} {domain fieldName : String}

theorem storesAfter_concat (calls : List FaultyCall) (x : FaultyCall) :
    storesAfter (calls ++ [x]) = (faultyCall x (storesAfter calls)).2 := by
  unfold storesAfter
  rw [replay_append]
  rfl

theorem historyOf_concat (calls : List FaultyCall) (x : FaultyCall) :
    historyOf (calls ++ [x]) = (historyStep x.1 (historyOf calls)).2 := by
  unfold historyOf
  rw [List.map_append, replay_append]
  rfl

theorem SetOutcome.write_rows (outcome : SetOutcome) (key : String) (payload : CachedSelector)
    (s : SelectorStore) : (outcome.write key payload s).rows = s.rows := by
  unfold SetOutcome.write
  split <;> rfl

/-- **No save is lost**: the table holds every one of them, whatever became of its write. -/
theorem represents_after (calls : List FaultyCall) :
    Represents (storesAfter calls) (historyOf calls) := by
  induction calls using List.reverseRecOn with
  | nil => exact represents_empty
  | append_singleton calls x ih =>
    rw [storesAfter_concat, historyOf_concat]
    obtain ⟨c, outcome⟩ := x
    cases c with
    | evict key => exact ih.of_rows rfl
    | get d f =>
      show Represents ((getActiveSelector d f).exec (faultyStep outcome) _).2 _
      rcases ih.faulty_get outcome d f with ⟨payload, -, hexec⟩ | ⟨-, hexec⟩
      · rw [hexec]
        exact ih
      · rw [hexec]
        cases (historyOf calls).active d f with
        | none => exact ih
        | some selector => exact ih.of_rows (outcome.write_rows _ _ _)
    | save selector =>
      obtain ⟨s', saved, hexec, -, hrep, -⟩ := ih.faulty_save outcome selector
      show Represents ((saveSelector selector).exec (faultyStep outcome) _).2 _
      rw [hexec]
      exact hrep.of_rows (outcome.write_rows _ _ _)

/-- All calls are for the one pair. -/
def ForPair (calls : List FaultyCall) (domain fieldName : String) : Prop :=
  ∀ x ∈ calls, ∀ p, x.1.pair = some p → p = (domain, fieldName)

/-- The call, made after `before`, writes the entry of its pair. A lookup does if it misses and
finds a row. -/
def WritesEntry (before : List FaultyCall) : FaultyCall → Prop
  | (.save _, outcome) => outcome.effect = true
  | (.get domain fieldName, outcome) => outcome.effect = true ∧
      (storesAfter before).cache (cacheKey domain fieldName) = none ∧
      activeSelector (storesAfter before) domain fieldName ≠ none
  | (.evict _, _) => False

/-- The call leaves what is under the key: it does not drop it, and if it is a save, its write has
no effect. -/
def LeavesEntry (key : String) : FaultyCall → Prop
  | (.save _, outcome) => outcome.effect = false
  | (.get _ _, _) => True
  | (.evict key', _) => key' ≠ key

/-- The last call of `earlier` has written the entry, and no call of `later` has written or dropped
it. -/
structure LastWritten (domain fieldName : String) (earlier later : List FaultyCall) : Prop where
  written : ∃ before x, earlier = before ++ [x] ∧ WritesEntry before x
  kept : ∀ x ∈ later, LeavesEntry (cacheKey domain fieldName) x

theorem SetOutcome.write_of_effect {outcome : SetOutcome} (h : outcome.effect = true)
    (key : String) (payload : CachedSelector) (s : SelectorStore) :
    (outcome.write key payload s).cache key = some payload := by
  simp [SetOutcome.write, h, SelectorStore.setCache]

theorem SetOutcome.write_of_no_effect {outcome : SetOutcome} (h : outcome.effect = false)
    (key : String) (payload : CachedSelector) (s : SelectorStore) :
    outcome.write key payload s = s := by
  simp [SetOutcome.write, h]

/-- **What one call does to the entry of its pair**: it writes the active version, it leaves what
is there, or it drops it. -/
theorem cache_concat (calls : List FaultyCall) {x : FaultyCall}
    (hx : ∀ p, x.1.pair = some p → p = (domain, fieldName)) :
    (WritesEntry calls x ∧ ∃ selector,
      (historyOf (calls ++ [x])).active domain fieldName = some selector ∧
      (storesAfter (calls ++ [x])).cache (cacheKey domain fieldName) = some selector.payload) ∨
    (¬WritesEntry calls x ∧ LeavesEntry (cacheKey domain fieldName) x ∧
      (storesAfter (calls ++ [x])).cache (cacheKey domain fieldName) =
        (storesAfter calls).cache (cacheKey domain fieldName)) ∨
    (¬WritesEntry calls x ∧ ¬LeavesEntry (cacheKey domain fieldName) x ∧
      (storesAfter (calls ++ [x])).cache (cacheKey domain fieldName) = none) := by
  have hrep := represents_after calls
  rw [storesAfter_concat, historyOf_concat]
  obtain ⟨c, outcome⟩ := x
  cases c with
  | evict key =>
    change _ ∨ _ ∨ (_ ∧ _ ∧ (SelectorStore.evict _ key).cache _ = none)
    by_cases hk : key = cacheKey domain fieldName
    · exact Or.inr (Or.inr ⟨nofun, fun h => h hk, by simp [SelectorStore.evict, hk]⟩)
    · refine Or.inr (Or.inl ⟨nofun, hk, ?_⟩)
      show (SelectorStore.evict _ key).cache _ = _
      simp [SelectorStore.evict, Ne.symm hk]
  | get d f =>
    cases hx _ rfl
    rcases hrep.faulty_get outcome domain fieldName with ⟨payload, hcache, hexec⟩ | ⟨hcache, hexec⟩
    · refine Or.inr (Or.inl ⟨fun h => ?_, trivial, ?_⟩)
      · cases hcache.symm.trans h.2.1
      · show ((getActiveSelector domain fieldName).exec (faultyStep outcome) _).2.cache _ = _
        rw [hexec]
    · cases hact : (historyOf calls).active domain fieldName with
      | none =>
        refine Or.inr (Or.inl ⟨fun h => h.2.2 ?_, trivial, ?_⟩)
        · rw [hrep.activeSelector_eq, hact]
        · show ((getActiveSelector domain fieldName).exec (faultyStep outcome) _).2.cache _ = _
          rw [hexec, hact]
      | some selector =>
        cases he : outcome.effect with
        | true =>
          refine Or.inl ⟨⟨he, hcache, ?_⟩, selector, hact, ?_⟩
          · rw [hrep.activeSelector_eq, hact]
            exact Option.some_ne_none _
          · show ((getActiveSelector domain fieldName).exec (faultyStep outcome) _).2.cache _ = _
            rw [hexec, hact]
            exact SetOutcome.write_of_effect he _ _ _
        | false =>
          refine Or.inr (Or.inl ⟨fun h => ?_, trivial, ?_⟩)
          · cases he.symm.trans h.1
          · show ((getActiveSelector domain fieldName).exec (faultyStep outcome) _).2.cache _ = _
            rw [hexec, hact]
            show (outcome.write _ _ _).cache _ = _
            rw [SetOutcome.write_of_no_effect he]
  | save selector =>
    cases hx _ rfl
    obtain ⟨s', saved, hexec, hcache, -, hact⟩ := hrep.faulty_save outcome selector
    have hafter : (faultyCall (.save selector, outcome) (storesAfter calls)).2 =
        outcome.write (cacheKey selector.domain selector.fieldName) saved.payload s' := by
      show ((saveSelector selector).exec (faultyStep outcome) _).2 = _
      rw [hexec]
    rw [hafter]
    cases he : outcome.effect with
    | true => exact Or.inl ⟨he, saved, hact, SetOutcome.write_of_effect he _ _ _⟩
    | false =>
      refine Or.inr (Or.inl ⟨fun h => ?_, he, ?_⟩)
      · cases he.symm.trans h
      · rw [SetOutcome.write_of_no_effect he, hcache]

/-- A call that leaves an entry alone writes one only where there is none. -/
theorem LeavesEntry.not_writes {x : FaultyCall}
    (hx : ∀ p, x.1.pair = some p → p = (domain, fieldName))
    (h : LeavesEntry (cacheKey domain fieldName) x)
    (hcache : (storesAfter calls).cache (cacheKey domain fieldName) ≠ none) :
    ¬WritesEntry calls x := by
  obtain ⟨c, outcome⟩ := x
  cases c with
  | evict key => exact nofun
  | get d f =>
    cases hx _ rfl
    exact fun hw => hcache hw.2.1
  | save selector => exact fun hw => by cases Eq.trans h.symm hw

/-- The entry is the version that was active when it was last written. -/
theorem LastWritten.cache_eq {earlier later : List FaultyCall}
    (hpair : ForPair (earlier ++ later) domain fieldName)
    (h : LastWritten domain fieldName earlier later) : ∃ selector,
    (historyOf earlier).active domain fieldName = some selector ∧
      (storesAfter (earlier ++ later)).cache (cacheKey domain fieldName) =
        some selector.payload := by
  induction later using List.reverseRecOn with
  | nil =>
    obtain ⟨before, x, rfl, hw⟩ := h.written
    rw [List.append_nil] at hpair ⊢
    have hx := hpair x (List.mem_append_right _ (List.mem_singleton_self _))
    rcases cache_concat before hx with ⟨-, hnew⟩ | ⟨hno, -⟩ | ⟨hno, -⟩
    · exact hnew
    · exact absurd hw hno
    · exact absurd hw hno
  | append_singleton later x ih =>
    rw [← List.append_assoc] at hpair ⊢
    have hx := hpair x (List.mem_append_right _ (List.mem_singleton_self _))
    have hleaves := h.kept x (List.mem_append_right _ (List.mem_singleton_self _))
    obtain ⟨selector, hact, hcache⟩ := ih (fun y hy => hpair y (List.mem_append_left _ hy))
      ⟨h.written, fun y hy => h.kept y (List.mem_append_left _ hy)⟩
    have hno : ¬WritesEntry (earlier ++ later) x :=
      hleaves.not_writes hx (by rw [hcache]; exact Option.some_ne_none _)
    rcases cache_concat (earlier ++ later) hx with ⟨hw, -⟩ | ⟨-, -, heq⟩ | ⟨-, hdrop, -⟩
    · exact absurd hw hno
    · exact ⟨selector, hact, heq.trans hcache⟩
    · exact absurd hleaves hdrop

/-- **There is an entry exactly if one was written** and neither written again nor dropped since. -/
theorem cached_iff_lastWritten (hpair : ForPair calls domain fieldName) :
    (storesAfter calls).cache (cacheKey domain fieldName) ≠ none ↔
      ∃ earlier later, calls = earlier ++ later ∧ LastWritten domain fieldName earlier later := by
  constructor
  · intro hne
    induction calls using List.reverseRecOn with
    | nil => exact absurd rfl hne
    | append_singleton calls x ih =>
      have hx := hpair x (List.mem_append_right _ (List.mem_singleton_self _))
      rcases cache_concat calls hx with ⟨hw, -⟩ | ⟨-, hleaves, heq⟩ | ⟨-, -, hnone⟩
      · exact ⟨calls ++ [x], [], (List.append_nil _).symm, ⟨calls, x, rfl, hw⟩, nofun⟩
      · rw [heq] at hne
        obtain ⟨earlier, later, rfl, hlast⟩ :=
          ih (fun y hy => hpair y (List.mem_append_left _ hy)) hne
        refine ⟨earlier, later ++ [x], List.append_assoc _ _ _, hlast.written, fun y hy => ?_⟩
        rcases List.mem_append.mp hy with hy | hy
        · exact hlast.kept y hy
        · rw [List.mem_singleton.mp hy]
          exact hleaves
      · exact absurd hnone hne
  · rintro ⟨earlier, later, rfl, hlast⟩
    obtain ⟨selector, -, hcache⟩ := hlast.cache_eq hpair
    rw [hcache]
    exact Option.some_ne_none _

/-! ## lookups -/

/-- What was saved for the pair is what was saved in each part. -/
theorem saved_append (l l' : List SelectorCall) (domain fieldName : String) :
    saved (l ++ l') domain fieldName = saved l domain fieldName ++ saved l' domain fieldName :=
  List.filterMap_append

theorem historyOf_active (calls : List FaultyCall) (domain fieldName : String) :
    (historyOf calls).active domain fieldName = lastSaved (calls.map Prod.fst) domain fieldName :=
  active_eq_lastSaved _ domain fieldName

/-- For calls of one pair, nothing was saved for it if and only if there was no save. -/
theorem saved_eq_nil_iff (hpair : ForPair calls domain fieldName) :
    saved (calls.map Prod.fst) domain fieldName = [] ↔
      ∀ x ∈ calls, ∀ selector, x.1 ≠ .save selector := by
  constructor
  · rintro hnil ⟨c, outcome⟩ hx selector rfl
    obtain ⟨hd, hf⟩ := Prod.mk.inj (hpair _ hx _ rfl)
    have hmem : (selector.selectorValue, selector.source) ∈
        saved (calls.map Prod.fst) domain fieldName :=
      List.mem_filterMap.mpr ⟨_, List.mem_map_of_mem hx, by simp [hd, hf]⟩
    rw [hnil] at hmem
    cases hmem
  · intro hno
    refine List.filterMap_eq_nil_iff.mpr fun c hc => ?_
    obtain ⟨x, hx, rfl⟩ := List.mem_map.mp hc
    cases hc' : x.1 with
    | save selector => exact absurd hc' (hno x hx selector)
    | get d f => rfl
    | evict key => rfl

/-- An earlier version is the active one if and only if nothing was saved since. -/
theorem active_append_iff (hpair : ForPair later domain fieldName) :
    (historyOf earlier).active domain fieldName =
        (historyOf (earlier ++ later)).active domain fieldName ↔
      ∀ x ∈ later, ∀ selector, x.1 ≠ .save selector := by
  rw [historyOf_active, historyOf_active, ← saved_eq_nil_iff hpair]
  unfold lastSaved
  rw [List.map_append, saved_append]
  constructor
  · intro h
    by_contra hne
    obtain ⟨l, x, hl⟩ := (List.eq_nil_or_concat _).resolve_left hne
    rw [hl, List.concat_eq_append, ← List.append_assoc, List.getLast?_concat] at h
    -- the versions differ by what was saved since
    cases hlast : (saved (earlier.map Prod.fst) domain fieldName).getLast? with
    | none => simp [hlast] at h
    | some y =>
      simp only [hlast, Option.map_some, Option.some.injEq, Selector.mk.injEq, List.length_append,
        List.length_singleton] at h
      omega
  · intro hnil
    rw [hnil, List.append_nil]

/--
**How far a lookup may lag behind.** After any calls for a pair, with any of the writes to Redis
failing, every save has its row in the table. There is an entry exactly if one has been written
and not been dropped since. Without one, a lookup that returns answers the active row. With one, it
answers the row that was active when the entry was last written, and that is the row that is active
now if and only if no save has come since.
-/
theorem lookup_lags (hpair : ForPair calls domain fieldName) {outcome : SetOutcome}
    {r : Option Selector}
    (h : (faultyCall (.get domain fieldName, outcome) (storesAfter calls)).1 = .ok r) :
    ((storesAfter calls).rowsOf domain fieldName).map SelectorModel.content =
        historyRows domain fieldName (saved (calls.map Prod.fst) domain fieldName) ∧
      ((storesAfter calls).cache (cacheKey domain fieldName) ≠ none ↔
        ∃ earlier later, calls = earlier ++ later ∧
          LastWritten domain fieldName earlier later) ∧
      ((storesAfter calls).cache (cacheKey domain fieldName) = none →
        r = activeSelector (storesAfter calls) domain fieldName) ∧
      ∀ earlier later, calls = earlier ++ later → LastWritten domain fieldName earlier later →
        r = activeSelector (storesAfter earlier) domain fieldName ∧
        (r = activeSelector (storesAfter calls) domain fieldName ↔
          ∀ x ∈ later, ∀ selector, x.1 ≠ .save selector) := by
  have hrep := represents_after calls
  change ((getActiveSelector domain fieldName).exec (faultyStep outcome) _).1 = _ at h
  refine ⟨?_, cached_iff_lastWritten hpair, fun hnone => ?_, ?_⟩
  · rw [hrep.rows]
    unfold historyOf
    rw [history_eq_saved, History.empty_apply, List.nil_append]
  · rcases hrep.faulty_get outcome domain fieldName with ⟨payload, hcache, -⟩ | ⟨-, hexec⟩
    · cases hnone.symm.trans hcache
    · rw [hrep.activeSelector_eq]
      rw [hexec] at h
      cases hact : (historyOf calls).active domain fieldName with
      | none =>
        rw [hact] at h
        cases h
        rfl
      | some selector =>
        rw [hact] at h
        cases outcome with
        | returns =>
          cases h
          rfl
        | raises effect => cases h
  · rintro earlier later rfl hlast
    obtain ⟨selector, hact, hcache⟩ := hlast.cache_eq hpair
    have hsel : selector.payload.toSelector domain fieldName = selector :=
      SelectorHistory.toSelector_payload hact
    rcases hrep.faulty_get outcome domain fieldName with ⟨payload, hhit, hexec⟩ | ⟨hnone, -⟩
    · cases hcache.symm.trans hhit
      rw [hexec, hsel] at h
      cases h
      refine ⟨?_, ?_⟩
      · rw [(represents_after earlier).activeSelector_eq, hact]
      · rw [hrep.activeSelector_eq, ← hact]
        exact active_append_iff fun x hx => hpair x (List.mem_append_right _ hx)
    · cases hnone.symm.trans hcache

end Runs

/-- Two saves, of which the second one fails to write. -/
def failedSecond : List FaultyCall :=
  [(.save ⟨"shop.test", "title", "h1", .manual, 1⟩, .returns),
    (.save ⟨"shop.test", "title", "h2", .aiGenerated, 1⟩, .raises false)]

/-- The same, and then the entry of the first save is dropped. -/
def droppedSecond : List FaultyCall :=
  failedSecond ++ [(.evict (cacheKey "shop.test" "title"), .returns)]

/-- With the entry of the first save, a lookup answers what was active when it was written. Once
the entry is dropped, a lookup answers the active row. -/
theorem lookup_lags_failedSecond :
    (some ⟨"shop.test", "title", "h1", .manual, 1⟩ =
        activeSelector (storesAfter (failedSecond.take 1)) "shop.test" "title" ∧
      (some ⟨"shop.test", "title", "h1", .manual, 1⟩ =
          activeSelector (storesAfter failedSecond) "shop.test" "title" ↔
        ∀ x ∈ failedSecond.drop 1, ∀ selector, x.1 ≠ .save selector)) ∧
    some ⟨"shop.test", "title", "h2", .aiGenerated, 2⟩ =
      activeSelector (storesAfter droppedSecond) "shop.test" "title" := by
  have hpair : ForPair failedSecond "shop.test" "title" := by
    simp [ForPair, failedSecond, SelectorCall.pair]
  have hdropped : ForPair droppedSecond "shop.test" "title" := by
    simp [ForPair, droppedSecond, failedSecond, SelectorCall.pair]
  obtain ⟨-, -, -, hhit⟩ := lookup_lags hpair
    (show (faultyCall (.get "shop.test" "title", .returns) (storesAfter _)).1 =
      .ok (some ⟨"shop.test", "title", "h1", .manual, 1⟩) by decide)
  obtain ⟨-, -, hmiss, -⟩ := lookup_lags hdropped
    (show (faultyCall (.get "shop.test" "title", .returns) (storesAfter _)).1 =
      .ok (some ⟨"shop.test", "title", "h2", .aiGenerated, 2⟩) by decide)
  refine ⟨hhit _ _ (List.take_append_drop 1 _).symm ?_, hmiss (by decide)⟩
  refine ⟨⟨[], _, rfl, rfl⟩, fun x hx => ?_⟩
  rw [List.mem_singleton.mp hx]
  exact rfl

/-- **The second save stays hidden**: its row is active, and lookups answer the first one. -/
theorem stale_lookup :
    (faultyCall (.get "shop.test" "title", .returns) (storesAfter failedSecond)).1 =
        .ok (some ⟨"shop.test", "title", "h1", .manual, 1⟩) ∧
      activeSelector (storesAfter failedSecond) "shop.test" "title" =
        some ⟨"shop.test", "title", "h2", .aiGenerated, 2⟩ := by
  decide

end Sentinel
