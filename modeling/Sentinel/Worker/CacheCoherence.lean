import Sentinel.Worker.SelectorHistory
import Sentinel.Worker.SelectorMachine

/-!
# The cache against the table

One pair, lookups running side by side with saves, of which at most one runs at a time. A lookup
that missed the cache writes back the row it has read, however long ago that was.

* `cache_fresh` — while every lookup that warms the cache writes the row that is active at that
  moment, or writes during a save, the cache is fresh whenever no call is in progress
* `slow_reader` — a lookup that sleeps through a save leaves the old selector in the cache
-/

namespace Sentinel

open Lib

/-- Calls concern one pair only, and no process dies. -/
def onePair (domain fieldName : String) : SelectorSetting :=
  ⟨fun d f => d = domain ∧ f = fieldName, False⟩

/-- The cache has no entry for the pair, or the content of its active row. -/
def Fresh (domain fieldName : String) (s : SelectorStore) : Prop :=
  ∀ payload, s.cache (cacheKey domain fieldName) = some payload →
    ∃ m, s.activeRows domain fieldName = [m] ∧ payload = (modelToSelector m).payload

/-- A save starts only when no other is in progress. -/
def oneWriter : SelectorGuard
  | c, .spawn (.writer _) _, _ => ∀ n, ¬c.Active (.writer n)
  | _, _, _ => True

/-- A lookup warms the cache with the row that is active, or while a save is in progress. -/
def warmsFresh (domain fieldName : String) : SelectorGuard
  | c, .call (.reader _) (.redisSet _ payload) _, _ =>
    (∃ n, c.Active (.writer n)) ∨
      ∃ m, c.state.activeRows domain fieldName = [m] ∧ payload = (modelToSelector m).payload
  | _, _, _ => True

def coherent (domain fieldName : String) : SelectorGuard :=
  fun c l c' => oneWriter c l c' ∧ warmsFresh domain fieldName c l c'

section Fresh

variable {domain fieldName : String} {s s' : SelectorStore}

theorem Fresh.congr (h : Fresh domain fieldName s) (hrows : s'.rows = s.rows)
    (hcache : s'.cache = s.cache) : Fresh domain fieldName s' := by
  intro payload hp
  have hact : s'.activeRows domain fieldName = s.activeRows domain fieldName := by
    unfold SelectorStore.activeRows
    rw [hrows]
  rw [hact]
  exact h payload (by rw [← hcache]; exact hp)

theorem Fresh.evict (h : Fresh domain fieldName s) (key : String) :
    Fresh domain fieldName (s.evict key) := by
  intro payload hp
  by_cases hk : cacheKey domain fieldName = key
  · simp [SelectorStore.evict, hk] at hp
  · exact h payload (by simpa [SelectorStore.evict, hk] using hp)

/-- Writing the content of the active row. -/
theorem fresh_setCache {m : SelectorModel} (hm : s.activeRows domain fieldName = [m]) :
    Fresh domain fieldName
      (s.setCache (cacheKey domain fieldName) (modelToSelector m).payload) := by
  intro payload hp
  refine ⟨m, hm, ?_⟩
  simpa [SelectorStore.setCache, eq_comm] using hp

theorem Fresh.setCache_of_ne (h : Fresh domain fieldName s) {key : String}
    (hk : key ≠ cacheKey domain fieldName) (payload : CachedSelector) :
    Fresh domain fieldName (s.setCache key payload) := by
  intro payload' hp
  exact h payload' (by simpa [SelectorStore.setCache, hk.symm] using hp)

end Fresh

/-! ## rely and guarantee -/

/-- Lookups keep the rows as they are; a save ends with a fresh cache. -/
def coherence (domain fieldName : String) :
    Machine.Discipline SelectorPort PyError SelectorRole SelectorStore where
  inv := fun s => ∃ H, Represents s H
  rely
    | .reader _ => ⟨fun _ _ => True, fun _ => trivial, fun _ _ => trivial⟩
    | .writer _ => ⟨fun s s' => s'.rows = s.rows, fun _ => rfl, fun h h' => h'.trans h⟩
  guar
    | .reader _ => fun _ s s' => s'.rows = s.rows
    | .writer _ => fun _ _ _ => True
  sem := fun _ op s r s' => storeStep op s = (r, s')
  fresh := fun _ _ => True
  post
    | .reader _ => fun _ _ => True
    | .writer _ => fun _ s => Fresh domain fieldName s

section Coherence

variable {domain fieldName : String} {s : SelectorStore}

def NotCommit (op : SelectorOp) : Prop := ∀ write, op ≠ .commit write

theorem getFromCache_only (d f : String) : (getFromCache d f).Only NotCommit :=
  Prog.Only.bind (Prog.only_perform nofun) fun _ => trivial

theorem getFromPostgres_only (d f : String) : (getFromPostgres d f).Only NotCommit := by
  refine Prog.Only.bind (Prog.only_perform nofun) fun result => ?_
  exact Prog.Only.bind (Prog.only_lift _) fun _ => by trivial

/-- A lookup commits nothing. -/
theorem getActiveSelector_only (d f : String) : (getActiveSelector d f).Only NotCommit := by
  refine Prog.Only.bind (getFromCache_only d f) fun cached => ?_
  cases cached with
  | some selector => trivial
  | none =>
    refine Prog.Only.bind (getFromPostgres_only d f) fun fromDb => ?_
    cases fromDb with
    | none => trivial
    | some selector => exact Prog.Only.bind (Prog.only_perform nofun) fun _ => by trivial

theorem storeStep_keeps {op : SelectorPort.Op} {s s' : SelectorStore}
    {r : Except PyError (SelectorPort.Ans op)} (hop : NotCommit op)
    (h : storeStep op s = (r, s')) : s'.rows = s.rows := by
  rcases storeStep_rows op s with hr | ⟨write, rfl, -⟩
  · rw [h] at hr
    exact hr
  · exact absurd rfl (hop write)

theorem reader_safe (n : Nat) (d f : String) (s : SelectorStore) :
    (getActiveSelector d f >>= fun _ => pure () : SelectorProg Unit).Safe
      ((coherence domain fieldName).contract (.reader n))
      ((coherence domain fieldName).post (.reader n)) s := by
  refine Prog.Only.safe ((getActiveSelector_only d f).bind fun _ => by trivial) ?_
    (fun _ _ => trivial) s
  rintro op s r s' hop ⟨H, hH⟩ hsem
  have hrows := storeStep_keeps hop hsem
  exact ⟨hrows, H, hH.of_rows hrows⟩

/-- A save that no other save disturbs ends with its own row in the cache. -/
theorem writer_safe (n : Nat) {selector : Selector} (hd : selector.domain = domain)
    (hf : selector.fieldName = fieldName) (s : SelectorStore) :
    (saveSelector selector).Safe ((coherence domain fieldName).contract (.writer n))
      ((coherence domain fieldName).post (.writer n)) s := by
  subst hd hf
  unfold saveSelector saveToPostgres
  simp only [bind_assoc]
  rw [Prog.safe_perform_bind]
  rintro s₁ - ⟨H, hH⟩ r s₂ hsem
  cases hsem
  refine ⟨⟨trivial, H, hH⟩, ?_⟩
  obtain ⟨previous, hprev⟩ := hH.previous selector.domain selector.fieldName
  show (Prog.lift (scalarOneOrNone _) >>= _ : SelectorProg Unit).Safe _ _ _
  rw [hprev, Prog.lift_ok, Prog.ret_bind, Prog.safe_perform_bind]
  -- the flush
  rintro s₂ hrows₂ - r s₃ hsem
  cases hsem
  have hrows : s₂.rows = s₁.rows := hrows₂
  refine ⟨⟨trivial, H, hH.of_rows hrows⟩, ?_⟩
  show (SelectorPort.commit _ >>= _ : SelectorProg Unit).Safe _ _ _
  rw [Prog.safe_perform_bind]
  -- the commit
  rintro s₃ hrows₃ - r s₄ hsem
  cases hsem
  have hrows : s₃.rows = s₁.rows := (show s₃.rows = s₂.rows from hrows₃).trans hrows
  have hprev₃ : scalarOneOrNone (s₃.activeRows selector.domain selector.fieldName) =
      .ok previous := by
    unfold SelectorStore.activeRows
    rw [hrows]
    exact hprev
  have hrep := (hH.of_rows hrows).commit hprev₃
  obtain ⟨m, hm, hsel⟩ := hrep.active_row ((hH.of_rows hrows).commit_active hprev₃)
  refine ⟨⟨trivial, _, hrep⟩, ?_⟩
  show (writeToCache (modelToSelector _)).Safe _ _ _
  rw [SelectorWrite.modelToSelector_newModel]
  refine Prog.safe_perform.mpr ?_
  -- the cache entry
  rintro s₄ hrows₄ - r s₅ hsem
  cases hsem
  have hrows₄ : s₄.rows = (s₃.commit ⟨previous, selector⟩).rows := hrows₄
  refine ⟨⟨trivial, _, hrep.of_rows hrows₄⟩, ?_⟩
  have hm₄ : s₄.activeRows selector.domain selector.fieldName = [m] := by
    unfold SelectorStore.activeRows
    rw [hrows₄]
    exact hm
  show Fresh _ _ (s₄.setCache _ _)
  have hfresh := fresh_setCache hm₄
  rw [hsel] at hfresh
  exact hfresh

theorem coherence_sound : (selectorMachine (onePair domain fieldName)).Sound
    (coherent domain fieldName) (coherence domain fieldName)
    fun c => ∀ n m, c.Active (.writer n) → c.Active (.writer m) → n = m where
  sem hsem _ := hsem
  spawn hsp _ _ := by
    cases hsp with
    | reader n _ => exact reader_safe n _ _ _
    | writer n hpair => exact writer_safe n hpair.1 hpair.2 _
  compat := by
    intro c i j op s' hx hi hj hij _ _ hguar
    cases j with
    | reader n => trivial
    | writer n =>
      cases i with
      | reader m => exact hguar
      | writer m => exact absurd (hx m n hi hj) (fun h => hij (by rw [h]))
  freshStable _ _ _ _ := trivial
  env := by
    rintro s s' ⟨key, rfl⟩ ⟨H, hH⟩
    refine ⟨⟨H, hH.of_rows rfl⟩, fun j => ?_, fun _ _ => trivial⟩
    cases j with
    | reader n => trivial
    | writer n => rfl

/-! ## runs -/

/-- A pool in which a save, if there is one, is alone and will leave the cache fresh. -/
structure InOrder (domain fieldName : String) (c : SelectorPool) : Prop where
  ok : Machine.Ok (coherence domain fieldName) c
  alone : ∀ n m, c.Active (.writer n) → c.Active (.writer m) → n = m
  fresh : (∀ n, ¬c.Active (.writer n)) → Fresh domain fieldName c.state

/-- The call of a lookup keeps the cache fresh while no save is in progress. -/
theorem fresh_reader_call {c c' : SelectorPool} {n : Nat} {op : SelectorPort.Op}
    {r : Except PyError (SelectorPort.Ans op)} {s : SelectorStore}
    (hc : ∀ n, ¬c.Active (.writer n)) (hfresh : Fresh domain fieldName c.state)
    (hsem : storeStep op c.state = (r, s)) (hrows : s.rows = c.state.rows)
    (hg : warmsFresh domain fieldName c (.call (.reader n) op r) c') :
    Fresh domain fieldName s := by
  cases op with
  | redisGet key => cases hsem; exact hfresh
  | selectActive d f => cases hsem; exact hfresh
  | flush write => cases hsem; exact hfresh
  | commit write => cases hsem; exact hfresh.congr hrows rfl
  | redisSet key payload =>
    cases hsem
    rcases hg with ⟨m, hm⟩ | ⟨m, hm, rfl⟩
    · exact absurd hm (hc m)
    · by_cases hk : key = cacheKey domain fieldName
      · rw [hk]
        exact fresh_setCache hm
      · exact hfresh.setCache_of_ne hk _

theorem InOrder.step {c c' : SelectorPool} {l : Lib.Label SelectorPort PyError SelectorRole}
    (h : InOrder domain fieldName c) (hf : (selectorMachine (onePair domain fieldName)).Fire c l c')
    (hg : coherent domain fieldName c l c') : InOrder domain fieldName c' := by
  refine ⟨h.ok.step coherence_sound h.alone hf hg, ?_, ?_⟩
  · intro n m hn hm
    rcases hf.active hn with hn | ⟨p, rfl⟩
    · rcases hf.active hm with hm | ⟨p, rfl⟩
      · exact h.alone n m hn hm
      · exact absurd hn (hg.1 n)
    · rcases hf.active hm with hm | ⟨p', hl⟩
      · exact absurd hm (hg.1 m)
      · cases hl
        rfl
  · intro hc'
    cases hf with
    | @spawn i p hu hsp =>
      refine h.fresh fun n hn => ?_
      by_cases hni : SelectorRole.writer n = i
      · subst hni
        obtain ⟨op, k, hop⟩ := hn
        rw [hu] at hop
        cases hop
      · exact hc' n (Machine.Active.update hn hni)
    | @call i op k r s' hi hsem =>
      cases i with
      | reader n =>
        have hc : ∀ m, ¬c.Active (.writer m) := fun m hm =>
          hc' m (Machine.Active.update hm (by simp))
        have hrows := (h.ok.fire coherence_sound hi hsem hg).1.1
        exact fresh_reader_call hc (h.fresh hc) hsem hrows hg.2
      | writer n =>
        -- no save is left in progress, so this was the last call of one
        have hsafe := (h.ok.fire coherence_sound hi hsem hg).2
        obtain ⟨out, hout⟩ := hsafe.outcome fun op' k' he =>
          hc' n ⟨op', k', by simp [he]⟩
        exact hout
    | crash hcr hi => exact absurd hcr id
    | env henv =>
      obtain ⟨key, rfl⟩ := henv
      exact (h.fresh hc').evict key

/--
**The cache is fresh when nobody is busy.** If at most one save runs at a time, and every lookup
that warms the cache writes the active row or writes during a save, then in every state in which
no call is in progress the cache entry is absent or agrees with the active row.
-/
theorem cache_fresh {c : SelectorPool}
    (h : (selectorMachine (onePair domain fieldName)).Steps (coherent domain fieldName)
      selectorInitial c) (hquiet : ∀ i, ¬c.Active i) : Fresh domain fieldName c.state := by
  have hinit : InOrder domain fieldName selectorInitial := by
    refine ⟨Machine.Ok.initial ⟨_, represents_empty⟩ fun _ => trivial, ?_, fun _ _ hp => ?_⟩
    · rintro n m ⟨op, k, hn⟩
      cases hn
    · cases hp
  have hend : InOrder domain fieldName c := h.induct hinit fun _ _ _ _ hP hf hg => hP.step hf hg
  exact hend.fresh fun n => hquiet _

end Coherence

/-! ## two runs -/

def savedAs (selectorValue : String) : Selector :=
  ⟨"shop.test", "title", selectorValue, .manual, 1⟩

def readTitle : SelectorProg Unit := getActiveSelector "shop.test" "title" >>= fun _ => pure ()

/-- A save, an eviction, and a lookup that warms the cache again. -/
def saveThenRead : List (Machine.Move SelectorPort PyError SelectorRole SelectorStore) :=
  [.spawn (.writer 0) (saveSelector (savedAs "h1")), .turn (.writer 0) 4,
    .env (·.evict (cacheKey "shop.test" "title")),
    .spawn (.reader 0) readTitle, .turn (.reader 0) 3]

theorem cache_fresh_save_then_read : Fresh "shop.test" "title"
    (Machine.play (fun _ => storeStep) saveThenRead selectorInitial).state := by
  refine cache_fresh (Machine.Steps.play (fun _ _ _ => rfl) saveThenRead selectorInitial ?_) ?_
  · refine ⟨⟨⟨rfl, .writer 0 ⟨rfl, rfl⟩⟩, ?_, trivial⟩,
      ⟨⟨trivial, trivial⟩, ⟨trivial, trivial⟩, ⟨trivial, trivial⟩, ⟨trivial, trivial⟩, trivial⟩,
      ⟨⟨_, rfl⟩, trivial, trivial⟩, ⟨⟨rfl, .reader 0 ⟨rfl, rfl⟩⟩, trivial, trivial⟩,
      ⟨⟨trivial, trivial⟩, ⟨trivial, trivial⟩, ⟨trivial, ?_⟩, trivial⟩, trivial⟩
    · rintro n ⟨op, k, hn⟩
      cases hn
    · exact Or.inr ⟨_, rfl, rfl⟩
  · rintro ((_ | n) | (_ | n)) ⟨op, k, hn⟩
    · cases hn
    · cases hn
    · cases hn
    · cases hn

/-- A lookup misses the cache and reads the row `h1`; a save of `h2` runs from beginning to end;
the lookup warms the cache with what it has read. -/
def slowReader : List (Machine.Move SelectorPort PyError SelectorRole SelectorStore) :=
  [.spawn (.writer 0) (saveSelector (savedAs "h1")), .turn (.writer 0) 4,
    .env (·.evict (cacheKey "shop.test" "title")),
    .spawn (.reader 0) readTitle, .turn (.reader 0) 2,
    .spawn (.writer 1) (saveSelector (savedAs "h2")), .turn (.writer 1) 4,
    .turn (.reader 0) 1]

theorem slow_reader : ∃ c : SelectorPool,
    (selectorMachine (onePair "shop.test" "title")).Steps oneWriter selectorInitial c ∧
      (∀ i, ¬c.Active i) ∧
      c.state.cache (cacheKey "shop.test" "title") = some ⟨"h1", .manual, 1⟩ ∧
      ((c.state.activeRows "shop.test" "title").map fun r => (r.selectorValue, r.version)) =
        [("h2", 2)] := by
  refine ⟨_, Machine.Steps.play (h := fun _ => storeStep) (fun _ _ _ => rfl) slowReader
    selectorInitial ?_, ?_, rfl, rfl⟩
  · refine ⟨⟨⟨rfl, .writer 0 ⟨rfl, rfl⟩⟩, ?_⟩, ⟨trivial, trivial, trivial, trivial, trivial⟩,
      ⟨⟨_, rfl⟩, trivial⟩, ⟨⟨rfl, .reader 0 ⟨rfl, rfl⟩⟩, trivial⟩, ⟨trivial, trivial, trivial⟩,
      ⟨⟨rfl, .writer 1 ⟨rfl, rfl⟩⟩, ?_⟩, ⟨trivial, trivial, trivial, trivial, trivial⟩,
      ⟨trivial, trivial⟩, trivial⟩
    · rintro n ⟨op, k, hn⟩
      cases hn
    · rintro (_ | n) ⟨op, k, hn⟩
      · cases hn
      · cases hn
  · rintro ((_ | n) | (_ | _ | n)) ⟨op, k, hn⟩
    · cases hn
    · cases hn
    · cases hn
    · cases hn
    · cases hn

end Sentinel
