import Sentinel.Lib.Lockstep
import Sentinel.Shared.JsonGrammar
import Sentinel.Worker.CacheCoherence

/-!
# The cache as it is in Redis

Under a cache key there is a text. A lookup parses it and takes three fields out of it, whatever
they are; a save writes the text of an object with these fields. The parsed cache is what the
text cache shows, in every interleaving of lookups and saves.

* `TextRepository` — the programs of the repository, with `json.loads` and `json.dumps` in them
* `textMachine` — the machine over a Postgres and a Redis with texts
* `text_cache_refines` — **it refines the machine with the parsed cache**, and a lookup answers
  the same selector
-/

namespace Sentinel

open Lib

/-- A selector as a lookup answers it: the fields from the cache are what the text says. -/
structure LooseSelector where
  domain : String
  fieldName : String
  selectorValue : Json
  source : Json
  version : Json
deriving DecidableEq

def Selector.loose (selector : Selector) : LooseSelector where
  domain := selector.domain
  fieldName := selector.fieldName
  selectorValue := .str selector.selectorValue
  source := .str selector.source.value
  version := .int selector.version

inductive TextOp
  | redisGet (key : String)
  | redisSet (key : String) (payload : String)
  | selectActive (domain fieldName : String)
  | flush (write : SelectorWrite)
  | commit (write : SelectorWrite)

abbrev TextPort : Signature where
  Op := TextOp
  Ans
    | .redisGet _ => Option String
    | .redisSet _ _ => Unit
    | .selectActive _ _ => List SelectorModel
    | .flush _ => Unit
    | .commit _ => Nat

abbrev TextProg := Prog TextPort PyError

abbrev TextPort.call (op : TextOp) : TextProg (TextPort.Ans op) := @Prog.perform TextPort PyError op

/-- The document a cache key is written with. -/
def CachedSelector.json (payload : CachedSelector) : Json :=
  .obj [("selector_value", .str payload.selectorValue), ("source", .str payload.source.value),
    ("version", .int payload.version)]

namespace TextRepository

variable (J : JsonModule)

def getFromCache (domain fieldName : String) : TextProg (Option LooseSelector) := do
  let raw ← TextPort.call (.redisGet (cacheKey domain fieldName))
  match raw with
  | none => return none
  | some raw =>
    let payload ← Prog.lift (J.loads raw)
    let selectorValue ← Prog.lift (payload.item "selector_value")
    let source ← Prog.lift (payload.item "source")
    let version ← Prog.lift (payload.item "version")
    return some { domain, fieldName, selectorValue, source, version }

def writeToCache (selector : Selector) : TextProg Unit :=
  TextPort.call (.redisSet (cacheKey selector.domain selector.fieldName)
    (J.dumps selector.payload.json))

def getFromPostgres (domain fieldName : String) : TextProg (Option Selector) := do
  let result ← TextPort.call (.selectActive domain fieldName)
  let model ← Prog.lift (scalarOneOrNone result)
  return model.map modelToSelector

def saveToPostgres (selector : Selector) : TextProg Selector := do
  let previousResult ← TextPort.call (.selectActive selector.domain selector.fieldName)
  let previous ← Prog.lift (scalarOneOrNone previousResult)
  let write : SelectorWrite := { previous := previous, selector := selector }
  TextPort.call (.flush write)
  let id ← TextPort.call (.commit write)
  return modelToSelector (write.newModel id)

def getActiveSelector (domain fieldName : String) : TextProg (Option LooseSelector) := do
  let cached ← getFromCache J domain fieldName
  match cached with
  | some selector => return some selector
  | none =>
    let fromDb ← getFromPostgres domain fieldName
    match fromDb with
    | some selector =>
      writeToCache J selector
      return some selector.loose
    | none => return none

def saveSelector (selector : Selector) : TextProg Unit := do
  let saved ← saveToPostgres selector
  writeToCache J saved

end TextRepository

/-! ## the two stores -/

structure TextStore where
  rows : List SelectorModel
  cache : String → Option String

namespace TextStore

def empty : TextStore := ⟨[], fun _ => none⟩

/-- Postgres by itself. -/
def table (t : TextStore) : SelectorStore := ⟨t.rows, fun _ => none⟩

def setCache (t : TextStore) (key : String) (payload : String) : TextStore :=
  { t with cache := Function.update t.cache key (some payload) }

def evict (t : TextStore) (key : String) : TextStore :=
  { t with cache := Function.update t.cache key none }

def commit (t : TextStore) (write : SelectorWrite) : TextStore :=
  { t with rows := (t.table.commit write).rows }

end TextStore

def textStep : (op : TextPort.Op) → TextStore → Except PyError (TextPort.Ans op) × TextStore
  | .redisGet key, t => (.ok (t.cache key), t)
  | .redisSet key payload, t => (.ok (), t.setCache key payload)
  | .selectActive domain fieldName, t => (.ok (t.table.activeRows domain fieldName), t)
  | .flush _, t => (.ok (), t)
  | .commit write, t => (.ok (t.rows.length + 1), t.commit write)

/-- The calls a process may make, by its role. -/
inductive TextSpawn (J : JsonModule) (X : SelectorSetting) : SelectorRole → TextProg Unit → Prop
  | reader (n : Nat) {domain fieldName : String} :
      X.pair domain fieldName →
      TextSpawn J X (.reader n)
        (TextRepository.getActiveSelector J domain fieldName >>= fun _ => pure ())
  | writer (n : Nat) {selector : Selector} :
      X.pair selector.domain selector.fieldName →
      TextSpawn J X (.writer n) (TextRepository.saveSelector J selector)

def textMachine (J : JsonModule) (X : SelectorSetting) :
    Machine TextPort PyError SelectorRole TextStore where
  sem := fun _ op t r t' => textStep op t = (r, t')
  spawn := fun _ i p => TextSpawn J X i p
  env := fun t t' => ∃ key, t' = t.evict key
  crashes := X.crashes

abbrev TextPool := Pool TextPort PyError SelectorRole TextStore

def textInitial : TextPool := Pool.initial TextStore.empty

/-- What the column `version` can hold. -/
def IntColumn (n : Int) : Prop := -2147483648 ≤ n ∧ n ≤ 2147483647

/-- Only rows that the table can hold are committed. -/
def versionsFit : Machine.Guard TextPort PyError SelectorRole TextStore
  | _, .call _ (.commit write) _, _ => IntColumn write.nextVersion
  | _, _, _ => True

/-! ## in step -/

/-- The text of a document is what the parsed cache has as the document. -/
def cacheLink (J : JsonModule) : Link TextPort SelectorPort PyError where
  ops
    | .redisGet key, .redisGet key' => key = key'
    | .redisSet key text, .redisSet key' payload =>
      key = key' ∧ text = J.dumps payload.json ∧ IntColumn payload.version
    | .selectActive domain fieldName, .selectActive domain' fieldName' =>
      domain = domain' ∧ fieldName = fieldName'
    | .flush write, .flush write' => write = write'
    | .commit write, .commit write' => write = write'
    | _, _ => False
  answers
    | .redisGet _, .redisGet _ => Agree fun (raw : Option String) (entry : Option CachedSelector) =>
      raw = entry.map (fun p => J.dumps p.json) ∧ ∀ p ∈ entry, IntColumn p.version
    | .redisSet _ _, .redisSet _ _ => Agree fun (_ _ : Unit) => True
    | .selectActive _ _, .selectActive _ _ => Agree fun (rows rows' : List SelectorModel) =>
      rows = rows' ∧ ∀ m ∈ rows, IntColumn m.version
    | .flush _, .flush _ => Agree fun (_ _ : Unit) => True
    | .commit write, .commit _ => Agree fun (id id' : Nat) =>
      id = id' ∧ IntColumn write.nextVersion
    | _, _ => fun _ _ => False

/-- What the two pairs of stores have to do with each other. -/
structure Shows (J : JsonModule) (t : TextStore) (s : SelectorStore) : Prop where
  rows : t.rows = s.rows
  versions : ∀ m ∈ s.rows, IntColumn m.version
  cache : ∀ key, t.cache key = (s.cache key).map fun p => J.dumps p.json
  entries : ∀ key, ∀ p ∈ s.cache key, IntColumn p.version

section Lockstep

variable {J : JsonModule} {domain fieldName : String} {selector : Selector}

theorem toDigits_of_intColumn {n : Int} (h : IntColumn n) :
    (Nat.toDigits 10 n.natAbs).length ≤ 4300 := by
  have hsmall : n.natAbs < 10 ^ 10 := by
    unfold IntColumn at h
    omega
  have := (Nat.length_toDigits_le_iff (k := 10) (by decide) (by decide)).mpr hsmall
  omega

/-- **What a save writes, a lookup parses.** -/
theorem JsonModule.loads_payload {payload : CachedSelector} (h : IntColumn payload.version) :
    J.loads (J.dumps payload.json) = .ok payload.json := by
  refine J.loads_dumps ?_
  simp [CachedSelector.json, Json.fits, Json.fitFields, toDigits_of_intColumn h]

theorem getFromCache_lockstep :
    (TextRepository.getFromCache J domain fieldName).Lockstep (cacheLink J)
      (fun a b => a = b.map Selector.loose) (getFromCache domain fieldName) := by
  refine Prog.Lockstep.bind (Prog.Lockstep.perform rfl fun _ _ h => h) ?_
  rintro _ payload ⟨rfl, hfit⟩
  cases payload with
  | none => rfl
  | some payload =>
    show Prog.Lockstep _ _ (Prog.lift (J.loads (J.dumps payload.json)) >>= _) _
    rw [J.loads_payload (hfit payload rfl)]
    rfl

theorem getFromPostgres_lockstep :
    (TextRepository.getFromPostgres domain fieldName).Lockstep (cacheLink J)
      (fun a b => a = b ∧ ∀ selector ∈ a, IntColumn selector.version)
      (getFromPostgres domain fieldName) := by
  refine Prog.Lockstep.bind (Prog.Lockstep.perform ⟨rfl, rfl⟩ fun _ _ h => h) ?_
  rintro rows _ ⟨rfl, hfit⟩
  match rows, hfit with
  | [], _ => exact ⟨rfl, nofun⟩
  | [m], hfit =>
    refine ⟨rfl, ?_⟩
    rintro _ ⟨⟩
    exact hfit m List.mem_cons_self
  | _ :: _ :: _, _ => rfl

theorem writeToCache_lockstep (h : IntColumn selector.version) :
    (TextRepository.writeToCache J selector).Lockstep (cacheLink J) (fun _ _ => True)
      (writeToCache selector) :=
  Prog.Lockstep.perform ⟨rfl, rfl, h⟩ fun _ _ h => h

theorem saveToPostgres_lockstep :
    (TextRepository.saveToPostgres selector).Lockstep (cacheLink J)
      (fun a b => a = b ∧ IntColumn a.version) (saveToPostgres selector) := by
  refine Prog.Lockstep.bind (Prog.Lockstep.perform ⟨rfl, rfl⟩ fun _ _ h => h) ?_
  rintro rows _ ⟨rfl, -⟩
  refine Prog.Lockstep.bind (Q := Eq) (Prog.Lockstep.lift ?_) ?_
  · cases scalarOneOrNone rows with
    | ok m => exact .ok rfl
    | error e => exact .error e
  rintro previous _ rfl
  refine Prog.Lockstep.bind (Prog.Lockstep.perform rfl fun _ _ h => h) fun _ _ _ => ?_
  refine Prog.Lockstep.bind (Prog.Lockstep.perform rfl fun _ _ h => h) ?_
  rintro id _ ⟨rfl, hfit⟩
  refine ⟨rfl, ?_⟩
  rw [SelectorWrite.modelToSelector_newModel]
  exact hfit

theorem getActiveSelector_lockstep :
    (TextRepository.getActiveSelector J domain fieldName).Lockstep (cacheLink J)
      (fun a b => a = b.map Selector.loose) (getActiveSelector domain fieldName) := by
  refine Prog.Lockstep.bind getFromCache_lockstep ?_
  rintro _ cached rfl
  cases cached with
  | some selector => rfl
  | none =>
    refine Prog.Lockstep.bind getFromPostgres_lockstep ?_
    rintro fromDb _ ⟨rfl, hfit⟩
    cases fromDb with
    | none => rfl
    | some selector =>
      exact Prog.Lockstep.bind (writeToCache_lockstep (hfit selector rfl)) fun _ _ _ => rfl

theorem saveSelector_lockstep :
    (TextRepository.saveSelector J selector).Lockstep (cacheLink J) (fun _ _ => True)
      (saveSelector selector) := by
  refine Prog.Lockstep.bind saveToPostgres_lockstep ?_
  rintro saved _ ⟨rfl, hfit⟩
  exact writeToCache_lockstep hfit

end Lockstep

/-! ## the refinement -/

section Refinement

variable {J : JsonModule} {t : TextStore} {s : SelectorStore}

theorem Shows.activeRows (h : Shows J t s) (domain fieldName : String) :
    t.table.activeRows domain fieldName = s.activeRows domain fieldName := by
  unfold SelectorStore.activeRows
  show t.rows.filter _ = _
  rw [h.rows]

theorem Shows.setCache (h : Shows J t s) (key : String) {payload : CachedSelector}
    (hfit : IntColumn payload.version) :
    Shows J (t.setCache key (J.dumps payload.json)) (s.setCache key payload) := by
  refine ⟨h.rows, h.versions, fun key' => ?_, fun key' p hp => ?_⟩
  · by_cases hkey : key' = key
    · simp [TextStore.setCache, SelectorStore.setCache, hkey]
    · simpa [TextStore.setCache, SelectorStore.setCache, hkey] using h.cache key'
  · by_cases hkey : key' = key
    · have : payload = p := by simpa [SelectorStore.setCache, hkey] using hp
      exact this ▸ hfit
    · exact h.entries key' p (by simpa [SelectorStore.setCache, hkey] using hp)

theorem Shows.evict (h : Shows J t s) (key : String) : Shows J (t.evict key) (s.evict key) := by
  refine ⟨h.rows, h.versions, fun key' => ?_, fun key' p hp => ?_⟩
  · by_cases hkey : key' = key
    · simp [TextStore.evict, SelectorStore.evict, hkey]
    · simpa [TextStore.evict, SelectorStore.evict, hkey] using h.cache key'
  · by_cases hkey : key' = key
    · simp [SelectorStore.evict, hkey] at hp
    · exact h.entries key' p (by simpa [SelectorStore.evict, hkey] using hp)

theorem Shows.commit (h : Shows J t s) {write : SelectorWrite}
    (hfit : IntColumn write.nextVersion) : Shows J (t.commit write) (s.commit write) := by
  refine ⟨?_, fun m hm => ?_, h.cache, h.entries⟩
  · show (t.table.commit write).rows = _
    simp [SelectorStore.commit, TextStore.table, h.rows]
  · rcases List.mem_append.mp hm with hm | hm
    · obtain ⟨r, hr, rfl⟩ := List.mem_map.mp hm
      have hversion : (SelectorStore.deactivate write.previous r).version = r.version := by
        unfold SelectorStore.deactivate
        split <;> rfl
      rw [hversion]
      exact h.versions r hr
    · rw [List.mem_singleton.mp hm]
      exact hfit

/-- One command on both pairs of stores. -/
theorem Shows.step (h : Shows J t s) {o : TextOp} {o' : SelectorOp}
    (hops : (cacheLink J).ops o o')
    (hfit : ∀ write, o = .commit write → IntColumn write.nextVersion) :
    (cacheLink J).answers o o' (textStep o t).1 (storeStep o' s).1 ∧
      Shows J (textStep o t).2 (storeStep o' s).2 := by
  cases o <;> cases o' <;> try exact hops.elim
  · next key _ =>
    cases hops
    exact ⟨.ok ⟨h.cache key, h.entries key⟩, h⟩
  · obtain ⟨rfl, rfl, hversion⟩ := hops
    exact ⟨.ok trivial, h.setCache _ hversion⟩
  · next domain fieldName _ _ =>
    obtain ⟨rfl, rfl⟩ := hops
    refine ⟨.ok ⟨h.activeRows domain fieldName, fun m hm => ?_⟩, h⟩
    rw [h.activeRows] at hm
    exact h.versions m (List.mem_filter.mp hm).1
  · exact ⟨.ok trivial, h⟩
  · next write _ =>
    cases hops
    exact ⟨.ok ⟨congrArg (List.length · + 1) h.rows, hfit write rfl⟩, h.commit (hfit write rfl)⟩

theorem textMachine_refines (J : JsonModule) (X : SelectorSetting) :
    (textMachine J X).Refines (selectorMachine X) versionsFit (cacheLink J) (Shows J) where
  call := by
    intro c i o r t' procs' o' s hsem hg hops h
    change textStep o c.state = (r, t') at hsem
    have hstep := h.step hops fun write he => by
      subst he
      exact hg
    rw [hsem] at hstep
    exact ⟨_, _, rfl, hstep⟩
  spawn := by
    rintro c d i p - hsp
    cases hsp with
    | reader n hpair =>
      exact ⟨_, .reader n hpair,
        Prog.Lockstep.bind getActiveSelector_lockstep fun _ _ _ => trivial⟩
    | writer n hpair => exact ⟨_, .writer n hpair, saveSelector_lockstep⟩
  env := by
    rintro t t' s h ⟨key, rfl⟩
    exact ⟨_, ⟨key, rfl⟩, h.evict key⟩
  crashes := id

/--
**The text cache refines the parsed one.** A run over the texts, with any interleaving of lookups,
saves, evictions and deaths, is a run over the documents; and wherever it has led, a lookup parses
what it finds and answers the selector the parsed cache has.
-/
theorem text_cache_refines (J : JsonModule) {X : SelectorSetting} {c : TextPool}
    (h : (textMachine J X).Steps versionsFit textInitial c) :
    ∃ d, (selectorMachine X).Steps Machine.anyStep selectorInitial d ∧
      c.InStep (cacheLink J) (Shows J) d ∧
      ∀ domain fieldName, Agree (fun a b => a = b.map Selector.loose)
        ((TextRepository.getActiveSelector J domain fieldName).exec textStep c.state).1
        ((getActiveSelector domain fieldName).exec storeStep d.state).1 := by
  have h0 : Pool.InStep (cacheLink J) (Shows J) textInitial selectorInitial :=
    Pool.initial_inStep ⟨rfl, nofun, fun _ => rfl, nofun⟩
  obtain ⟨d, hd, hin⟩ := (textMachine_refines J X).steps h0 h
  refine ⟨d, hd, hin, fun domain fieldName => ?_⟩
  have hstep : ∀ o o' t s, NotCommit o' → (cacheLink J).ops o o' → Shows J t s →
      (cacheLink J).answers o o' (textStep o t).1 (storeStep o' s).1 ∧
        Shows J (textStep o t).2 (storeStep o' s).2 := by
    intro o o' t s hno hops hts
    refine hts.step hops ?_
    -- a command that corresponds to no commit is none
    rintro write rfl
    cases o' with
    | commit write' => exact absurd rfl (hno write')
    | _ => exact hops.elim
  exact (getActiveSelector_lockstep.exec hstep (getActiveSelector_only domain fieldName)
    hin.state).1

end Refinement

/-- A save of a selector whose text has to be escaped, and a lookup. -/
def quotedSave : List (Machine.Move TextPort PyError SelectorRole TextStore) :=
  [.spawn (.writer 0) (TextRepository.saveSelector plainJson (savedAs "h1[é]")),
    .turn (.writer 0) 4,
    .spawn (.reader 0)
      (TextRepository.getActiveSelector plainJson "shop.test" "title" >>= fun _ => pure ()),
    .turn (.reader 0) 1]

theorem text_cache_refines_quotedSave : ∃ c : TextPool,
    c.state.cache (cacheKey "shop.test" "title") = some
      "\x7b\"selector_value\": \"h1[\\u00e9]\", \"source\": \"manual\", \"version\": 1\x7d" ∧
    ∃ d, (selectorMachine anySelectorUse).Steps Machine.anyStep selectorInitial d ∧
      c.InStep (cacheLink plainJson) (Shows plainJson) d := by
  have hrun : (textMachine plainJson anySelectorUse).Steps versionsFit textInitial
      (Machine.play (fun _ => textStep) quotedSave textInitial) :=
    Machine.Steps.play (h := fun _ => textStep) (fun _ _ _ => rfl) quotedSave textInitial
      ⟨⟨⟨rfl, .writer 0 trivial⟩, trivial⟩,
        ⟨trivial, trivial, ⟨by decide, by decide⟩, trivial, trivial⟩,
        ⟨⟨rfl, .reader 0 trivial⟩, trivial⟩, ⟨trivial, trivial⟩, trivial⟩
  obtain ⟨d, hd, hin, -⟩ := text_cache_refines plainJson hrun
  exact ⟨_, by decide, d, hd, hin⟩

end Sentinel
