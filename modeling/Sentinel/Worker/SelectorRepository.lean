import Sentinel.Shared.Json

/-!
# The selector repository

Cache-aside storage of selectors. Redis is asked first; a miss reads the active row of the table
`selectors` and warms the cache. A save writes to Postgres first and to the cache after that.

* `getActiveSelector`, `saveSelector` — the programs, over the commands of both stores
* `SelectorStore`, `storeStep` — the two stores and what a command does to them
* `exec_getActiveSelector`, `exec_saveSelector` — what a call does when nobody else is running

The payload under a cache key is kept parsed: `json.loads` undoes `json.dumps`. Row ids are
given out in the order of the commits; nothing reads them but the update of the row they name.
-/

namespace Sentinel

open Lib

inductive SelectorSource
  | manual
  | aiGenerated
deriving DecidableEq, Repr

def SelectorSource.value : SelectorSource → String
  | manual => "manual"
  | aiGenerated => "ai_generated"

structure Selector where
  domain : String
  fieldName : String
  selectorValue : String
  source : SelectorSource
  version : Int := 1
deriving DecidableEq, Repr

/-- A row of the table `selectors`. -/
structure SelectorModel where
  id : Nat
  domain : String
  fieldName : String
  selectorValue : String
  version : Int
  source : String
  isActive : Bool
deriving DecidableEq, Repr

/-- The JSON document under a cache key. -/
structure CachedSelector where
  selectorValue : String
  source : SelectorSource
  version : Int
deriving DecidableEq, Repr

def cacheKey (domain fieldName : String) : String :=
  "selector:" ++ domain ++ ":" ++ fieldName

/-- Within one domain the cache keys of two fields differ. -/
@[simp] theorem cacheKey_right_inj {domain f f' : String} :
    cacheKey domain f = cacheKey domain f' ↔ f = f' :=
  String.append_right_inj _

def modelToSelector (model : SelectorModel) : Selector where
  domain := model.domain
  fieldName := model.fieldName
  selectorValue := model.selectorValue
  source := if model.source = "manual" then .manual else .aiGenerated
  version := model.version

def Selector.payload (selector : Selector) : CachedSelector where
  selectorValue := selector.selectorValue
  source := selector.source
  version := selector.version

def CachedSelector.toSelector (payload : CachedSelector) (domain fieldName : String) :
    Selector where
  domain := domain
  fieldName := fieldName
  selectorValue := payload.selectorValue
  source := payload.source
  version := payload.version

/-- What a session holds when a save commits: the row it read, now inactive, and the new one. -/
structure SelectorWrite where
  previous : Option SelectorModel
  selector : Selector
deriving DecidableEq, Repr

namespace SelectorWrite

def nextVersion (write : SelectorWrite) : Int :=
  match write.previous with
  | none => 1
  | some previous => previous.version + 1

/-- The new row, under the id it is given. -/
def newModel (write : SelectorWrite) (id : Nat) : SelectorModel where
  id := id
  domain := write.selector.domain
  fieldName := write.selector.fieldName
  selectorValue := write.selector.selectorValue
  version := write.nextVersion
  source := write.selector.source.value
  isActive := true

/-- The text of the source is read back as the source. -/
@[simp] theorem modelToSelector_newModel (write : SelectorWrite) (id : Nat) :
    modelToSelector (write.newModel id) = { write.selector with version := write.nextVersion } := by
  unfold modelToSelector newModel
  cases hs : write.selector.source <;> simp [SelectorSource.value, hs]

end SelectorWrite

/-! ## the programs -/

inductive SelectorOp
  | redisGet (key : String)
  | redisSet (key : String) (payload : CachedSelector)
  /-- `SELECT … WHERE domain = … AND field_name = … AND is_active`. -/
  | selectActive (domain fieldName : String)
  | flush (write : SelectorWrite)
  | commit (write : SelectorWrite)
deriving DecidableEq, Repr

abbrev SelectorPort : Signature where
  Op := SelectorOp
  Ans
    | .redisGet _ => Option CachedSelector
    | .redisSet _ _ => Unit
    | .selectActive _ _ => List SelectorModel
    | .flush _ => Unit
    | .commit _ => Nat

abbrev SelectorProg := Prog SelectorPort PyError

namespace SelectorPort

abbrev redisGet (key : String) : SelectorProg (Option CachedSelector) :=
  @Prog.perform SelectorPort PyError (.redisGet key)

abbrev redisSet (key : String) (payload : CachedSelector) : SelectorProg Unit :=
  @Prog.perform SelectorPort PyError (.redisSet key payload)

abbrev selectActive (domain fieldName : String) : SelectorProg (List SelectorModel) :=
  @Prog.perform SelectorPort PyError (.selectActive domain fieldName)

abbrev flush (write : SelectorWrite) : SelectorProg Unit :=
  @Prog.perform SelectorPort PyError (.flush write)

abbrev commit (write : SelectorWrite) : SelectorProg Nat :=
  @Prog.perform SelectorPort PyError (.commit write)

end SelectorPort

/-- `result.scalar_one_or_none()`. -/
def scalarOneOrNone {α : Type} : List α → Except PyError (Option α)
  | [] => .ok none
  | [a] => .ok (some a)
  | _ :: _ :: _ => .error .multipleResultsFound

def getFromCache (domain fieldName : String) : SelectorProg (Option Selector) := do
  let raw ← SelectorPort.redisGet (cacheKey domain fieldName)
  return raw.map fun payload => payload.toSelector domain fieldName

def writeToCache (selector : Selector) : SelectorProg Unit :=
  SelectorPort.redisSet (cacheKey selector.domain selector.fieldName) selector.payload

def getFromPostgres (domain fieldName : String) : SelectorProg (Option Selector) := do
  let result ← SelectorPort.selectActive domain fieldName
  let model ← Prog.lift (scalarOneOrNone result)
  return model.map modelToSelector

def saveToPostgres (selector : Selector) : SelectorProg Selector := do
  let previousResult ← SelectorPort.selectActive selector.domain selector.fieldName
  let previous ← Prog.lift (scalarOneOrNone previousResult)
  let write : SelectorWrite := { previous := previous, selector := selector }
  SelectorPort.flush write
  let id ← SelectorPort.commit write
  return modelToSelector (write.newModel id)

def getActiveSelector (domain fieldName : String) : SelectorProg (Option Selector) := do
  let cached ← getFromCache domain fieldName
  match cached with
  | some selector => return some selector
  | none =>
    let fromDb ← getFromPostgres domain fieldName
    match fromDb with
    | some selector =>
      writeToCache selector
      return some selector
    | none => return none

def saveSelector (selector : Selector) : SelectorProg Unit := do
  let saved ← saveToPostgres selector
  writeToCache saved

/-! ## the two stores -/

structure SelectorStore where
  rows : List SelectorModel
  cache : String → Option CachedSelector

namespace SelectorStore

def empty : SelectorStore := ⟨[], fun _ => none⟩

def activeRows (s : SelectorStore) (domain fieldName : String) : List SelectorModel :=
  s.rows.filter fun r => r.domain == domain && r.fieldName == fieldName && r.isActive

def setCache (s : SelectorStore) (key : String) (payload : CachedSelector) : SelectorStore :=
  { s with cache := Function.update s.cache key (some payload) }

/-- Redis drops a key. -/
def evict (s : SelectorStore) (key : String) : SelectorStore :=
  { s with cache := Function.update s.cache key none }

/-- The row loses its active flag if it is the one named. -/
def deactivate (previous : Option SelectorModel) (r : SelectorModel) : SelectorModel :=
  if previous.any (·.id == r.id) then { r with isActive := false } else r

def commit (s : SelectorStore) (write : SelectorWrite) : SelectorStore :=
  { s with rows := s.rows.map (deactivate write.previous) ++
      [write.newModel (s.rows.length + 1)] }

end SelectorStore

/-- What a command answers and does. A flush shows nothing to other sessions. -/
def storeStep : (op : SelectorPort.Op) → SelectorStore →
    Except PyError (SelectorPort.Ans op) × SelectorStore
  | .redisGet key, s => (.ok (s.cache key), s)
  | .redisSet key payload, s => (.ok (), s.setCache key payload)
  | .selectActive domain fieldName, s => (.ok (s.activeRows domain fieldName), s)
  | .flush _, s => (.ok (), s)
  | .commit write, s => (.ok (s.rows.length + 1), s.commit write)

section Exec

variable {s : SelectorStore} {domain fieldName : String} {selector : Selector}

theorem exec_getFromCache :
    (getFromCache domain fieldName).exec storeStep s =
      (.ok ((s.cache (cacheKey domain fieldName)).map (·.toSelector domain fieldName)), s) := rfl

theorem exec_getFromPostgres :
    (getFromPostgres domain fieldName).exec storeStep s =
      ((scalarOneOrNone (s.activeRows domain fieldName)).map (·.map modelToSelector), s) := by
  unfold getFromPostgres
  rw [Prog.exec_bind, Prog.exec_perform]
  show Prog.exec storeStep (Prog.lift _ >>= _) s = _
  cases scalarOneOrNone (s.activeRows domain fieldName) <;> rfl

theorem exec_writeToCache :
    (writeToCache selector).exec storeStep s =
      (.ok (), s.setCache (cacheKey selector.domain selector.fieldName) selector.payload) := rfl

theorem exec_getActiveSelector_hit {payload : CachedSelector}
    (h : s.cache (cacheKey domain fieldName) = some payload) :
    (getActiveSelector domain fieldName).exec storeStep s =
      (.ok (some (payload.toSelector domain fieldName)), s) := by
  unfold getActiveSelector
  rw [Prog.exec_bind, exec_getFromCache, h]
  rfl

theorem exec_getActiveSelector_miss (h : s.cache (cacheKey domain fieldName) = none) :
    (getActiveSelector domain fieldName).exec storeStep s =
      match scalarOneOrNone (s.activeRows domain fieldName) with
      | .ok none => (.ok none, s)
      | .ok (some m) => (.ok (some (modelToSelector m)),
          s.setCache (cacheKey m.domain m.fieldName) (modelToSelector m).payload)
      | .error e => (.error e, s) := by
  unfold getActiveSelector
  rw [Prog.exec_bind, exec_getFromCache, h]
  show Prog.exec storeStep (getFromPostgres domain fieldName >>= _) s = _
  rw [Prog.exec_bind, exec_getFromPostgres]
  rcases scalarOneOrNone (s.activeRows domain fieldName) with e | (_ | m) <;> rfl

theorem exec_saveToPostgres :
    (saveToPostgres selector).exec storeStep s =
      match scalarOneOrNone (s.activeRows selector.domain selector.fieldName) with
      | .ok previous =>
        (.ok { selector with version := SelectorWrite.nextVersion ⟨previous, selector⟩ },
          s.commit ⟨previous, selector⟩)
      | .error e => (.error e, s) := by
  unfold saveToPostgres
  rw [Prog.exec_bind, Prog.exec_perform]
  show Prog.exec storeStep (Prog.lift _ >>= _) s = _
  cases scalarOneOrNone (s.activeRows selector.domain selector.fieldName) with
  | error e => rfl
  | ok previous =>
    simp only [Prog.lift_ok, Prog.ret_bind]
    rw [Prog.exec_bind, Prog.exec_perform]
    show Prog.exec storeStep (SelectorPort.commit _ >>= _) s = _
    rw [Prog.exec_bind, Prog.exec_perform]
    show (Except.ok (modelToSelector (SelectorWrite.newModel _ _)), _) = _
    rw [SelectorWrite.modelToSelector_newModel]

theorem exec_saveSelector :
    (saveSelector selector).exec storeStep s =
      match scalarOneOrNone (s.activeRows selector.domain selector.fieldName) with
      | .ok previous => (.ok (), (s.commit ⟨previous, selector⟩).setCache
          (cacheKey selector.domain selector.fieldName)
          { selector with version := SelectorWrite.nextVersion ⟨previous, selector⟩ }.payload)
      | .error e => (.error e, s) := by
  unfold saveSelector
  rw [Prog.exec_bind, exec_saveToPostgres]
  cases scalarOneOrNone (s.activeRows selector.domain selector.fieldName) with
  | error e => rfl
  | ok previous => exact exec_writeToCache

end Exec

end Sentinel
