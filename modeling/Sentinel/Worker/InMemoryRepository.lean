import Mathlib.Data.List.Induction
import Sentinel.Worker.SelectorHistory

/-!
# The selector repository of the tests

A dictionary in place of the two stores. It counts versions from the first selector it is given,
the stores count them from 1.

* `InMemorySelectorRepository` — the test double
* `exec_memory` — what it holds after any calls
* `interchangeable_iff` — it answers like the stores exactly if the first selector saved for a
  pair has version 1, as far as the pair is looked up afterwards
-/

namespace Sentinel

open Lib

namespace InMemorySelectorRepository

/-- `self._selectors`. -/
abbrev Selectors := Dict (String × String) Selector

def getActiveSelector (selectors : Selectors) (domain fieldName : String) : Option Selector :=
  selectors.get? (domain, fieldName)

def saveSelector (selectors : Selectors) (selector : Selector) : Selectors :=
  let key := (selector.domain, selector.fieldName)
  let nextVersion := match selectors.get? key with
    | some previous => previous.version + 1
    | none => selector.version
  selectors.set key
    { domain := selector.domain, fieldName := selector.fieldName
      selectorValue := selector.selectorValue, source := selector.source, version := nextVersion }

end InMemorySelectorRepository

/-- The calls of `SelectorPort`, answered by the dictionary. There is nothing to evict. -/
def memoryStep : SelectorCall → InMemorySelectorRepository.Selectors →
    Except PyError (Option Selector) × InMemorySelectorRepository.Selectors
  | .get domain fieldName, selectors =>
    (.ok (InMemorySelectorRepository.getActiveSelector selectors domain fieldName), selectors)
  | .save selector, selectors =>
    (.ok none, InMemorySelectorRepository.saveSelector selectors selector)
  | .evict _, selectors => (.ok none, selectors)

/-- The answers of the test double to a list of calls, from an empty dictionary. -/
abbrev memoryAnswers (calls : List SelectorCall) : List (Except PyError (Option Selector)) :=
  (replay memoryStep calls Dict.empty).1

/-- The answers of the two stores, from empty ones. -/
abbrev storeAnswers (calls : List SelectorCall) : List (Except PyError (Option Selector)) :=
  (replay callStep calls SelectorStore.empty).1

/-- The selectors saved for a pair, in order and as they were passed. -/
def savesOf (calls : List SelectorCall) (domain fieldName : String) : List Selector :=
  calls.filterMap fun
    | .save selector =>
      if selector.domain = domain ∧ selector.fieldName = fieldName then some selector else none
    | _ => none

/-- The last selector of the list, when the first one has version `first`. -/
def numberedFrom (first : Int) (l : List Selector) : Option Selector :=
  l.getLast?.map fun selector => { selector with version := first + l.length - 1 }

section Saves

variable {calls : List SelectorCall} {domain fieldName : String}

theorem savesOf_append (calls calls' : List SelectorCall) (domain fieldName : String) :
    savesOf (calls ++ calls') domain fieldName =
      savesOf calls domain fieldName ++ savesOf calls' domain fieldName :=
  List.filterMap_append

theorem savesOf_save (selector : Selector) : savesOf [.save selector] domain fieldName =
    if selector.domain = domain ∧ selector.fieldName = fieldName then [selector] else [] := by
  by_cases hp : selector.domain = domain ∧ selector.fieldName = fieldName
  · simp [savesOf, hp]
  · simp only [savesOf, List.filterMap_cons, if_neg hp, List.filterMap_nil]

theorem mem_savesOf {selector : Selector} (h : selector ∈ savesOf calls domain fieldName) :
    selector.domain = domain ∧ selector.fieldName = fieldName := by
  obtain ⟨c, -, hc⟩ := List.mem_filterMap.mp h
  cases c with
  | save selector' =>
    dsimp only at hc
    split at hc
    · next hp =>
      cases hc
      exact hp
    · cases hc
  | get d f => cases hc
  | evict key => cases hc

/-- With a next selector the number goes up by one. -/
theorem numberedFrom_concat (first : Int) (l : List Selector) (selector : Selector) :
    numberedFrom first (l ++ [selector]) = some { selector with version := first + l.length } := by
  have hlen : first + ((l.length + 1 : Nat) : Int) - 1 = first + l.length := by omega
  simp only [numberedFrom, List.getLast?_concat, Option.map_some, List.length_append,
    List.length_singleton, hlen]

theorem numberedFrom_eq_iff {first : Int} {l : List Selector} (hl : l ≠ []) :
    numberedFrom first l = numberedFrom 1 l ↔ first = 1 := by
  obtain ⟨l, selector, rfl⟩ := (List.eq_nil_or_concat l).resolve_left hl
  rw [List.concat_eq_append, numberedFrom_concat, numberedFrom_concat, Option.some.injEq,
    Selector.mk.injEq]
  constructor
  · rintro ⟨-, -, -, -, h⟩
    omega
  · rintro rfl
    simp

/-- What the history answers is numbered from 1. -/
theorem lastSaved_eq (calls : List SelectorCall) (domain fieldName : String) :
    lastSaved calls domain fieldName = numberedFrom 1 (savesOf calls domain fieldName) := by
  have hsaved : saved calls domain fieldName = (savesOf calls domain fieldName).map fun selector =>
      (selector.selectorValue, selector.source) := by
    unfold saved savesOf
    rw [List.map_filterMap]
    refine List.filterMap_congr fun c _ => ?_
    cases c with
    | save selector => dsimp only; split <;> rfl
    | get d f => rfl
    | evict key => rfl
  unfold lastSaved numberedFrom
  rw [hsaved, List.getLast?_map, List.length_map, Option.map_map]
  refine Option.map_congr fun selector hlast => ?_
  obtain ⟨rfl, rfl⟩ := mem_savesOf (List.mem_of_getLast? hlast)
  have hlen : (1 : Int) + (savesOf calls selector.domain selector.fieldName).length - 1 =
      (savesOf calls selector.domain selector.fieldName).length := by omega
  simp only [Function.comp, hlen]

/-- **What the test double holds**: the last selector of each pair, numbered from the version that
the first one was passed with. -/
theorem exec_memory (calls : List SelectorCall) (domain fieldName : String) :
    (replay memoryStep calls Dict.empty).2.get? (domain, fieldName) =
      (savesOf calls domain fieldName).head?.bind fun first =>
        numberedFrom first.version (savesOf calls domain fieldName) := by
  induction calls using List.reverseRecOn with
  | nil => rfl
  | append_singleton calls c ih =>
    rw [replay_append, savesOf_append]
    cases c with
    | get d f =>
      rw [show savesOf [.get d f] domain fieldName = [] from rfl, List.append_nil]
      exact ih
    | evict key =>
      rw [show savesOf [.evict key] domain fieldName = [] from rfl, List.append_nil]
      exact ih
    | save selector =>
      show (InMemorySelectorRepository.saveSelector _ selector).get? _ = _
      unfold InMemorySelectorRepository.saveSelector
      rw [Dict.get?_set, savesOf_save]
      by_cases hp : selector.domain = domain ∧ selector.fieldName = fieldName
      · obtain ⟨rfl, rfl⟩ := hp
        rw [if_pos rfl, if_pos ⟨rfl, rfl⟩, ih]
        cases hl : savesOf calls selector.domain selector.fieldName with
        | nil => simp [numberedFrom]
        | cons first l =>
          show _ = numberedFrom first.version (first :: l ++ [selector])
          rw [numberedFrom_concat, List.head?_cons, Option.bind_some]
          -- the entry so far is the last selector, so its number is the length of the list
          obtain ⟨l', last, hlast⟩ :=
            (List.eq_nil_or_concat (first :: l)).resolve_left (List.cons_ne_nil _ _)
          have hnext : first.version + ((l'.length + 1 : Nat) : Int) =
              first.version + l'.length + 1 := by omega
          rw [hlast, List.concat_eq_append, numberedFrom_concat, List.length_append,
            List.length_singleton, hnext]
      · have hne : (domain, fieldName) ≠ (selector.domain, selector.fieldName) := fun he => by
          cases he
          exact hp ⟨rfl, rfl⟩
        rw [if_neg hne, if_neg hp, List.append_nil]
        exact ih

end Saves

/-! ## in place of the stores -/

/-- The call with the default in the version field. -/
def SelectorCall.unversioned : SelectorCall → SelectorCall
  | .save selector => .save { selector with version := 1 }
  | c => c

/-- Both repositories give the same answers, and neither looks at the versions it is passed. -/
structure Interchangeable (calls : List SelectorCall) : Prop where
  answers : memoryAnswers calls = storeAnswers calls
  memoryIgnores : memoryAnswers (calls.map .unversioned) = memoryAnswers calls
  storeIgnores : storeAnswers (calls.map .unversioned) = storeAnswers calls

/-- Where a pair is looked up after a save, the first selector saved for it has version 1. -/
def FirstVersionsOne (calls : List SelectorCall) : Prop :=
  ∀ pre domain fieldName post, calls = pre ++ .get domain fieldName :: post →
    ∀ selector, (savesOf pre domain fieldName).head? = some selector → selector.version = 1

section Answers

variable {P : Set (String × String)} {calls : List SelectorCall} {domain fieldName : String}

/-- Two repositories of selectors are told apart by lookups only. -/
theorem answers_eq_iff (hP : KeysDistinct P)
    (hcalls : ∀ c ∈ calls, ∀ p, c.pair = some p → p ∈ P) :
    memoryAnswers calls = storeAnswers calls ↔ FirstVersionsOne calls := by
  unfold memoryAnswers storeAnswers
  rw [(replay_refines hP hcalls).1, replay_answers_eq_iff]
  have hget : ∀ (pre : List SelectorCall) (d f : String),
      (memoryStep (.get d f) (replay memoryStep pre Dict.empty).2).1 =
          (historyStep (.get d f) (replay historyStep pre History.empty).2).1 ↔
        ∀ selector, (savesOf pre d f).head? = some selector → selector.version = 1 := by
    intro pre d f
    show Except.ok ((replay memoryStep pre Dict.empty).2.get? (d, f)) = Except.ok _ ↔ _
    rw [exec_memory, active_eq_lastSaved, lastSaved_eq, Except.ok.injEq]
    cases hl : savesOf pre d f with
    | nil => simp [numberedFrom]
    | cons first l =>
      rw [List.head?_cons, Option.bind_some, numberedFrom_eq_iff (List.cons_ne_nil _ _)]
      simp
  constructor
  · intro h pre d f post heq
    exact (hget pre d f).mp (h pre _ post heq)
  · intro h pre c post heq
    cases c with
    | get d f => exact (hget pre d f).mpr (h pre d f post heq)
    | save selector => rfl
    | evict key => rfl

@[simp] theorem unversioned_pair (c : SelectorCall) : c.unversioned.pair = c.pair := by
  cases c <;> rfl

theorem unversioned_pairs (hcalls : ∀ c ∈ calls, ∀ p, c.pair = some p → p ∈ P) :
    ∀ c ∈ calls.map SelectorCall.unversioned, ∀ p, c.pair = some p → p ∈ P := by
  intro c hc p hp
  obtain ⟨c', hc', rfl⟩ := List.mem_map.mp hc
  exact hcalls c' hc' p (by rwa [unversioned_pair] at hp)

/-- The history does not know the versions that were passed. -/
theorem historyAnswers_unversioned (calls : List SelectorCall) (H : SelectorHistory) :
    (replay historyStep (calls.map .unversioned) H).1 = (replay historyStep calls H).1 := by
  induction calls generalizing H with
  | nil => rfl
  | cons c calls ih =>
    have hstep : historyStep c.unversioned H = historyStep c H := by cases c <;> rfl
    rw [List.map_cons, replay_cons, replay_cons, hstep, ih]

theorem storeAnswers_unversioned (hP : KeysDistinct P)
    (hcalls : ∀ c ∈ calls, ∀ p, c.pair = some p → p ∈ P) :
    storeAnswers (calls.map .unversioned) = storeAnswers calls := by
  unfold storeAnswers
  rw [(replay_refines hP (unversioned_pairs hcalls)).1, (replay_refines hP hcalls).1,
    historyAnswers_unversioned]

/-- With the default everywhere every first version is 1. -/
theorem firstVersionsOne_unversioned (calls : List SelectorCall) :
    FirstVersionsOne (calls.map .unversioned) := by
  intro pre d f post heq selector hfirst
  obtain ⟨c, hc, hselector⟩ := List.mem_filterMap.mp (List.mem_of_mem_head? hfirst)
  have hmem : c ∈ calls.map SelectorCall.unversioned := by
    rw [heq]
    exact List.mem_append_left _ hc
  obtain ⟨c', -, rfl⟩ := List.mem_map.mp hmem
  cases c' with
  | save selector' =>
    dsimp only [SelectorCall.unversioned] at hselector
    split at hselector
    · cases hselector
      rfl
    · cases hselector
  | get d f => cases hselector
  | evict key => cases hselector

/--
**When the test double stands for the stores.** On pairs with distinct cache keys the two answer
alike, and do not look at the versions they are passed, exactly if every pair that is looked up
after a save had its first selector saved with version 1.
-/
theorem interchangeable_iff (hP : KeysDistinct P)
    (hcalls : ∀ c ∈ calls, ∀ p, c.pair = some p → p ∈ P) :
    Interchangeable calls ↔ FirstVersionsOne calls := by
  refine ⟨fun h => (answers_eq_iff hP hcalls).mp h.answers, fun h => ?_⟩
  have hequal := (answers_eq_iff hP hcalls).mpr h
  have hstore := storeAnswers_unversioned hP hcalls
  have hmemory := (answers_eq_iff hP (unversioned_pairs hcalls)).mpr
    (firstVersionsOne_unversioned calls)
  exact ⟨hequal, by rw [hmemory, hstore, hequal], hstore⟩

end Answers

/-- A save with version `version` and a lookup of the same field. -/
def savedOnce (version : Int) : List SelectorCall :=
  [.save ⟨"shop.test", "title", "h1", .manual, version⟩, .get "shop.test" "title"]

theorem savedOnce_pairs (version : Int) : ∀ c ∈ savedOnce version, ∀ p, c.pair = some p →
    p ∈ {p : String × String | p.1 = "shop.test"} := by
  simp [savedOnce, SelectorCall.pair]

/-- With the default the two agree. -/
theorem interchangeable_savedOnce : Interchangeable (savedOnce 1) := by
  refine (interchangeable_iff (keysDistinct_domain _) (savedOnce_pairs 1)).mpr ?_
  exact firstVersionsOne_unversioned (savedOnce 1)

/-- The test double answers with version 5, the stores with version 1. -/
theorem not_interchangeable_savedOnce :
    memoryAnswers (savedOnce 5) =
        [.ok none, .ok (some ⟨"shop.test", "title", "h1", .manual, 5⟩)] ∧
      storeAnswers (savedOnce 5) =
        [.ok none, .ok (some ⟨"shop.test", "title", "h1", .manual, 1⟩)] ∧
      ¬Interchangeable (savedOnce 5) := by
  have hmemory : memoryAnswers (savedOnce 5) =
      [.ok none, .ok (some ⟨"shop.test", "title", "h1", .manual, 5⟩)] := by decide
  have hstore : storeAnswers (savedOnce 5) =
      [.ok none, .ok (some ⟨"shop.test", "title", "h1", .manual, 1⟩)] := by decide
  refine ⟨hmemory, hstore, fun h => ?_⟩
  have hequal := h.answers
  rw [hmemory, hstore] at hequal
  exact absurd hequal (by decide)

end Sentinel
