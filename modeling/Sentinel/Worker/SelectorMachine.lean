import Sentinel.Lib.Machine
import Sentinel.Worker.SelectorTable

/-!
# Concurrent use of the selector repository

Any number of lookups and saves over one Postgres and one Redis. Each runs in a session of its
own, so a process is one call of the repository, and between two commands of one call the others
may run. Redis may drop an entry at any moment.

* `selectorMachine` — the machine
* `Reachable` — the states of both stores that any such run can lead to
-/

namespace Sentinel

open Lib

inductive SelectorRole
  | reader (n : Nat)
  | writer (n : Nat)
deriving DecidableEq, Repr

/-- Which pairs are used, and whether a process may die between two commands. -/
structure SelectorSetting where
  pair : String → String → Prop
  crashes : Prop

/-- The calls a process may make, by its role. -/
inductive SelectorSpawn (X : SelectorSetting) : SelectorRole → SelectorProg Unit → Prop
  | reader (n : Nat) {domain fieldName : String} :
      X.pair domain fieldName →
      SelectorSpawn X (.reader n) (getActiveSelector domain fieldName >>= fun _ => pure ())
  | writer (n : Nat) {selector : Selector} :
      X.pair selector.domain selector.fieldName →
        SelectorSpawn X (.writer n) (saveSelector selector)

def selectorMachine (X : SelectorSetting) :
    Machine SelectorPort PyError SelectorRole SelectorStore where
  sem := fun _ op s r s' => storeStep op s = (r, s')
  spawn := fun _ i p => SelectorSpawn X i p
  env := fun s s' => ∃ key, s' = s.evict key
  crashes := X.crashes

abbrev SelectorPool := Pool SelectorPort PyError SelectorRole SelectorStore

abbrev SelectorGuard := Machine.Guard SelectorPort PyError SelectorRole SelectorStore

/-- Both stores are empty and nothing runs. -/
def selectorInitial : SelectorPool := Pool.initial SelectorStore.empty

/-- Every pair, and processes that may die. -/
def anySelectorUse : SelectorSetting := ⟨fun _ _ => True, True⟩

def Reachable (s : SelectorStore) : Prop :=
  ∃ c, (selectorMachine anySelectorUse).Steps Machine.anyStep selectorInitial c ∧ c.state = s

theorem reachable_empty : Reachable SelectorStore.empty :=
  ⟨selectorInitial, Relation.ReflTransGen.refl, rfl⟩

/-! ## what a command does to the table -/

/-- Only a commit changes the rows. -/
theorem storeStep_rows (op : SelectorOp) (s : SelectorStore) :
    (storeStep op s).2.rows = s.rows ∨
      ∃ write, op = .commit write ∧ (storeStep op s).2 = s.commit write := by
  cases op with
  | commit write => exact Or.inr ⟨write, rfl, rfl⟩
  | redisGet key => exact Or.inl rfl
  | redisSet key payload => exact Or.inl rfl
  | selectActive domain fieldName => exact Or.inl rfl
  | flush write => exact Or.inl rfl

/-- A property of the rows that commits keep holds throughout a run. -/
theorem rows_induct {X : SelectorSetting} {g : SelectorGuard} {P : SelectorStore → Prop}
    (hrows : ∀ s s', s'.rows = s.rows → P s → P s')
    (hcommit : ∀ c i write r s' procs', P c.state →
      g c (.call i (.commit write) r) ⟨s', procs'⟩ → P (c.state.commit write))
    {c c' : SelectorPool} (h : (selectorMachine X).Steps g c c') (h0 : P c.state) :
    P c'.state := by
  refine h.induct (P := fun c => P c.state) h0 ?_
  intro c₁ l c₂ _ hP hf hg
  cases hf with
  | spawn => exact hP
  | crash => exact hP
  | env henv =>
    obtain ⟨key, rfl⟩ := henv
    exact hrows c₁.state _ rfl hP
  | @call i op k r s' hi hsem =>
    change storeStep op c₁.state = (r, s') at hsem
    have hs' : s' = (storeStep op c₁.state).2 := by rw [hsem]
    rcases storeStep_rows op c₁.state with hr | ⟨write, rfl, hw⟩
    · exact hrows c₁.state _ (by rw [hs']; exact hr) hP
    · rw [hs', hw]
      exact hcommit c₁ i write r _ _ hP hg

theorem Reachable.idsDistinct {s : SelectorStore} (h : Reachable s) : s.IdsDistinct := by
  obtain ⟨c, hrun, rfl⟩ := h
  exact rows_induct (P := SelectorStore.IdsDistinct) (fun _ _ hr h => h.of_rows hr)
    (fun _ _ write _ _ _ h _ => h.commit write) hrun rfl

end Sentinel
