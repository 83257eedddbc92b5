import Mathlib.Data.List.Nodup
import Sentinel.Worker.SelectorRepository

/-!
# The table `selectors`

What the commit of a save does to the rows of its own pair and to those of the others.

* `SelectorStore.IdsDistinct` — rows are told apart by their ids; every commit keeps this
* `SelectorStore.rowsOf_commit_of_ne` — a commit concerns the rows of its own pair
-/

namespace Sentinel

open Lib

/-- A row without its id. -/
def SelectorModel.content (r : SelectorModel) : SelectorModel := { r with id := 0 }

def SelectorModel.inactive (r : SelectorModel) : SelectorModel := { r with isActive := false }

namespace SelectorStore

variable {s : SelectorStore} {domain fieldName : String}

def rowsOf (s : SelectorStore) (domain fieldName : String) : List SelectorModel :=
  s.rows.filter fun r => r.domain == domain && r.fieldName == fieldName

theorem mem_rowsOf {r : SelectorModel} :
    r ∈ s.rowsOf domain fieldName ↔ r ∈ s.rows ∧ r.domain = domain ∧ r.fieldName = fieldName := by
  simp [rowsOf]

theorem activeRows_eq (s : SelectorStore) (domain fieldName : String) :
    s.activeRows domain fieldName = (s.rowsOf domain fieldName).filter (·.isActive) := by
  simp [activeRows, rowsOf, List.filter_filter, Bool.and_comm]

/-- The ids are the positions in the table, counted from 1. -/
def IdsDistinct (s : SelectorStore) : Prop := s.rows.map (·.id) = List.range' 1 s.rows.length

theorem IdsDistinct.inj (h : s.IdsDistinct) {r r' : SelectorModel} (hr : r ∈ s.rows)
    (hr' : r' ∈ s.rows) (hid : r.id = r'.id) : r = r' := by
  have hnd : (s.rows.map (·.id)).Nodup := by
    rw [show s.rows.map (·.id) = _ from h]
    exact List.nodup_range'
  exact List.inj_on_of_nodup_map hnd hr hr' hid

theorem IdsDistinct.of_rows (h : s.IdsDistinct) {s' : SelectorStore} (hrows : s'.rows = s.rows) :
    s'.IdsDistinct := by
  unfold IdsDistinct
  rw [hrows]
  exact h

theorem IdsDistinct.commit (h : s.IdsDistinct) (write : SelectorWrite) :
    (s.commit write).IdsDistinct := by
  have hid : (fun r : SelectorModel => r.id) ∘ deactivate write.previous = fun r => r.id := by
    funext r
    simp only [Function.comp, deactivate]
    split <;> rfl
  unfold IdsDistinct at h ⊢
  simp only [SelectorStore.commit, List.map_append, List.map_map, hid, h, List.length_append,
    List.length_map, List.length_singleton, List.range'_1_concat]
  simp [SelectorWrite.newModel, Nat.add_comm]

theorem activeRows_eq_toList {previous : Option SelectorModel}
    (hprev : scalarOneOrNone (s.activeRows domain fieldName) = .ok previous) :
    s.activeRows domain fieldName = previous.toList := by
  rcases hr : s.activeRows domain fieldName with _ | ⟨m, _ | ⟨m', l⟩⟩
  · rw [hr] at hprev; cases hprev; rfl
  · rw [hr] at hprev; cases hprev; rfl
  · rw [hr] at hprev; cases hprev

theorem mem_rowsOf_of_previous {previous : Option SelectorModel}
    (hprev : scalarOneOrNone (s.activeRows domain fieldName) = .ok previous) {p : SelectorModel}
    (hp : previous = some p) : p ∈ s.rowsOf domain fieldName := by
  have hmem : p ∈ s.activeRows domain fieldName := by
    rw [activeRows_eq_toList hprev, hp]
    simp
  rw [activeRows_eq] at hmem
  exact (List.mem_filter.mp hmem).1

theorem IdsDistinct.deactivate_eq (h : s.IdsDistinct) {previous : Option SelectorModel}
    (hmem : ∀ p, previous = some p → p ∈ s.rows) {r : SelectorModel} (hr : r ∈ s.rows) :
    deactivate previous r = if previous = some r then r.inactive else r := by
  cases previous with
  | none => simp [deactivate]
  | some p =>
    by_cases hid : p.id = r.id
    · have hpr : p = r := h.inj (hmem p rfl) hr hid
      simp [deactivate, hpr, SelectorModel.inactive]
    · have hpr : p ≠ r := fun he => hid (by rw [he])
      simp [deactivate, hid, hpr]

theorem rowsOf_commit (write : SelectorWrite) (domain fieldName : String) :
    (s.commit write).rowsOf domain fieldName =
      (s.rowsOf domain fieldName).map (deactivate write.previous) ++
        if (write.selector.domain, write.selector.fieldName) = (domain, fieldName) then
          [write.newModel (s.rows.length + 1)] else [] := by
  have hpair : (fun r : SelectorModel => r.domain == domain && r.fieldName == fieldName) ∘
      deactivate write.previous =
        fun r => r.domain == domain && r.fieldName == fieldName := by
    funext r
    simp only [Function.comp, deactivate]
    split <;> rfl
  unfold rowsOf commit
  rw [List.filter_append, List.filter_map, hpair]
  congr 1
  by_cases hp : write.selector.domain = domain ∧ write.selector.fieldName = fieldName
  · simp [SelectorWrite.newModel, hp]
  · have hne : ¬(write.selector.domain, write.selector.fieldName) = (domain, fieldName) := by
      simpa using hp
    rw [if_neg hne]
    simpa [SelectorWrite.newModel] using hp

/-- What a save commits concerns the rows of its own pair. -/
theorem rowsOf_commit_of_ne (h : s.IdsDistinct) {previous : Option SelectorModel}
    {selector : Selector}
    (hprev : scalarOneOrNone (s.activeRows selector.domain selector.fieldName) = .ok previous)
    (hne : (selector.domain, selector.fieldName) ≠ (domain, fieldName)) :
    (s.commit ⟨previous, selector⟩).rowsOf domain fieldName = s.rowsOf domain fieldName := by
  have hmem : ∀ p, previous = some p → p ∈ s.rowsOf selector.domain selector.fieldName :=
    fun p hp => mem_rowsOf_of_previous hprev hp
  rw [rowsOf_commit, if_neg hne, List.append_nil]
  refine (List.map_congr_left fun r hr => ?_).trans (List.map_id _)
  have hpr : previous ≠ some r := fun he => by
    obtain ⟨-, hd, hf⟩ := mem_rowsOf.mp (hmem r he)
    obtain ⟨-, hd', hf'⟩ := mem_rowsOf.mp hr
    exact hne (by rw [← hd, ← hf, hd', hf'])
  rw [h.deactivate_eq (fun p hp => (mem_rowsOf.mp (hmem p hp)).1) (mem_rowsOf.mp hr).1, if_neg hpr]
  rfl

end SelectorStore

end Sentinel
