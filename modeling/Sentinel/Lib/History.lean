import Mathlib.Data.List.GetD
import Mathlib.Logic.Function.Basic

/-!
# Versioned histories

What a store with versions is for: to every key belongs the list of the values it has been given,
in order. The current value is the last one, and its version is the length of the list.

* `History.record` — one more value for a key
* `History.recordAll` — a list of entries, with the values of each key read off
-/

namespace Lib

abbrev History (κ ν : Type) := κ → List ν

namespace History

variable {κ ν : Type}

def empty : History κ ν := fun _ => []

def version (H : History κ ν) (k : κ) : Nat := (H k).length

def current (H : History κ ν) (k : κ) : Option ν := (H k).getLast?

@[simp] theorem empty_apply (k : κ) : (empty : History κ ν) k = [] := rfl

theorem current_eq_none {H : History κ ν} {k : κ} : H.current k = none ↔ H k = [] :=
  List.getLast?_eq_none_iff

variable [DecidableEq κ]

/-- Give `k` the value `v`. -/
def record (H : History κ ν) (k : κ) (v : ν) : History κ ν := Function.update H k (H k ++ [v])

@[simp] theorem record_self (H : History κ ν) (k : κ) (v : ν) : H.record k v k = H k ++ [v] :=
  Function.update_self k _ H

theorem record_of_ne (H : History κ ν) {k k' : κ} (v : ν) (h : k' ≠ k) :
    H.record k v k' = H k' :=
  Function.update_of_ne h _ H

@[simp] theorem current_record_self (H : History κ ν) (k : κ) (v : ν) :
    (H.record k v).current k = some v := by
  simp [current]

theorem current_record_of_ne (H : History κ ν) {k k' : κ} (v : ν) (h : k' ≠ k) :
    (H.record k v).current k' = H.current k' := by
  rw [current, record_of_ne _ _ h, current]

@[simp] theorem version_record_self (H : History κ ν) (k : κ) (v : ν) :
    (H.record k v).version k = H.version k + 1 := by
  simp [version]

/-! ## a list of entries -/

/-- Record the entries one after another. -/
def recordAll (H : History κ ν) (l : List (κ × ν)) : History κ ν :=
  l.foldl (fun H x => H.record x.1 x.2) H

@[simp] theorem recordAll_nil (H : History κ ν) : H.recordAll [] = H := rfl

@[simp] theorem recordAll_cons (H : History κ ν) (x : κ × ν) (l : List (κ × ν)) :
    H.recordAll (x :: l) = (H.record x.1 x.2).recordAll l := rfl

theorem recordAll_concat (H : History κ ν) (l : List (κ × ν)) (x : κ × ν) :
    H.recordAll (l ++ [x]) = (H.recordAll l).record x.1 x.2 := by
  simp [recordAll]

theorem recordAll_of_not_mem (H : History κ ν) {l : List (κ × ν)} {k : κ}
    (h : k ∉ l.map Prod.fst) : H.recordAll l k = H k := by
  induction l generalizing H with
  | nil => rfl
  | cons x l ih =>
    obtain ⟨hx, hl⟩ : k ≠ x.1 ∧ k ∉ l.map Prod.fst := by simpa using h
    rw [recordAll_cons, ih _ hl, record_of_ne _ _ hx]

/-- An entry whose key occurs once is the last value of its key. -/
theorem recordAll_of_mem (H : History κ ν) {l : List (κ × ν)} (hl : (l.map Prod.fst).Nodup)
    {k : κ} {v : ν} (h : (k, v) ∈ l) : H.recordAll l k = H k ++ [v] := by
  induction l generalizing H with
  | nil => cases h
  | cons x l ih =>
    obtain ⟨hx, hl⟩ := List.nodup_cons.mp hl
    rw [recordAll_cons]
    rcases List.mem_cons.mp h with rfl | h
    · -- the later entries have other keys
      rw [recordAll_of_not_mem _ hx, record_self]
    · have hk : k ≠ x.1 := fun he => hx (he ▸ List.mem_map_of_mem h)
      rw [ih _ hl h, record_of_ne _ _ hk]

end History

end Lib
