import Mathlib.Data.List.Nodup
import Mathlib.Tactic.Tauto

/-!
# Insertion-ordered dictionaries

A finite map that remembers the order in which its keys first arrived. The keys are kept
distinct by a field, so every dictionary that can be written down is a real one and no lemma
has to assume it.

* `Dict.set` — overwrite in place, or append at the end when the key is new
* `Dict.fromKeys` — one entry for each key, the first occurrence deciding the position
* `Dict.Same` — equality as maps, blind to the order

The lookup lemmas (`get?_set`, `get?_fromKeys`) and the key lemmas are all a client needs;
`set` is not unfolded outside this file.
-/

namespace Lib

/-- A dictionary with its entries in insertion order. -/
structure Dict (κ ν : Type) where
  entries : List (κ × ν)
  nodup : (entries.map Prod.fst).Nodup

namespace Dict

variable {κ ν : Type}

def empty : Dict κ ν := ⟨[], List.nodup_nil⟩

def keys (d : Dict κ ν) : List κ := d.entries.map Prod.fst

@[simp] theorem keys_empty : (empty : Dict κ ν).keys = [] := rfl

theorem mem_keys_iff {d : Dict κ ν} {k : κ} : k ∈ d.keys ↔ ∃ v, (k, v) ∈ d.entries := by
  simp [keys]

theorem ext_entries {d e : Dict κ ν} (h : d.entries = e.entries) : d = e := by
  cases d
  cases e
  cases h
  rfl

theorem eq_empty_iff {d : Dict κ ν} : d = empty ↔ d.entries = [] :=
  ⟨fun h => by rw [h]; rfl, fun h => ext_entries h⟩

section Lookup

variable [DecidableEq κ]

def get? (d : Dict κ ν) (k : κ) : Option ν := d.entries.lookup k

theorem map_overwrite_fst (k : κ) (v : ν) (l : List (κ × ν)) :
    (l.map fun e => if e.1 = k then (k, v) else e).map Prod.fst = l.map Prod.fst := by
  rw [List.map_map]
  refine List.map_congr_left fun e _ => ?_
  by_cases h : e.1 = k <;> simp [h]

/-- `d[k] = v`. -/
def set (d : Dict κ ν) (k : κ) (v : ν) : Dict κ ν :=
  if h : k ∈ d.entries.map Prod.fst then
    { entries := d.entries.map fun e => if e.1 = k then (k, v) else e
      nodup := by rw [map_overwrite_fst]; exact d.nodup }
  else
    { entries := d.entries ++ [(k, v)]
      nodup := by
        rw [List.map_append, List.nodup_append]
        refine ⟨d.nodup, by simp, ?_⟩
        rintro a ha b hb rfl
        simp only [List.map_cons, List.map_nil, List.mem_singleton] at hb
        exact h (hb ▸ ha) }

/-- The dictionary of a list of pairs, later pairs overwriting earlier ones. -/
def ofList (l : List (κ × ν)) : Dict κ ν := l.foldl (fun d e => d.set e.1 e.2) empty

/-- One entry `(k, v)` for each `k` of the list. -/
def fromKeys (ks : List κ) (v : ν) : Dict κ ν := ks.foldl (fun d k => d.set k v) empty

/-- Every entry of `e` written over `d`. -/
def update (d e : Dict κ ν) : Dict κ ν := e.entries.foldl (fun d x => d.set x.1 x.2) d

/-- The same map, whatever the order of the entries. -/
def Same (d e : Dict κ ν) : Prop := ∀ k, d.get? k = e.get? k

/-! ## lookup -/

@[simp] theorem get?_empty (k : κ) : (empty : Dict κ ν).get? k = none := rfl

theorem lookup_cons_ne {k a : κ} (h : k ≠ a) (b : ν) (l : List (κ × ν)) :
    ((a, b) :: l).lookup k = l.lookup k := by
  rw [List.lookup_cons, beq_false_of_ne h]

theorem lookup_overwrite (k k' : κ) (v : ν) (l : List (κ × ν)) (hk : k ∈ l.map Prod.fst) :
    (l.map fun e => if e.1 = k then (k, v) else e).lookup k'
      = if k' = k then some v else l.lookup k' := by
  induction l with
  | nil => simp at hk
  | cons e l ih =>
    obtain ⟨a, b⟩ := e
    by_cases hak : a = k
    · subst hak
      by_cases hk' : k' = a
      · subst hk'
        simp
      · have hrest : (l.map fun e => if e.1 = a then (a, v) else e).lookup k' = l.lookup k' := by
          by_cases hm : a ∈ l.map Prod.fst
          · rw [ih hm, if_neg hk']
          · congr 1
            refine (List.map_congr_left fun e he => if_neg fun h => hm ?_).trans (List.map_id _)
            exact h ▸ List.mem_map_of_mem he
        rw [List.map_cons, if_pos rfl, lookup_cons_ne hk', lookup_cons_ne hk', hrest, if_neg hk']
    · have hm : k ∈ l.map Prod.fst := by simpa [Ne.symm hak] using hk
      rw [List.map_cons, if_neg hak]
      by_cases hk' : k' = a
      · subst hk'
        rw [List.lookup_cons_self, List.lookup_cons_self, if_neg hak]
      · rw [lookup_cons_ne hk', lookup_cons_ne hk', ih hm]

@[simp] theorem get?_set (d : Dict κ ν) (k k' : κ) (v : ν) :
    (d.set k v).get? k' = if k' = k then some v else d.get? k' := by
  unfold get? set
  split
  · next h => exact lookup_overwrite k k' v d.entries h
  · next h =>
    rw [List.lookup_append]
    by_cases hk' : k' = k
    · have hnone : d.entries.lookup k' = none := by
        rw [List.lookup_eq_none_iff]
        intro e he
        have hne : e.1 ≠ k' := fun hc => h (hk' ▸ hc ▸ List.mem_map_of_mem he)
        simpa using hne.symm
      subst hk'
      simp [hnone]
    · rw [lookup_cons_ne hk', List.lookup_nil, if_neg hk', Option.or_none]

theorem mem_entries_iff {d : Dict κ ν} {k : κ} {v : ν} :
    (k, v) ∈ d.entries ↔ d.get? k = some v := by
  obtain ⟨l, hl⟩ := d
  unfold get?
  simp only
  induction l with
  | nil => simp
  | cons e l ih =>
    obtain ⟨a, b⟩ := e
    simp only [List.map_cons, List.nodup_cons] at hl
    by_cases hka : k = a
    · subst hka
      have hnot : (k, v) ∉ l := fun hm => hl.1 (List.mem_map_of_mem (f := Prod.fst) hm)
      simp [hnot, eq_comm]
    · rw [lookup_cons_ne hka, ← ih hl.2]
      simp [hka]

theorem mem_keys_iff_get? {d : Dict κ ν} {k : κ} : k ∈ d.keys ↔ ∃ v, d.get? k = some v := by
  simp only [mem_keys_iff, mem_entries_iff]

theorem get?_eq_none_iff {d : Dict κ ν} {k : κ} : d.get? k = none ↔ k ∉ d.keys := by
  rw [mem_keys_iff_get?, not_exists]
  cases d.get? k with
  | none => simp
  | some v => simp

theorem mem_keys_set {d : Dict κ ν} {k k' : κ} {v : ν} :
    k' ∈ (d.set k v).keys ↔ k' = k ∨ k' ∈ d.keys := by
  simp only [mem_keys_iff_get?, get?_set]
  by_cases h : k' = k <;> simp [h]

/-! ## folds of `set` -/

theorem get?_foldl_const (ks : List κ) (v : ν) (d : Dict κ ν) (k : κ) :
    (ks.foldl (fun d k => d.set k v) d).get? k = if k ∈ ks then some v else d.get? k := by
  induction ks generalizing d with
  | nil => simp
  | cons a ks ih =>
    rw [List.foldl_cons, ih, get?_set]
    by_cases hk : k ∈ ks
    · simp [hk]
    · by_cases hka : k = a <;> simp [hk, hka]

@[simp] theorem get?_fromKeys (ks : List κ) (v : ν) (k : κ) :
    (fromKeys ks v).get? k = if k ∈ ks then some v else none := by
  simp [fromKeys, get?_foldl_const]

@[simp] theorem mem_keys_fromKeys {ks : List κ} {v : ν} {k : κ} :
    k ∈ (fromKeys ks v).keys ↔ k ∈ ks := by
  rw [mem_keys_iff_get?, get?_fromKeys]
  by_cases h : k ∈ ks <;> simp [h]

theorem get?_foldl_set_of_not_mem {l : List (κ × ν)} {k : κ} (h : k ∉ l.map Prod.fst)
    (d : Dict κ ν) : (l.foldl (fun d x => d.set x.1 x.2) d).get? k = d.get? k := by
  induction l generalizing d with
  | nil => rfl
  | cons e l ih =>
    simp only [List.map_cons, List.mem_cons, not_or] at h
    rw [List.foldl_cons, ih h.2, get?_set, if_neg h.1]

theorem get?_foldl_set {l : List (κ × ν)} (hl : (l.map Prod.fst).Nodup) (d : Dict κ ν) (k : κ) :
    (l.foldl (fun d x => d.set x.1 x.2) d).get? k = (l.lookup k).or (d.get? k) := by
  induction l generalizing d with
  | nil => simp
  | cons e l ih =>
    obtain ⟨a, b⟩ := e
    simp only [List.map_cons, List.nodup_cons] at hl
    rw [List.foldl_cons]
    by_cases hka : k = a
    · subst hka
      rw [get?_foldl_set_of_not_mem hl.1]
      simp
    · rw [ih hl.2, get?_set, if_neg hka, lookup_cons_ne hka]

/-- Writing `e` over `d`: the entry of `e` wins. -/
@[simp] theorem get?_update (d e : Dict κ ν) (k : κ) :
    (d.update e).get? k = (e.get? k).or (d.get? k) :=
  get?_foldl_set e.nodup d k

theorem entries_foldl_set {l : List (κ × ν)} (hl : (l.map Prod.fst).Nodup) (d : Dict κ ν)
    (hd : ∀ e ∈ l, e.1 ∉ d.keys) :
    (l.foldl (fun d x => d.set x.1 x.2) d).entries = d.entries ++ l := by
  induction l generalizing d with
  | nil => simp
  | cons e l ih =>
    simp only [List.map_cons, List.nodup_cons] at hl
    have hset : (d.set e.1 e.2).entries = d.entries ++ [e] := by
      have hnot : e.1 ∉ d.entries.map Prod.fst := hd e List.mem_cons_self
      unfold set
      rw [dif_neg hnot]
    rw [List.foldl_cons, ih hl.2, hset, List.append_assoc]
    · rfl
    · intro x hx hmem
      rcases mem_keys_set.mp hmem with h | h
      · exact hl.1 (h ▸ List.mem_map_of_mem hx)
      · exact hd x (List.mem_cons_of_mem _ hx) h

/-- A list with distinct keys is kept as it is. -/
theorem entries_ofList {l : List (κ × ν)} (hl : (l.map Prod.fst).Nodup) : (ofList l).entries = l :=
  entries_foldl_set hl empty (by simp)

/-- A dictionary is rebuilt from its entries. -/
@[simp] theorem ofList_entries (d : Dict κ ν) : ofList d.entries = d :=
  ext_entries (entries_ofList d.nodup)

theorem mem_keys_ofList {l : List (κ × ν)} {k : κ} : k ∈ (ofList l).keys ↔ k ∈ l.map Prod.fst := by
  have h : ∀ d : Dict κ ν, k ∈ (l.foldl (fun d x => d.set x.1 x.2) d).keys ↔
      k ∈ l.map Prod.fst ∨ k ∈ d.keys := by
    induction l with
    | nil => simp
    | cons e l ih =>
      intro d
      rw [List.foldl_cons, ih, mem_keys_set, List.map_cons, List.mem_cons]
      tauto
  rw [ofList, h, keys_empty]
  simp

end Lookup

end Dict

end Lib
