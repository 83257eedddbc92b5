import Mathlib.Data.List.Sort
import Sentinel.Lib.Stream

/-!
# The backlog of a group

What a group has read and not acknowledged, in the order of the stream.

* `Stream.Ordered` — the Pending Entries List is in the order of its ids; every command keeps this
* `Stream.stale` — the entries that have been pending for too long
* `Stream.xautoclaim_stale` — a claim from the start takes the first of them
* `Stream.waiting` — the entries that are still to be read; `waiting_xreadgroup` takes the first
-/

namespace Lib

namespace Stream

variable {φ : Type} {s s' : Stream φ}

/-- The pending lines are in the order of their ids, and are about entries that were read. -/
structure Ordered (s : Stream φ) : Prop where
  pel : ∀ g, s.group = some g → g.pel.Pairwise fun p p' => p.id < p'.id
  read : ∀ g, s.group = some g → ∀ p ∈ g.pel,
    p.id ≤ g.lastDelivered ∧ ∃ e ∈ s.entries, e.id = p.id

/-! ## every command keeps the order -/

theorem Ordered.empty : (empty : Stream φ).Ordered := ⟨nofun, nofun⟩

theorem Ordered.xadd (h : s.Ordered) (f : φ) : (s.xadd f).2.Ordered := by
  refine ⟨h.pel, fun g hg p hp => ?_⟩
  obtain ⟨hle, e, he, hid⟩ := h.read g hg p hp
  exact ⟨hle, e, List.mem_append_left _ he, hid⟩

theorem Ordered.xgroupCreate (h : s.xgroupCreate = .ok s') : s'.Ordered := by
  unfold Stream.xgroupCreate at h
  split at h
  · cases h
  · cases h
    refine ⟨?_, ?_⟩
    · rintro g ⟨⟩
      exact List.Pairwise.nil
    · rintro g ⟨⟩ p hp
      cases hp

theorem Ordered.xreadgroup (hs : s.Ordered) {consumer : String} {now : Nat}
    {a : Option (Entry φ)} (h : s.xreadgroup consumer now = .ok (a, s')) : s'.Ordered := by
  unfold Stream.xreadgroup at h
  split at h
  · cases h
  · next g hg =>
    split at h
    · cases h
      exact hs
    · next e he =>
      cases h
      obtain ⟨hmem, hnew, -⟩ := firstNew_eq_some he
      refine ⟨?_, ?_⟩
      · rintro g' ⟨⟩
        refine List.pairwise_append.mpr ⟨hs.pel g hg, List.pairwise_singleton _ _, ?_⟩
        -- what was read before comes before the entry
        intro p hp p' hp'
        rw [List.mem_singleton.mp hp']
        exact Nat.lt_of_le_of_lt (hs.read g hg p hp).1 hnew
      · rintro g' ⟨⟩ p hp
        rcases List.mem_append.mp hp with hp | hp
        · obtain ⟨hle, hread⟩ := hs.read g hg p hp
          exact ⟨Nat.le_of_lt (Nat.lt_of_le_of_lt hle hnew), hread⟩
        · rw [List.mem_singleton.mp hp]
          exact ⟨Nat.le_refl _, e, hmem, rfl⟩

theorem Ordered.xautoclaim (hs : s.Ordered) {consumer : String} {minIdle start count now : Nat}
    {a : Nat × List (Entry φ)}
    (h : s.xautoclaim consumer minIdle start count now = .ok (a, s')) : s'.Ordered := by
  unfold Stream.xautoclaim at h
  split at h
  · cases h
  · next g hg =>
    cases h
    refine ⟨?_, ?_⟩
    · rintro g' ⟨⟩
      refine List.pairwise_map.mpr ((hs.pel g hg).imp fun {p p'} hlt => ?_)
      -- a claim keeps the ids
      split <;> split <;> exact hlt
    · rintro g' ⟨⟩ p hp
      obtain ⟨p', hp', hid⟩ := Group.claim_pel_iff.mp ⟨p, hp, rfl⟩
      rw [← hid]
      exact hs.read g hg p' hp'

theorem Ordered.xack (h : s.Ordered) (id : Nat) : (s.xack id).2.Ordered := by
  unfold Stream.xack
  split
  · exact h
  · next g hg =>
    split
    · refine ⟨?_, ?_⟩
      · rintro g' ⟨⟩
        exact (h.pel g hg).filter _
      · rintro g' ⟨⟩ p hp
        exact h.read g hg p (List.mem_filter.mp hp).1
    · exact h

/-! ## what stays pending -/

theorem isPending_xgroupCreate (h : s.xgroupCreate = .ok s') {e : Entry φ} :
    s'.IsPending e ↔ s.IsPending e := by
  unfold Stream.xgroupCreate at h
  split at h
  · cases h
  · next hs =>
    cases h
    simp [IsPending, hs]

theorem isPending_xautoclaim {consumer : String} {minIdle start count now : Nat}
    {a : Nat × List (Entry φ)}
    (h : s.xautoclaim consumer minIdle start count now = .ok (a, s')) {e : Entry φ} :
    s'.IsPending e ↔ s.IsPending e := by
  unfold Stream.xautoclaim at h
  split at h
  · cases h
  · next g hs =>
    cases h
    constructor
    · rintro ⟨g', hg', hp⟩
      cases hg'
      exact ⟨g, hs, Group.claim_pel_iff.mp hp⟩
    · rintro ⟨g', hg', hp⟩
      rw [hs] at hg'
      cases hg'
      exact ⟨_, rfl, Group.claim_pel_iff.mpr hp⟩

/-- Acknowledge one id after another. -/
def xackAll (s : Stream φ) (ids : List Nat) : Stream φ := ids.foldl (fun s id => (s.xack id).2) s

@[simp] theorem xackAll_nil (s : Stream φ) : s.xackAll [] = s := rfl

@[simp] theorem xackAll_cons (s : Stream φ) (id : Nat) (ids : List Nat) :
    s.xackAll (id :: ids) = (s.xack id).2.xackAll ids := rfl

theorem xackAll_append (s : Stream φ) (ids ids' : List Nat) :
    s.xackAll (ids ++ ids') = (s.xackAll ids).xackAll ids' := List.foldl_append

/-- What is not acknowledged stays pending, and nothing else does. -/
theorem isPending_xackAll {ids : List Nat} {e : Entry φ} :
    (s.xackAll ids).IsPending e ↔ s.IsPending e ∧ e.id ∉ ids := by
  induction ids generalizing s with
  | nil => simp
  | cons id ids ih =>
    rw [xackAll_cons, ih, isPending_xack, List.mem_cons, not_or, and_assoc]

/-- An acknowledgement is final. -/
theorem Acked.xack {e : Entry φ} (h : s.Acked e) (id : Nat) : (s.xack id).2.Acked e := by
  obtain ⟨g, hg, hmem⟩ := h
  unfold Stream.xack
  split
  · next hnone => rw [hg] at hnone; cases hnone
  · next g' hg' =>
    rw [hg] at hg'
    cases hg'
    split
    · exact ⟨_, rfl, List.mem_cons_of_mem _ hmem⟩
    · exact ⟨g, hg, hmem⟩

theorem Acked.xackAll {e : Entry φ} (h : s.Acked e) (ids : List Nat) : (s.xackAll ids).Acked e := by
  induction ids generalizing s with
  | nil => exact h
  | cons id ids ih => exact ih (h.xack id)

theorem acked_xackAll {ids : List Nat} {e : Entry φ} (h : s.IsPending e) (hid : e.id ∈ ids) :
    (s.xackAll ids).Acked e := by
  induction ids generalizing s with
  | nil => cases hid
  | cons id ids ih =>
    rw [xackAll_cons]
    by_cases he : e.id = id
    · subst he
      exact (acked_xack_self h).xackAll ids
    · refine ih (isPending_xack.mpr ⟨h, he⟩) ?_
      rcases List.mem_cons.mp hid with hid | hid
      · exact absurd hid he
      · exact hid

/-! ## entries that have been pending for too long -/

/-- The pending entries that have been idle for `minIdle`, in the order of the stream. -/
def stale (s : Stream φ) (minIdle now : Nat) : List (Entry φ) :=
  match s.group with
  | none => []
  | some g => s.entries.filter fun e => (g.claimable minIdle 0 now).any (·.id == e.id)

theorem stale_eq {g : Group} (hg : s.group = some g) (minIdle now : Nat) :
    s.stale minIdle now =
      s.entries.filter fun e => (g.claimable minIdle 0 now).any (·.id == e.id) := by
  unfold stale
  rw [hg]

theorem stale_sublist (s : Stream φ) (minIdle now : Nat) :
    (s.stale minIdle now).Sublist s.entries := by
  unfold stale
  split
  · exact List.nil_sublist _
  · exact List.filter_sublist

theorem stale_sorted (s : Stream φ) (minIdle now : Nat) :
    (s.stale minIdle now).Pairwise fun e e' => e.id < e'.id :=
  s.sorted.sublist (s.stale_sublist minIdle now)

theorem stale_isPending {minIdle now : Nat} {e : Entry φ} (h : e ∈ s.stale minIdle now) :
    s.IsPending e := by
  cases hg : s.group with
  | none =>
    unfold stale at h
    rw [hg] at h
    cases h
  | some g =>
    rw [stale_eq hg] at h
    obtain ⟨p, hp, hid⟩ := List.any_eq_true.mp (List.mem_filter.mp h).2
    exact ⟨g, hg, p, (List.mem_filter.mp hp).1, beq_iff_eq.mp hid⟩

theorem stale_xgroupCreate (h : s.xgroupCreate = .ok s') (minIdle now : Nat) :
    s'.stale minIdle now = s.stale minIdle now := by
  unfold Stream.xgroupCreate at h
  split at h
  · cases h
  · next hs =>
    cases h
    simp [stale, hs, Group.claimable]

theorem filterMap_take {α β : Type} {f : α → Option β} {l : List α}
    (hf : ∀ a ∈ l, (f a).isSome) (n : Nat) :
    (l.take n).filterMap f = (l.filterMap f).take n := by
  induction l generalizing n with
  | nil => simp
  | cons a l ih =>
    obtain ⟨b, hb⟩ := Option.isSome_iff_exists.mp (hf a List.mem_cons_self)
    cases n with
    | zero => simp
    | succ n =>
      rw [List.take_succ_cons, List.filterMap_cons_some hb, List.filterMap_cons_some hb,
        List.take_succ_cons, ih fun a ha => hf a (List.mem_cons_of_mem _ ha)]

theorem find?_id {n : Nat} {e : Entry φ} (h : s.entries.find? (·.id == n) = some e) :
    e ∈ s.entries ∧ e.id = n := by
  have hid := List.find?_some h
  exact ⟨List.mem_of_find?_eq_some h, beq_iff_eq.mp hid⟩

/-- The entry of a pending line. -/
theorem Ordered.find?_entry (hs : s.Ordered) {g : Group} (hg : s.group = some g) {p : Pending}
    (hp : p ∈ g.pel) : ∃ e, s.entries.find? (·.id == p.id) = some e := by
  obtain ⟨-, e, he, hid⟩ := hs.read g hg p hp
  exact Option.isSome_iff_exists.mp (List.find?_isSome.mpr ⟨e, he, beq_iff_eq.mpr hid⟩)

/-- Looking up the entries of all lines that may be claimed yields the stale ones. -/
theorem Ordered.filterMap_claimable (hs : s.Ordered) {g : Group} (hg : s.group = some g)
    (minIdle now : Nat) :
    (g.claimable minIdle 0 now).filterMap (fun p => s.entries.find? (·.id == p.id)) =
      s.stale minIdle now := by
  have : Std.Irrefl fun e e' : Entry φ => e.id < e'.id := ⟨fun e => Nat.lt_irrefl e.id⟩
  have : Std.Antisymm fun e e' : Entry φ => e.id < e'.id :=
    ⟨fun _ _ h h' => absurd h' (Nat.lt_asymm h)⟩
  -- both are in the order of the ids, so it is enough that they have the same entries
  refine List.Pairwise.eq_of_mem_iff (r := fun e e' => e.id < e'.id) ?_
    (s.stale_sorted minIdle now) fun e => ?_
  · refine List.pairwise_filterMap.mpr (((hs.pel g hg).filter _).imp fun {p p'} hlt => ?_)
    intro e he e' he'
    rw [(find?_id he).2, (find?_id he').2]
    exact hlt
  · rw [stale_eq hg, List.mem_filter, List.mem_filterMap, List.any_eq_true]
    constructor
    · rintro ⟨p, hp, he⟩
      obtain ⟨hmem, hid⟩ := find?_id he
      exact ⟨hmem, p, hp, beq_iff_eq.mpr hid.symm⟩
    · rintro ⟨he, p, hp, hid⟩
      obtain ⟨e', he'⟩ := hs.find?_entry hg (List.mem_filter.mp hp).1
      obtain ⟨hmem, hid'⟩ := find?_id he'
      rw [s.eq_of_id_eq he hmem ((beq_iff_eq.mp hid).symm.trans hid'.symm)]
      exact ⟨p, hp, he'⟩

/-- **A claim from the start takes the first stale entries**, as many as it may. -/
theorem xautoclaim_stale (hs : s.Ordered) {consumer : String} {minIdle count now : Nat}
    {a : Nat × List (Entry φ)} (h : s.xautoclaim consumer minIdle 0 count now = .ok (a, s')) :
    a.2 = (s.stale minIdle now).take count := by
  unfold Stream.xautoclaim at h
  split at h
  · cases h
  · next g hg =>
    cases h
    rw [← hs.filterMap_claimable hg]
    refine filterMap_take (fun p hp => ?_) count
    exact Option.isSome_iff_exists.mpr (hs.find?_entry hg (List.mem_filter.mp hp).1)

/-- A claim goes through as soon as there is a group. -/
theorem xautoclaim_returns {g : Group} (hg : s.group = some g) (consumer : String)
    (minIdle start count now : Nat) :
    ∃ a s', s.xautoclaim consumer minIdle start count now = .ok (a, s') := by
  unfold Stream.xautoclaim
  split
  · next hnone => rw [hg] at hnone; cases hnone
  · exact ⟨_, _, rfl⟩

/-- Creating the group leaves one behind, whether or not it was there. -/
theorem xgroupCreate_cases (s : Stream φ) :
    ((∃ g, s.group = some g) ∧ s.xgroupCreate = .error .busyGroup) ∨
      ∃ s' g, s.xgroupCreate = .ok s' ∧ s'.group = some g := by
  unfold Stream.xgroupCreate
  split
  · next g hg => exact Or.inl ⟨⟨g, hg⟩, rfl⟩
  · exact Or.inr ⟨_, _, rfl, rfl⟩

/-! ## what is still to be read -/

/-- The entries the group has not read, in the order of the stream. -/
def waiting (s : Stream φ) : List (Entry φ) :=
  match s.group with
  | none => s.entries
  | some g => s.entries.filter fun e => g.lastDelivered < e.id

theorem waiting_sublist (s : Stream φ) : s.waiting.Sublist s.entries := by
  unfold waiting
  split
  · exact List.Sublist.refl _
  · exact List.filter_sublist

theorem mem_waiting {e : Entry φ} : e ∈ s.waiting ↔ e ∈ s.entries ∧ s.Undelivered e := by
  unfold waiting Undelivered
  split
  · next hg => simp [hg]
  · next g hg => simp [hg, List.mem_filter]

/-- What is still to be read is not pending. -/
theorem Ordered.not_isPending (hs : s.Ordered) {e : Entry φ} (h : s.Undelivered e) :
    ¬s.IsPending e := by
  rintro ⟨g, hg, p, hp, hid⟩
  have hread := (hs.read g hg p hp).1
  have hnew := h g hg
  omega

theorem waiting_xack (s : Stream φ) (id : Nat) : (s.xack id).2.waiting = s.waiting := by
  unfold xack
  split
  · rfl
  · next g hg =>
    split
    · simp only [waiting, hg]
    · rfl

end Stream

end Lib
