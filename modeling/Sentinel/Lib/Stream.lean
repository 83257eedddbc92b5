import Mathlib.Data.List.Nodup

/-!
# Streams with a consumer group

An append-only log that one group of consumers reads. Reading delivers the entries in order, each
to one consumer, and keeps what was delivered in the Pending Entries List until it is acknowledged.
A pending entry can be claimed by another consumer once it has been idle for long enough.

* `Stream.xadd`, `xgroupCreate`, `xreadgroup`, `xautoclaim`, `xack` — the commands
* `Stream.undelivered_or_pending_or_acked` — no entry is ever lost
* `Stream.acked_xack` — only an acknowledgement of its own id makes an entry acknowledged
* `Stream.undelivered_xreadgroup` — an entry is read once

Ids are numbers, given out in increasing order from 1, so that the start id `0` lies before every
entry. The list `acked` is a record for the statements only: no command reads it. There is no
trimming. What has to hold of the log and of the group is part of the type `Stream`, so the
commands cannot leave a damaged one behind.
-/

namespace Lib

structure Entry (φ : Type) where
  id : Nat
  fields : φ

/-- One line of the Pending Entries List. -/
structure Pending where
  id : Nat
  consumer : String
  deliveredAt : Nat

structure Group where
  lastDelivered : Nat
  pel : List Pending
  acked : List Nat

namespace Group

/-- What a group becomes when `e` is delivered to `consumer`. -/
def deliver {φ : Type} (g : Group) (consumer : String) (now : Nat) (e : Entry φ) : Group where
  lastDelivered := e.id
  pel := g.pel ++ [⟨e.id, consumer, now⟩]
  acked := g.acked

/-- The pending lines that `XAUTOCLAIM` may take over, from `start` on. -/
def claimable (g : Group) (minIdle start now : Nat) : List Pending :=
  g.pel.filter fun p => start ≤ p.id ∧ p.deliveredAt + minIdle ≤ now

def claim (g : Group) (consumer : String) (now : Nat) (claimed : List Pending) : Group where
  lastDelivered := g.lastDelivered
  pel := g.pel.map fun p => if claimed.any (·.id == p.id) then ⟨p.id, consumer, now⟩ else p
  acked := g.acked

theorem claim_pel_iff {g : Group} {consumer : String} {now : Nat} {claimed : List Pending}
    {n : Nat} : (∃ p ∈ (g.claim consumer now claimed).pel, p.id = n) ↔ ∃ p ∈ g.pel, p.id = n := by
  simp only [claim, List.mem_map]
  constructor
  · rintro ⟨_, ⟨p, hp, rfl⟩, hid⟩
    refine ⟨p, hp, ?_⟩
    split at hid <;> exact hid
  · rintro ⟨p, hp, hid⟩
    refine ⟨_, ⟨p, hp, rfl⟩, ?_⟩
    split <;> exact hid

/-- The id a scan that stopped after `claimed` goes on from; `0` when nothing is left. -/
def cursor (g : Group) (count : Nat) (claimed : List Pending) : Nat :=
  match claimed.getLast? with
  | some p =>
    if claimed.length = count then ((g.pel.find? fun q => p.id < q.id).map Pending.id).getD 0 else 0
  | none => 0

end Group

inductive StreamError
  | busyGroup
  | noGroup
deriving DecidableEq, Repr

structure Stream (φ : Type) where
  entries : List (Entry φ)
  lastId : Nat
  group : Option Group
  sorted : entries.Pairwise fun e e' => e.id < e'.id
  bounded : ∀ e ∈ entries, 0 < e.id ∧ e.id ≤ lastId
  delivered : ∀ g, group = some g → g.lastDelivered ≤ lastId
  /-- What the group has read is still pending or has been acknowledged. -/
  accounted : ∀ g, group = some g → ∀ e ∈ entries, e.id ≤ g.lastDelivered →
    (∃ p ∈ g.pel, p.id = e.id) ∨ e.id ∈ g.acked
  /-- The group has to do with ids that were given out only. -/
  known : ∀ g, group = some g → (∀ p ∈ g.pel, p.id ≤ lastId) ∧ ∀ n ∈ g.acked, n ≤ lastId

namespace Stream

variable {φ : Type}

def empty : Stream φ where
  entries := []
  lastId := 0
  group := none
  sorted := List.Pairwise.nil
  bounded := by simp
  delivered := by simp
  accounted := by simp
  known := by simp

/-- Two entries with one id are one entry. -/
theorem eq_of_id_eq (s : Stream φ) {e e' : Entry φ} (he : e ∈ s.entries) (he' : e' ∈ s.entries)
    (h : e.id = e'.id) : e = e' := by
  have hnd : (s.entries.map Entry.id).Nodup := by
    rw [List.Nodup, List.pairwise_map]
    exact s.sorted.imp Nat.ne_of_lt
  exact List.inj_on_of_nodup_map hnd he he' h

/-! ## commands -/

/-- `XADD`: append an entry under the next id. -/
def xadd (s : Stream φ) (f : φ) : Nat × Stream φ :=
  (s.lastId + 1,
    { entries := s.entries ++ [⟨s.lastId + 1, f⟩]
      lastId := s.lastId + 1
      group := s.group
      sorted := by
        rw [List.pairwise_append]
        refine ⟨s.sorted, List.pairwise_singleton _ _, ?_⟩
        intro e he e' he'
        rw [List.mem_singleton.mp he']
        exact Nat.lt_succ_of_le (s.bounded e he).2
      bounded := by
        intro e he
        rcases List.mem_append.mp he with he | he
        · exact ⟨(s.bounded e he).1, Nat.le_succ_of_le (s.bounded e he).2⟩
        · rw [List.mem_singleton.mp he]
          exact ⟨Nat.succ_pos _, Nat.le_refl _⟩
      delivered := fun g hg => Nat.le_succ_of_le (s.delivered g hg)
      accounted := by
        intro g hg e he hle
        rcases List.mem_append.mp he with he | he
        · exact s.accounted g hg e he hle
        · rw [List.mem_singleton.mp he] at hle
          exact absurd (Nat.le_trans hle (s.delivered g hg)) (Nat.not_succ_le_self _)
      known := fun g hg => ⟨fun p hp => Nat.le_succ_of_le ((s.known g hg).1 p hp),
        fun n hn => Nat.le_succ_of_le ((s.known g hg).2 n hn)⟩ })

/-- `XGROUP CREATE … 0 MKSTREAM`: a group that has read nothing yet. -/
def xgroupCreate (s : Stream φ) : Except StreamError (Stream φ) :=
  match hs : s.group with
  | some _ => .error .busyGroup
  | none => .ok
    { s with
      group := some { lastDelivered := 0, pel := [], acked := [] }
      delivered := by
        rintro g ⟨⟩
        exact Nat.zero_le _
      accounted := by
        rintro g ⟨⟩ e he hle
        exact absurd (s.bounded e he).1 (Nat.not_lt.mpr hle)
      known := by
        rintro g ⟨⟩
        simp }

/-- The first entry the group has not read. -/
def firstNew (s : Stream φ) (g : Group) : Option (Entry φ) :=
  s.entries.find? fun e => g.lastDelivered < e.id

theorem firstNew_eq_some {s : Stream φ} {g : Group} {e : Entry φ} (h : s.firstNew g = some e) :
    e ∈ s.entries ∧ g.lastDelivered < e.id ∧
      ∀ e' ∈ s.entries, e'.id ≤ e.id → e'.id ≤ g.lastDelivered ∨ e' = e := by
  obtain ⟨hp, as, bs, hl, has⟩ := List.find?_eq_some_iff_append.mp h
  refine ⟨List.mem_of_find?_eq_some h, by simpa using hp, ?_⟩
  intro e' he' hle
  rw [hl] at he'
  have hsorted := s.sorted
  rw [hl, List.pairwise_append] at hsorted
  rcases List.mem_append.mp he' with hm | hm
  · exact Or.inl (by simpa using has e' hm)
  · rcases List.mem_cons.mp hm with rfl | hm
    · exact Or.inr rfl
    · have := (List.pairwise_cons.mp hsorted.2.1).1 e' hm
      exact absurd hle (Nat.not_le.mpr this)

/-- `XREADGROUP … COUNT 1 STREAMS … >`: deliver the first new entry, if there is one. -/
def xreadgroup (s : Stream φ) (consumer : String) (now : Nat) :
    Except StreamError (Option (Entry φ) × Stream φ) :=
  match hs : s.group with
  | none => .error .noGroup
  | some g =>
    match he : s.firstNew g with
    | none => .ok (none, s)
    | some e => .ok (some e,
      { s with
        group := some (g.deliver consumer now e)
        delivered := by
          rintro g' ⟨⟩
          exact (s.bounded e (firstNew_eq_some he).1).2
        accounted := by
          rintro g' ⟨⟩ e' he' hle
          -- the entry delivered is the only one between the old and the new bound
          rcases (firstNew_eq_some he).2.2 e' he' hle with hold | rfl
          · rcases s.accounted g hs e' he' hold with ⟨p, hp, hid⟩ | ha
            · exact Or.inl ⟨p, List.mem_append_left _ hp, hid⟩
            · exact Or.inr ha
          · exact Or.inl ⟨_, List.mem_append_right _ (List.mem_singleton_self _), rfl⟩
        known := by
          rintro g' ⟨⟩
          refine ⟨fun p hp => ?_, (s.known g hs).2⟩
          rcases List.mem_append.mp hp with hp | hp
          · exact (s.known g hs).1 p hp
          · rw [List.mem_singleton.mp hp]
            exact (s.bounded e (firstNew_eq_some he).1).2 })

/--
`XAUTOCLAIM`: take over at most `count` pending entries that have been idle for `minIdle`, in
order from `start`. Answers the cursor for the rest and the entries claimed.
-/
def xautoclaim (s : Stream φ) (consumer : String) (minIdle start count now : Nat) :
    Except StreamError ((Nat × List (Entry φ)) × Stream φ) :=
  match hs : s.group with
  | none => .error .noGroup
  | some g =>
    let claimed := (g.claimable minIdle start now).take count
    .ok ((g.cursor count claimed,
        claimed.filterMap fun p => s.entries.find? fun e => e.id == p.id),
      { s with
        group := some (g.claim consumer now claimed)
        delivered := by
          rintro g' ⟨⟩
          exact s.delivered g hs
        accounted := by
          rintro g' ⟨⟩ e he hle
          rcases s.accounted g hs e he hle with hp | ha
          · exact Or.inl (Group.claim_pel_iff.mpr hp)
          · exact Or.inr ha
        known := by
          rintro g' ⟨⟩
          refine ⟨fun p hp => ?_, (s.known g hs).2⟩
          obtain ⟨p', hp', hid⟩ := Group.claim_pel_iff.mp ⟨p, hp, rfl⟩
          rw [← hid]
          exact (s.known g hs).1 p' hp' })

/-- `XACK`: strike an id from the Pending Entries List; answers how many were struck. -/
def xack (s : Stream φ) (id : Nat) : Nat × Stream φ :=
  match hs : s.group with
  | none => (0, s)
  | some g =>
    if hp : g.pel.any (·.id == id) then
      (1,
        { s with
          group := some { g with pel := g.pel.filter (·.id != id), acked := id :: g.acked }
          delivered := by
            rintro g' ⟨⟩
            exact s.delivered g hs
          accounted := by
            rintro g' ⟨⟩ e he hle
            by_cases hid : e.id = id
            · exact Or.inr (by simp [hid])
            · rcases s.accounted g hs e he hle with ⟨p, hp, hpe⟩ | ha
              · exact Or.inl ⟨p, List.mem_filter.mpr ⟨hp, by simpa [hpe] using hid⟩, hpe⟩
              · exact Or.inr (List.mem_cons_of_mem _ ha)
          known := by
            rintro g' ⟨⟩
            refine ⟨fun p hp => (s.known g hs).1 p (List.mem_filter.mp hp).1, ?_⟩
            intro n hn
            rcases List.mem_cons.mp hn with rfl | hn
            · obtain ⟨p, hp, hid⟩ := List.any_eq_true.mp hp
              rw [← beq_iff_eq.mp hid]
              exact (s.known g hs).1 p hp
            · exact (s.known g hs).2 n hn })
    else (0, s)

/-! ## where an entry is -/

def Undelivered (s : Stream φ) (e : Entry φ) : Prop :=
  ∀ g, s.group = some g → g.lastDelivered < e.id

def IsPending (s : Stream φ) (e : Entry φ) : Prop :=
  ∃ g, s.group = some g ∧ ∃ p ∈ g.pel, p.id = e.id

def Acked (s : Stream φ) (e : Entry φ) : Prop := ∃ g, s.group = some g ∧ e.id ∈ g.acked

/-- **Nothing is lost**: an entry is still to be delivered, or pending, or acknowledged. -/
theorem undelivered_or_pending_or_acked (s : Stream φ) {e : Entry φ} (he : e ∈ s.entries) :
    s.Undelivered e ∨ s.IsPending e ∨ s.Acked e := by
  cases hg : s.group with
  | none => exact Or.inl fun g h => by simp [hg] at h
  | some g =>
    by_cases hle : e.id ≤ g.lastDelivered
    · rcases s.accounted g hg e he hle with hp | ha
      · exact Or.inr (Or.inl ⟨g, hg, hp⟩)
      · exact Or.inr (Or.inr ⟨g, hg, ha⟩)
    · refine Or.inl fun g' hg' => ?_
      rw [hg] at hg'
      cases hg'
      exact Nat.lt_of_not_le hle

/-! ## what the commands do -/

@[simp] theorem entries_xadd (s : Stream φ) (f : φ) :
    (s.xadd f).2.entries = s.entries ++ [⟨s.lastId + 1, f⟩] := rfl

/-- An entry that has just been added is not acknowledged. -/
theorem not_acked_xadd (s : Stream φ) (f : φ) : ¬s.Acked ⟨s.lastId + 1, f⟩ := by
  rintro ⟨g, hg, ha⟩
  exact absurd ((s.known g hg).2 _ ha) (Nat.not_succ_le_self _)

theorem xgroupCreate_ok {s s' : Stream φ} (h : s.xgroupCreate = .ok s') :
    s'.entries = s.entries ∧ ∀ e, s'.Acked e ↔ s.Acked e := by
  unfold xgroupCreate at h
  split at h
  · cases h
  · next hs =>
    cases h
    refine ⟨rfl, fun e => ?_⟩
    simp [Acked, hs]

theorem xreadgroup_ok {s s' : Stream φ} {consumer : String} {now : Nat} {a : Option (Entry φ)}
    (h : s.xreadgroup consumer now = .ok (a, s')) :
    s'.entries = s.entries ∧ (∀ e, s'.Acked e ↔ s.Acked e) ∧ ∀ e, a = some e → e ∈ s.entries := by
  unfold xreadgroup at h
  split at h
  · cases h
  · next g hs =>
    split at h
    · cases h
      exact ⟨rfl, fun _ => Iff.rfl, by simp⟩
    · next e he =>
      cases h
      refine ⟨rfl, fun e' => ?_, ?_⟩
      · simp [Acked, hs, Group.deliver]
      · rintro e' ⟨⟩
        exact (firstNew_eq_some he).1

theorem xautoclaim_ok {s s' : Stream φ} {consumer : String} {minIdle start count now : Nat}
    {a : Nat × List (Entry φ)}
    (h : s.xautoclaim consumer minIdle start count now = .ok (a, s')) :
    s'.entries = s.entries ∧ (∀ e, s'.Acked e ↔ s.Acked e) ∧ ∀ e ∈ a.2, e ∈ s.entries := by
  unfold xautoclaim at h
  split at h
  · cases h
  · next g hs =>
    cases h
    refine ⟨rfl, fun e' => ?_, ?_⟩
    · simp [Acked, hs, Group.claim]
    · intro e he
      obtain ⟨p, -, hp⟩ := List.mem_filterMap.mp he
      exact List.mem_of_find?_eq_some hp

@[simp] theorem entries_xack (s : Stream φ) (id : Nat) : (s.xack id).2.entries = s.entries := by
  unfold xack
  split
  · rfl
  · split <;> rfl

/-- An acknowledgement concerns the entry of its id and no other. -/
theorem acked_xack {s : Stream φ} {id : Nat} {e : Entry φ} :
    (s.xack id).2.Acked e → s.Acked e ∨ e.id = id := by
  unfold xack
  split
  · exact Or.inl
  · next g hs =>
    split
    · rintro ⟨g', hg', ha⟩
      cases hg'
      rcases List.mem_cons.mp ha with ha | ha
      · exact Or.inr ha
      · exact Or.inl ⟨g, hs, ha⟩
    · exact Or.inl

/-! ## delivery happens once -/

theorem undelivered_xgroupCreate {s s' : Stream φ} (h : s.xgroupCreate = .ok s') {e : Entry φ}
    (he : e ∈ s.entries) : s'.Undelivered e ↔ s.Undelivered e := by
  unfold xgroupCreate at h
  split at h
  · cases h
  · next hs =>
    cases h
    refine iff_of_true ?_ fun g hg => by rw [hs] at hg; cases hg
    rintro g ⟨⟩
    exact (s.bounded e he).1

theorem undelivered_xack {s : Stream φ} {id : Nat} {e : Entry φ} :
    (s.xack id).2.Undelivered e ↔ s.Undelivered e := by
  unfold xack
  split
  · exact Iff.rfl
  · next g hs =>
    split
    · simp [Undelivered, hs]
    · exact Iff.rfl

/-- What is delivered was not delivered before, and nothing else is. -/
theorem undelivered_xreadgroup {s s' : Stream φ} {consumer : String} {now : Nat}
    {a : Option (Entry φ)} (h : s.xreadgroup consumer now = .ok (a, s')) :
    (∀ e, a = some e → s.Undelivered e ∧ ¬s'.Undelivered e) ∧
      ∀ e, s'.Undelivered e → s.Undelivered e := by
  unfold xreadgroup at h
  split at h
  · cases h
  · next g hs =>
    split at h
    · cases h
      exact ⟨nofun, fun _ h => h⟩
    · next e he =>
      cases h
      obtain ⟨-, hlt, -⟩ := firstNew_eq_some he
      refine ⟨?_, fun e' h g' hg' => ?_⟩
      · rintro e' ⟨⟩
        refine ⟨fun g' hg' => ?_, fun hun => absurd (hun _ rfl) (Nat.lt_irrefl _)⟩
        rw [hs] at hg'
        cases hg'
        exact hlt
      · rw [hs] at hg'
        cases hg'
        exact Nat.lt_trans hlt (h _ rfl)

/-- An acknowledgement takes its own entry off the list, and no other. -/
theorem isPending_xack {s : Stream φ} {id : Nat} {e : Entry φ} :
    (s.xack id).2.IsPending e ↔ s.IsPending e ∧ e.id ≠ id := by
  unfold xack
  split
  · next hs => simp [IsPending, hs]
  · next g hs =>
    split
    · constructor
      · rintro ⟨g', hg', p, hp, hid⟩
        cases hg'
        obtain ⟨hp, hne⟩ := List.mem_filter.mp hp
        exact ⟨⟨g, hs, p, hp, hid⟩, by simpa [hid] using hne⟩
      · rintro ⟨⟨g', hg', p, hp, hid⟩, hne⟩
        rw [hs] at hg'
        cases hg'
        exact ⟨_, rfl, p, List.mem_filter.mpr ⟨hp, by simpa [hid] using hne⟩, hid⟩
    · next hnone =>
      refine ⟨fun h => ⟨h, ?_⟩, fun h => h.1⟩
      rintro rfl
      obtain ⟨g', hg', p, hp, hid⟩ := h
      rw [hs] at hg'
      cases hg'
      exact hnone (List.any_eq_true.mpr ⟨p, hp, by simpa using hid⟩)

/-- An entry that was pending is acknowledged. -/
theorem acked_xack_self {s : Stream φ} {e : Entry φ} (h : s.IsPending e) :
    (s.xack e.id).2.Acked e := by
  obtain ⟨g, hs, p, hp, hid⟩ := h
  unfold xack
  split
  · next hnone => rw [hs] at hnone; cases hnone
  · next g' hs' =>
    rw [hs] at hs'
    cases hs'
    rw [dif_pos (List.any_eq_true.mpr ⟨p, hp, by simpa using hid⟩)]
    exact ⟨_, rfl, List.mem_cons_self⟩

end Stream

end Lib
