import Mathlib.Data.List.Basic

/-!
# Fixed windows

A counter that lives from the first increment that finds none to a time that is set for it once,
at least a length `W` after it began. All increments in between count for it, and the next one
afterwards begins a new life.

* `Life` — one life of such a counter
* `Life.begin`, `Life.join`, `Life.finish` — what happens to the lives, the last one first
* `Windows` — the lives follow one another, and each that has an end spans `W`
* `Windows.bound` — an interval of length `W` meets two lives at most
-/

namespace Lib

variable {α : Type}

structure Life (α : Type) where
  /-- What counted for it, the last one first. -/
  members : List α
  ending : Option Nat

namespace Life

def begin (a : α) (lives : List (Life α)) : List (Life α) := ⟨[a], none⟩ :: lives

def join (a : α) : List (Life α) → List (Life α)
  | [] => [⟨[a], none⟩]
  | life :: lives => ⟨a :: life.members, life.ending⟩ :: lives

def finish (x : Nat) : List (Life α) → List (Life α)
  | [] => []
  | life :: lives => ⟨life.members, some x⟩ :: lives

variable {a : α} {x : Nat} {lives : List (Life α)}

theorem flatMap_begin : (begin a lives).flatMap members = a :: lives.flatMap members := rfl

theorem flatMap_join : (join a lives).flatMap members = a :: lives.flatMap members := by
  cases lives <;> rfl

theorem flatMap_finish : (finish x lives).flatMap members = lives.flatMap members := by
  cases lives <;> rfl

end Life

/-- `lives` are the lives of a counter up to `now`, the last one first. -/
structure Windows (time : α → Nat) (W now : Nat) (lives : List (Life α)) : Prop where
  nonempty : ∀ life ∈ lives, life.members ≠ []
  past : ∀ life ∈ lives, ∀ a ∈ life.members, time a ≤ now
  span : ∀ life ∈ lives, ∀ x, life.ending = some x →
    (∀ a ∈ life.members, time a < x) ∧ ∃ a ∈ life.members, time a + W ≤ x
  order : lives.Pairwise fun newer older =>
    ∃ x, older.ending = some x ∧ ∀ a ∈ newer.members, x ≤ time a

namespace Windows

variable {time : α → Nat} {W now : Nat} {life : Life α} {lives : List (Life α)} {a : α}

theorem nil : Windows time W now ([] : List (Life α)) :=
  ⟨by simp, by simp, by simp, List.Pairwise.nil⟩

theorem later (h : Windows time W now lives) {now' : Nat} (hnow : now ≤ now') :
    Windows time W now' lives :=
  ⟨h.nonempty, fun life hl a ha => Nat.le_trans (h.past life hl a ha) hnow, h.span, h.order⟩

/-- An increment after the end of the last life. -/
theorem begin (h : Windows time W now lives) (hnow : now ≤ time a)
    (hover : ∀ life, lives.head? = some life → ∃ x, life.ending = some x ∧ x ≤ time a) :
    Windows time W (time a) (Life.begin a lives) := by
  refine ⟨?_, ?_, ?_, List.pairwise_cons.mpr ⟨?_, h.order⟩⟩
  · intro life hl
    rcases List.mem_cons.mp hl with rfl | hl
    · simp
    · exact h.nonempty life hl
  · intro life hl b hb
    rcases List.mem_cons.mp hl with rfl | hl
    · exact Nat.le_of_eq (congrArg time (List.mem_singleton.mp hb))
    · exact Nat.le_trans (h.past life hl b hb) hnow
  · intro life hl x hx
    rcases List.mem_cons.mp hl with rfl | hl
    · cases hx
    · exact h.span life hl x hx
  · -- the last life is over, and the ones before it ended before it began
    intro older holder
    obtain ⟨x, hx, hle⟩ : ∃ x, older.ending = some x ∧ x ≤ time a := by
      cases lives with
      | nil => cases holder
      | cons last lives =>
        rcases List.mem_cons.mp holder with rfl | hmem
        · exact hover _ rfl
        · obtain ⟨x, hx, hle⟩ := (List.pairwise_cons.mp h.order).1 older hmem
          obtain ⟨b, hb⟩ := List.exists_mem_of_ne_nil _ (h.nonempty last List.mem_cons_self)
          have hpast := h.past last List.mem_cons_self b hb
          have hxb := hle b hb
          exact ⟨x, hx, by omega⟩
    refine ⟨x, hx, fun b hb => ?_⟩
    rw [List.mem_singleton.mp hb]
    exact hle

/-- An increment within the last life. -/
theorem join (h : Windows time W now (life :: lives)) (hnow : now ≤ time a)
    (halive : ∀ x, life.ending = some x → time a < x) :
    Windows time W (time a) (Life.join a (life :: lives)) := by
  obtain ⟨holder, hrest⟩ := List.pairwise_cons.mp h.order
  refine ⟨?_, ?_, ?_, List.pairwise_cons.mpr ⟨?_, hrest⟩⟩
  · intro life' hl
    rcases List.mem_cons.mp hl with rfl | hl
    · simp
    · exact h.nonempty life' (List.mem_cons_of_mem _ hl)
  · intro life' hl b hb
    rcases List.mem_cons.mp hl with rfl | hl
    · rcases List.mem_cons.mp hb with rfl | hb
      · exact Nat.le_refl _
      · exact Nat.le_trans (h.past life List.mem_cons_self b hb) hnow
    · exact Nat.le_trans (h.past life' (List.mem_cons_of_mem _ hl) b hb) hnow
  · intro life' hl x hx
    rcases List.mem_cons.mp hl with rfl | hl
    · obtain ⟨hall, b, hb, hspan⟩ := h.span life List.mem_cons_self x hx
      refine ⟨fun c hc => ?_, b, List.mem_cons_of_mem _ hb, hspan⟩
      rcases List.mem_cons.mp hc with rfl | hc
      · exact halive x hx
      · exact hall c hc
    · exact h.span life' (List.mem_cons_of_mem _ hl) x hx
  · intro older hmem
    obtain ⟨x, hx, hle⟩ := holder older hmem
    refine ⟨x, hx, fun b hb => ?_⟩
    rcases List.mem_cons.mp hb with rfl | hb
    · obtain ⟨c, hc⟩ := List.exists_mem_of_ne_nil _ (h.nonempty life List.mem_cons_self)
      have hpast := h.past life List.mem_cons_self c hc
      have hxc := hle c hc
      omega
    · exact hle b hb

/-- The last life, which had no end so far, is given one. -/
theorem finish (h : Windows time W now (life :: lives)) (hW : 0 < W) :
    Windows time W now (Life.finish (now + W) (life :: lives)) := by
  obtain ⟨holder, hrest⟩ := List.pairwise_cons.mp h.order
  refine ⟨?_, ?_, ?_, List.pairwise_cons.mpr ⟨holder, hrest⟩⟩
  · intro life' hl
    rcases List.mem_cons.mp hl with rfl | hl
    · exact h.nonempty life List.mem_cons_self
    · exact h.nonempty life' (List.mem_cons_of_mem _ hl)
  · intro life' hl b hb
    rcases List.mem_cons.mp hl with rfl | hl
    · exact h.past life List.mem_cons_self b hb
    · exact h.past life' (List.mem_cons_of_mem _ hl) b hb
  · intro life' hl x hx
    rcases List.mem_cons.mp hl with rfl | hl
    · cases hx
      have hpast := h.past life List.mem_cons_self
      obtain ⟨c, hc⟩ := List.exists_mem_of_ne_nil _ (h.nonempty life List.mem_cons_self)
      refine ⟨fun b hb => ?_, c, hc, Nat.add_le_add_right (hpast c hc) W⟩
      have hb := hpast b hb
      omega
    · exact h.span life' (List.mem_cons_of_mem _ hl) x hx

/-- **If no life has more than `limit` members of a kind, no interval of length `W` has more than
twice as many.** -/
theorem bound (h : Windows time W now lives) {p : α → Bool} {limit : Nat}
    (hlimit : ∀ life ∈ lives, life.members.countP p ≤ limit) (s : Nat) :
    (lives.flatMap Life.members).countP (fun a => p a && decide (s ≤ time a ∧ time a < s + W)) ≤
      2 * limit := by
  induction lives with
  | nil => simp
  | cons life lives ih =>
    obtain ⟨holder, hrest⟩ := List.pairwise_cons.mp h.order
    have htail : Windows time W now lives :=
      ⟨fun l hl => h.nonempty l (List.mem_cons_of_mem _ hl),
        fun l hl => h.past l (List.mem_cons_of_mem _ hl),
        fun l hl => h.span l (List.mem_cons_of_mem _ hl), hrest⟩
    have ih := ih htail fun l hl => hlimit l (List.mem_cons_of_mem _ hl)
    have hmono : ∀ l ∈ life :: lives, l.members.countP
        (fun a => p a && decide (s ≤ time a ∧ time a < s + W)) ≤ limit := by
      intro l hl
      refine Nat.le_trans (List.countP_mono_left fun a _ ha => ?_) (hlimit l hl)
      exact (Bool.and_eq_true_iff.mp ha).1
    rw [List.flatMap_cons, List.countP_append]
    by_cases hmeets : ∃ a ∈ life.members, time a < s + W
    · obtain ⟨a, ha, hlt⟩ := hmeets
      cases lives with
      | nil =>
        have := hmono life List.mem_cons_self
        simp only [List.flatMap_nil, List.countP_nil]
        omega
      | cons second lives =>
        -- the second life began at least `W` before the last one, and the third was over by then
        obtain ⟨x, hx, hle⟩ := holder second List.mem_cons_self
        obtain ⟨-, b, hb, hspan⟩ := htail.span second List.mem_cons_self x hx
        have hxa := hle a ha
        have hzero : (lives.flatMap Life.members).countP
            (fun a => p a && decide (s ≤ time a ∧ time a < s + W)) = 0 := by
          rw [List.countP_eq_zero]
          intro c hc
          obtain ⟨third, hthird, hc⟩ := List.mem_flatMap.mp hc
          obtain ⟨y, hy, hyle⟩ := (List.pairwise_cons.mp hrest).1 third hthird
          obtain ⟨hbefore, -⟩ := htail.span third (List.mem_cons_of_mem _ hthird) y hy
          have hcy := hbefore c hc
          have hyb := hyle b hb
          simp only [Bool.and_eq_true, decide_eq_true_eq, not_and]
          omega
        have hfirst := hmono life List.mem_cons_self
        have hsecond := hmono second (List.mem_cons_of_mem _ List.mem_cons_self)
        rw [List.flatMap_cons, List.countP_append, hzero]
        omega
    · have hzero : life.members.countP
          (fun a => p a && decide (s ≤ time a ∧ time a < s + W)) = 0 := by
        rw [List.countP_eq_zero]
        intro a ha
        have hlate : s + W ≤ time a := Nat.le_of_not_lt fun hlt => hmeets ⟨a, ha, hlt⟩
        simp only [Bool.and_eq_true, decide_eq_true_eq, not_and]
        omega
      rw [hzero]
      omega

end Windows

end Lib
