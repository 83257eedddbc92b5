import Mathlib.Logic.Function.Basic
import Mathlib.Logic.Relation
import Sentinel.Lib.RelyGuarantee

/-!
# Many programs over one state

A machine runs any number of programs against a shared state. A step starts a program, lets one
running program make its next call, kills one, or lets the environment move the state. Between
two calls of a program all others may step, so a run is an arbitrary interleaving of the calls.

* `Machine.Steps` — runs whose steps all satisfy a side condition
* `Machine.Steps.only` — an invariant of programs that only make certain calls
* `Machine.Sound` — the proof obligations of rely and guarantee: each program is safe when it
  starts, what one promises is what the others rely on
* `Machine.Sound.ok` — from these, every state of every run keeps the invariant, and every
  program that still runs is safe
* `Machine.Sound.call` — and every call ever made kept its promise
* `Machine.Sound.respawn`, `Machine.Sound.both` — other programs, and a further promise of all
* `Machine.Sound.layer` — a second discipline may count on the first
* `Machine.Steps.play` — scripts, for building concrete runs
-/

namespace Lib

variable {σ : Signature} {ε ι S : Type}

/-- The life of one process. An identifier is used once. -/
inductive Proc (σ : Signature) (ε : Type)
  | unused
  | running (p : Prog σ ε Unit)
  | dead

structure Pool (σ : Signature) (ε ι S : Type) where
  state : S
  procs : ι → Proc σ ε

/-- Process `i` is between two calls: it has at least one more to make. -/
def Pool.Active (c : Pool σ ε ι S) (i : ι) : Prop :=
  ∃ op k, c.procs i = .running (.call op k)

/-- The pool in which nothing has been started. -/
def Pool.initial (s : S) : Pool σ ε ι S := ⟨s, fun _ => .unused⟩

inductive Label (σ : Signature) (ε ι : Type)
  | spawn (i : ι) (p : Prog σ ε Unit)
  | call (i : ι) (op : σ.Op) (r : Except ε (σ.Ans op))
  | crash (i : ι)
  | env

structure Machine (σ : Signature) (ε ι S : Type) where
  /-- The answers process `i` may get to a call, and the state after it. -/
  sem : ι → (op : σ.Op) → S → Except ε (σ.Ans op) → S → Prop
  /-- The programs that may be started. -/
  spawn : Pool σ ε ι S → ι → Prog σ ε Unit → Prop
  /-- What happens to the state by itself. -/
  env : S → S → Prop
  /-- Whether processes may die between two calls. -/
  crashes : Prop

namespace Machine

variable {M : Machine σ ε ι S}

section Runs

variable [DecidableEq ι]

inductive Fire (M : Machine σ ε ι S) : Pool σ ε ι S → Label σ ε ι → Pool σ ε ι S → Prop
  | spawn {c : Pool σ ε ι S} {i : ι} {p : Prog σ ε Unit} :
      c.procs i = .unused → M.spawn c i p →
      Fire M c (.spawn i p) ⟨c.state, Function.update c.procs i (.running p)⟩
  | call {c : Pool σ ε ι S} {i : ι} {op : σ.Op} {k : Except ε (σ.Ans op) → Prog σ ε Unit}
      {r : Except ε (σ.Ans op)} {s' : S} :
      c.procs i = .running (.call op k) → M.sem i op c.state r s' →
      Fire M c (.call i op r) ⟨s', Function.update c.procs i (.running (k r))⟩
  | crash {c : Pool σ ε ι S} {i : ι} {p : Prog σ ε Unit} :
      M.crashes → c.procs i = .running p →
      Fire M c (.crash i) ⟨c.state, Function.update c.procs i .dead⟩
  | env {c : Pool σ ε ι S} {s' : S} : M.env c.state s' → Fire M c .env ⟨s', c.procs⟩

/-- A side condition on the steps of a run. -/
abbrev Guard (σ : Signature) (ε ι S : Type) := Pool σ ε ι S → Label σ ε ι → Pool σ ε ι S → Prop

/-- The condition every step meets. -/
def anyStep : Guard σ ε ι S := fun _ _ _ => True

def Step (M : Machine σ ε ι S) (g : Guard σ ε ι S) (c c' : Pool σ ε ι S) : Prop :=
  ∃ l, M.Fire c l c' ∧ g c l c'

/-- Runs whose steps all meet `g`. -/
def Steps (M : Machine σ ε ι S) (g : Guard σ ε ι S) : Pool σ ε ι S → Pool σ ε ι S → Prop :=
  Relation.ReflTransGen (M.Step g)

theorem Steps.anyStep {g : Guard σ ε ι S} {c c' : Pool σ ε ι S} (h : M.Steps g c c') :
    M.Steps anyStep c c' :=
  Relation.ReflTransGen.mono (fun _ _ ⟨l, hl, _⟩ => ⟨l, hl, trivial⟩) _ _ h

/-- A process that is between two calls was so before the step, or has just been started. -/
theorem Fire.active {c c' : Pool σ ε ι S} {l : Label σ ε ι} (h : M.Fire c l c') {j : ι}
    (hj : c'.Active j) : c.Active j ∨ ∃ p, l = .spawn j p := by
  obtain ⟨op, k, hj⟩ := hj
  cases h with
  | @spawn i p hu hsp =>
    by_cases hji : j = i
    · subst hji; exact Or.inr ⟨p, rfl⟩
    · exact Or.inl ⟨op, k, by simpa [hji] using hj⟩
  | @call i op' k' r s' hi hsem =>
    by_cases hji : j = i
    · subst hji; exact Or.inl ⟨op', k', hi⟩
    · exact Or.inl ⟨op, k, by simpa [hji] using hj⟩
  | @crash i p hc hi =>
    by_cases hji : j = i
    · subst hji; simp at hj
    · exact Or.inl ⟨op, k, by simpa [hji] using hj⟩
  | env henv => exact Or.inl ⟨op, k, hj⟩

/-- A step of one process leaves the others between their calls. -/
theorem Active.update {c : Pool σ ε ι S} {i j : ι} {x : Proc σ ε} {s : S} (hj : c.Active j)
    (hij : j ≠ i) : Pool.Active ⟨s, Function.update c.procs i x⟩ j := by
  obtain ⟨op, k, h⟩ := hj
  exact ⟨op, k, by simpa [hij] using h⟩

/-- What every step keeps, every run keeps. -/
theorem Steps.induct {g : Guard σ ε ι S} {P : Pool σ ε ι S → Prop} {c c' : Pool σ ε ι S}
    (h : M.Steps g c c') (h0 : P c)
    (hstep : ∀ c₁ l c₂, M.Steps g c c₁ → P c₁ → M.Fire c₁ l c₂ → g c₁ l c₂ → P c₂) : P c' := by
  induction h with
  | refl => exact h0
  | tail hrun hst ih =>
    obtain ⟨l, hl, hg⟩ := hst
    exact hstep _ l _ hrun ih hl hg

theorem update_running {procs : ι → Proc σ ε} {i j : ι} {x : Proc σ ε}
    {p : Prog σ ε Unit} (h : Function.update procs i x j = .running p) :
    (j = i ∧ x = .running p) ∨ (j ≠ i ∧ procs j = .running p) := by
  by_cases hj : j = i
  · subst hj
    exact Or.inl ⟨rfl, by simpa using h⟩
  · exact Or.inr ⟨hj, by simpa [hj] using h⟩

/-- A process that has begun stays begun. -/
theorem update_unused {procs : ι → Proc σ ε} {i j : ι} {x : Proc σ ε} (hx : x ≠ .unused)
    (h : Function.update procs i x j = .unused) : j ≠ i ∧ procs j = .unused := by
  by_cases hj : j = i
  · subst hj
    exact absurd (by simpa using h) hx
  · exact ⟨hj, by simpa [hj] using h⟩

theorem Fire.begun {c c' : Pool σ ε ι S} {l : Label σ ε ι} (h : M.Fire c l c') {j : ι}
    (hj : c.procs j ≠ .unused) : c'.procs j ≠ .unused := by
  intro hu
  cases h with
  | spawn => exact hj (update_unused (by simp) hu).2
  | call => exact hj (update_unused (by simp) hu).2
  | crash => exact hj (update_unused (by simp) hu).2
  | env => exact hj hu

/-- **Programs that only make certain calls** keep what each of these calls keeps. -/
theorem Steps.only {g : Guard σ ε ι S} {P : σ.Op → Prop} {I : S → Prop} {s : S}
    {c : Pool σ ε ι S} (hspawn : ∀ c i p, M.spawn c i p → p.Only P)
    (hcall : ∀ i op s r s', P op → I s → M.sem i op s r s' → I s')
    (henv : ∀ s s', I s → M.env s s' → I s') (h0 : I s)
    (h : M.Steps g (Pool.initial s) c) : I c.state := by
  -- the programs that are left only make such calls either
  have hall : I c.state ∧ ∀ i p, c.procs i = .running p → p.Only P := by
    refine h.induct (P := fun c => I c.state ∧ ∀ i p, c.procs i = .running p → p.Only P)
      ⟨h0, nofun⟩ ?_
    rintro c₁ l c₂ - ⟨hI, honly⟩ hf -
    cases hf with
    | @spawn i p hu hsp =>
      refine ⟨hI, fun j q hj => ?_⟩
      rcases update_running hj with ⟨-, hp⟩ | ⟨-, hp⟩
      · cases hp
        exact hspawn c₁ i p hsp
      · exact honly j q hp
    | @call i op k r s' hi hsem =>
      obtain ⟨hop, hk⟩ := honly i _ hi
      refine ⟨hcall i op _ r s' hop hI hsem, fun j q hj => ?_⟩
      rcases update_running hj with ⟨-, hp⟩ | ⟨-, hp⟩
      · exact Proc.running.inj hp ▸ hk r
      · exact honly j q hp
    | @crash i p hc hi =>
      refine ⟨hI, fun j q hj => ?_⟩
      rcases update_running hj with ⟨-, hp⟩ | ⟨-, hp⟩
      · cases hp
      · exact honly j q hp
    | env henv' => exact ⟨henv _ _ hI henv', honly⟩
  exact hall.1

end Runs

/-! ## rely and guarantee -/

/-- The rely and guarantee data of a machine, one line for each process identifier. -/
structure Discipline (σ : Signature) (ε ι S : Type) where
  inv : S → Prop
  rely : ι → Rely S
  guar : ι → σ.Op → S → S → Prop
  /-- The answers reckoned with; a guard on the steps may exclude some. -/
  sem : ι → (op : σ.Op) → S → Except ε (σ.Ans op) → S → Prop
  /-- What holds of the state as long as identifier `i` has not been used. -/
  fresh : ι → S → Prop
  post : ι → Except ε Unit → S → Prop

def Discipline.contract (D : Discipline σ ε ι S) (i : ι) : Contract σ ε S where
  sem := D.sem i
  inv := D.inv
  rely := D.rely i
  guar := D.guar i

variable {D : Discipline σ ε ι S} {g : Guard σ ε ι S} {c c₀ c' : Pool σ ε ι S}

/-- The state of affairs that rely and guarantee maintain. -/
structure Ok (D : Discipline σ ε ι S) (c : Pool σ ε ι S) : Prop where
  inv : D.inv c.state
  safe : ∀ i op k, c.procs i = .running (.call op k) →
    (Prog.call op k).Safe (D.contract i) (D.post i) c.state
  fresh : ∀ i, c.procs i = .unused → D.fresh i c.state

/--
The proof obligations. `excl` is a property of all pools reached that is known beforehand, such
as mutual exclusion; two processes have to be compatible only where it lets both be active.
-/
structure Sound (M : Machine σ ε ι S) (g : Guard σ ε ι S) (D : Discipline σ ε ι S)
    (excl : Pool σ ε ι S → Prop) : Prop where
  sem : ∀ {c i op r s' procs'}, M.sem i op c.state r s' → g c (.call i op r) ⟨s', procs'⟩ →
    D.sem i op c.state r s'
  spawn : ∀ {c i p}, M.spawn c i p → D.inv c.state → D.fresh i c.state →
    p.Safe (D.contract i) (D.post i) c.state
  compat : ∀ {c i j op s'}, excl c → c.Active i → c.Active j → i ≠ j → D.inv c.state → D.inv s' →
    D.guar i op c.state s' → (D.rely j).rel c.state s'
  freshStable : ∀ {i j op s s'}, i ≠ j → D.inv s → D.guar i op s s' → D.fresh j s → D.fresh j s'
  env : ∀ {s s'}, M.env s s' → D.inv s →
    D.inv s' ∧ (∀ j, (D.rely j).rel s s') ∧ ∀ j, D.fresh j s → D.fresh j s'

/-- What one call does under the discipline: the promise, the invariant, and the rest is safe. -/
theorem Ok.fire {excl : Pool σ ε ι S → Prop} (hD : M.Sound g D excl) (hok : Ok D c) {i : ι}
    {op : σ.Op} {k : Except ε (σ.Ans op) → Prog σ ε Unit} {r : Except ε (σ.Ans op)} {s' : S}
    {procs' : ι → Proc σ ε} (hi : c.procs i = .running (.call op k))
    (hsem : M.sem i op c.state r s') (hg : g c (.call i op r) ⟨s', procs'⟩) :
    (D.guar i op c.state s' ∧ D.inv s') ∧ (k r).Safe (D.contract i) (D.post i) s' :=
  hok.safe i op k hi c.state ((D.rely i).refl _) hok.inv r s' (hD.sem hsem hg)

theorem Ok.initial {s : S} (hinv : D.inv s) (hfresh : ∀ i, D.fresh i s) :
    Ok D (Pool.initial s) :=
  ⟨hinv, fun _ _ _ h => (by cases h), fun i _ => hfresh i⟩

/-- Other programs may be started, if they are safe as well. -/
theorem Sound.respawn {excl : Pool σ ε ι S → Prop} (hD : M.Sound g D excl)
    {spawn : Pool σ ε ι S → ι → Prog σ ε Unit → Prop}
    (hspawn : ∀ {c i p}, spawn c i p → D.inv c.state → D.fresh i c.state →
      p.Safe (D.contract i) (D.post i) c.state) :
    { M with spawn := spawn }.Sound g D excl where
  sem := hD.sem
  spawn := hspawn
  compat := hD.compat
  freshStable := hD.freshStable
  env := hD.env

/-- A further promise and a further outcome for each process. -/
def Discipline.both (D : Discipline σ ε ι S) (guar : ι → σ.Op → S → S → Prop)
    (post : ι → Except ε Unit → S → Prop) : Discipline σ ε ι S :=
  { D with
    guar := fun i op s s' => D.guar i op s s' ∧ guar i op s s'
    post := fun i out s => D.post i out s ∧ post i out s }

/-- It is enough to prove the further promise of programs that are known to keep the first. -/
theorem Sound.both {excl : Pool σ ε ι S → Prop} (hD : M.Sound g D excl)
    {guar : ι → σ.Op → S → S → Prop} {post : ι → Except ε Unit → S → Prop}
    (hspawn : ∀ {c i p}, M.spawn c i p → D.inv c.state → D.fresh i c.state →
      p.Safe ((D.contract i).layer (guar i)) (post i) c.state) :
    M.Sound g (D.both guar post) excl where
  sem := hD.sem
  spawn hsp hinv hfresh := (hD.spawn hsp hinv hfresh).layer (hspawn hsp hinv hfresh)
  compat hx hi hj hij hinv hinv' hguar := hD.compat hx hi hj hij hinv hinv' hguar.1
  freshStable hij hinv hguar hfresh := hD.freshStable hij hinv hguar.1 hfresh
  env := hD.env

variable [DecidableEq ι]

/-- **One step keeps the state of affairs.** -/
theorem Ok.step {excl : Pool σ ε ι S → Prop} (hD : M.Sound g D excl) (hx : excl c) (hok : Ok D c)
    {l : Label σ ε ι} (hf : M.Fire c l c') (hg : g c l c') : Ok D c' := by
  cases hf with
  | @spawn i p hu hsp =>
    refine ⟨hok.inv, ?_, ?_⟩
    · intro j op k hj
      rcases update_running hj with ⟨rfl, hp⟩ | ⟨-, hp⟩
      · cases hp
        exact hD.spawn (c := c) hsp hok.inv (hok.fresh j hu)
      · exact hok.safe j op k hp
    · intro j hj
      exact hok.fresh j (update_unused (by simp) hj).2
  | @call i op k r s' hi hsem =>
    obtain ⟨⟨hguar, hinv⟩, hk⟩ := hok.fire hD hi hsem hg
    refine ⟨hinv, ?_, ?_⟩
    · intro j op' k' hj
      rcases update_running hj with ⟨rfl, hp⟩ | ⟨hji, hp⟩
      · rw [Proc.running.injEq] at hp
        rw [← hp]
        exact hk
      · -- what `i` promises is among what `j` relies on
        exact (hok.safe j op' k' hp).stable
          (hD.compat hx ⟨op, k, hi⟩ ⟨op', k', hp⟩ (Ne.symm hji) hok.inv hinv hguar)
    · intro j hj
      obtain ⟨hji, hu⟩ := update_unused (by simp) hj
      exact hD.freshStable (Ne.symm hji) hok.inv hguar (hok.fresh j hu)
  | @crash i p hc hi =>
    refine ⟨hok.inv, ?_, ?_⟩
    · intro j op k hj
      rcases update_running hj with ⟨-, hp⟩ | ⟨-, hp⟩
      · simp at hp
      · exact hok.safe j op k hp
    · intro j hj
      exact hok.fresh j (update_unused (by simp) hj).2
  | env henv =>
    obtain ⟨hinv, hrely, hfresh⟩ := hD.env henv hok.inv
    exact ⟨hinv, fun j op k hj => (hok.safe j op k hj).stable (hrely j),
      fun j hj => hfresh j (hok.fresh j hj)⟩

/-- **Every pool a run reaches is in order.** -/
theorem Sound.ok {excl : Pool σ ε ι S → Prop} (hD : M.Sound g D excl)
    (hx : ∀ c, M.Steps g c₀ c → excl c) (h0 : Ok D c₀) (h : M.Steps g c₀ c) : Ok D c :=
  h.induct h0 fun c₁ _ _ hrun hok hf hg => hok.step hD (hx c₁ hrun) hf hg

/-- **Every call of a run keeps its promise.** -/
theorem Sound.call {excl : Pool σ ε ι S → Prop} (hD : M.Sound g D excl)
    (hx : ∀ c, M.Steps g c₀ c → excl c) (h0 : Ok D c₀) (h : M.Steps g c₀ c)
    {i : ι} {op : σ.Op} {r : Except ε (σ.Ans op)} (hf : M.Fire c (.call i op r) c')
    (hg : g c (.call i op r) c') : D.guar i op c.state c'.state := by
  cases hf with
  | call hi hsem => exact ((hD.ok hx h0 h).fire hD hi hsem hg).1.1

/-- What a discipline that is kept says about a step. -/
def Discipline.keeps (D : Discipline σ ε ι S) : Guard σ ε ι S := fun c l c' =>
  D.inv c.state ∧
    match l with
    | .call i op _ => D.guar i op c.state c'.state
    | _ => True

/-- The steps of a run keep a discipline that is kept. -/
theorem Sound.keeps {excl : Pool σ ε ι S → Prop} (hD : M.Sound g D excl)
    (hx : ∀ c, M.Steps g c₀ c → excl c) (h0 : Ok D c₀) (h : M.Steps g c₀ c) {l : Label σ ε ι}
    (hf : M.Fire c l c') (hg : g c l c') : D.keeps c l c' := by
  refine ⟨(hD.ok hx h0 h).inv, ?_⟩
  cases l with
  | call i op r => exact hD.call hx h0 h hf hg
  | _ => trivial

/-- **Layers.** Once a discipline is known to be kept, the proof of another one may count on it:
a run is also a run of steps that keep the first. -/
theorem Sound.layer {excl : Pool σ ε ι S → Prop} (hD : M.Sound g D excl)
    (hx : ∀ c, M.Steps g c₀ c → excl c) (h0 : Ok D c₀) (h : M.Steps g c₀ c) :
    M.Steps (fun c l c' => g c l c' ∧ D.keeps c l c') c₀ c :=
  h.induct Relation.ReflTransGen.refl fun _ l _ hrun ih hf hg =>
    ih.tail ⟨l, hf, hg, hD.keeps hx h0 hrun hf hg⟩

/-! ## scripts -/

/-- An instruction of a script that drives a run. -/
inductive Move (σ : Signature) (ε ι S : Type)
  | spawn (i : ι) (p : Prog σ ε Unit)
  /-- Process `i` makes its next `n` calls. -/
  | turn (i : ι) (n : Nat)
  | crash (i : ι)
  | env (f : S → S)

section Scripts

variable (h : ι → (op : σ.Op) → S → Except ε (σ.Ans op) × S)

/-- Process `i` makes its next call, if it has one. -/
def next (i : ι) (c : Pool σ ε ι S) : Pool σ ε ι S :=
  match c.procs i with
  | .running (.call op k) =>
    ⟨(h i op c.state).2, Function.update c.procs i (.running (k (h i op c.state).1))⟩
  | _ => c

def turn (i : ι) : Nat → Pool σ ε ι S → Pool σ ε ι S
  | 0, c => c
  | n + 1, c => turn i n (next h i c)

def Move.apply : Move σ ε ι S → Pool σ ε ι S → Pool σ ε ι S
  | spawn i p, c => ⟨c.state, Function.update c.procs i (.running p)⟩
  | turn i n, c => Machine.turn h i n c
  | crash i, c => ⟨c.state, Function.update c.procs i .dead⟩
  | env f, c => ⟨f c.state, c.procs⟩

def play : List (Move σ ε ι S) → Pool σ ε ι S → Pool σ ε ι S
  | [], c => c
  | m :: ms, c => play ms (m.apply h c)

variable (M : Machine σ ε ι S) (g : Guard σ ε ι S)

/-- The guard lets the next `n` calls of process `i` happen. -/
def TurnAllowed (i : ι) : Nat → Pool σ ε ι S → Prop
  | 0, _ => True
  | n + 1, c =>
    (match c.procs i with
      | .running (.call op _) => g c (.call i op (h i op c.state).1) (next h i c)
      | _ => True) ∧ TurnAllowed i n (next h i c)

/-- The machine and the guard let the instruction happen. -/
def Move.Allowed (m : Move σ ε ι S) (c : Pool σ ε ι S) : Prop :=
  match m with
  | spawn i p => (c.procs i = .unused ∧ M.spawn c i p) ∧ g c (.spawn i p) (m.apply h c)
  | turn i n => TurnAllowed h g i n c
  | crash i => (M.crashes ∧ ∃ p, c.procs i = .running p) ∧ g c (.crash i) (m.apply h c)
  | env f => M.env c.state (f c.state) ∧ g c .env (m.apply h c)

def AllAllowed : List (Move σ ε ι S) → Pool σ ε ι S → Prop
  | [], _ => True
  | m :: ms, c => m.Allowed h M g c ∧ AllAllowed ms (m.apply h c)

variable {h M g}

theorem turnAllowed_anyStep (i : ι) (n : Nat) (c : Pool σ ε ι S) :
    TurnAllowed h Machine.anyStep i n c := by
  induction n generalizing c with
  | zero => trivial
  | succ n ih =>
    refine ⟨?_, ih _⟩
    split <;> trivial

/-- The next call of a process is a step. -/
theorem Fire.next (hh : ∀ i op s, M.sem i op s (h i op s).1 (h i op s).2) {c : Pool σ ε ι S} {i : ι}
    {op : σ.Op} {k : Except ε (σ.Ans op) → Prog σ ε Unit}
    (hi : c.procs i = .running (.call op k)) :
    M.Fire c (.call i op (h i op c.state).1) (Machine.next h i c) := by
  rw [Machine.next, hi]
  exact Fire.call hi (hh i op _)

theorem Steps.turn (hh : ∀ i op s, M.sem i op s (h i op s).1 (h i op s).2) (i : ι) (n : Nat)
    {c : Pool σ ε ι S} (hc : TurnAllowed h g i n c) : M.Steps g c (Machine.turn h i n c) := by
  induction n generalizing c with
  | zero => exact Relation.ReflTransGen.refl
  | succ n ih =>
    obtain ⟨hg, hrest⟩ := hc
    refine Relation.ReflTransGen.trans ?_ (ih hrest)
    -- a process without a next call does nothing in its turn
    cases hi : c.procs i with
    | unused => rw [next, hi]
    | dead => rw [next, hi]
    | running p =>
      cases p with
      | ret a => rw [next, hi]
      | raise e => rw [next, hi]
      | call op k =>
        rw [hi] at hg
        exact Relation.ReflTransGen.single ⟨_, Fire.next hh hi, hg⟩

/-- **A script is a run**, if the answers of its handlers are among those the machine allows. -/
theorem Steps.play (hh : ∀ i op s, M.sem i op s (h i op s).1 (h i op s).2)
    (ms : List (Move σ ε ι S)) (c : Pool σ ε ι S) (hms : AllAllowed h M g ms c) :
    M.Steps g c (Machine.play h ms c) := by
  induction ms generalizing c with
  | nil => exact Relation.ReflTransGen.refl
  | cons m ms ih =>
    obtain ⟨hm, hrest⟩ := hms
    refine Relation.ReflTransGen.trans ?_ (ih _ hrest)
    cases m with
    | spawn i p => exact Relation.ReflTransGen.single ⟨_, Fire.spawn hm.1.1 hm.1.2, hm.2⟩
    | turn i n => exact Steps.turn hh i n hm
    | crash i =>
      obtain ⟨⟨hc, p, hi⟩, hg⟩ := hm
      exact Relation.ReflTransGen.single ⟨_, Fire.crash hc hi, hg⟩
    | env f => exact Relation.ReflTransGen.single ⟨_, Fire.env hm.1, hm.2⟩

end Scripts

end Machine

end Lib
