import Sentinel.Lib.Machine

/-!
# Two programs in step

The same program over two ports, of which one shows more of the machinery. Their calls correspond
one to one, and so do the answers. If the state of one port shows the state of the other, the
programs go through corresponding runs, alone or among others.

* `Link` — which calls correspond, and which answers to them
* `Prog.Lockstep` — two programs that make corresponding calls, whatever is answered
* `Lockstep.exec`, `Lockstep.evals` — they come to corresponding ends
* `Machine.Refines.steps` — a machine of the one kind does what a machine of the other kind can do
-/

namespace Lib

structure Link (σ τ : Signature) (ε : Type) where
  ops : σ.Op → τ.Op → Prop
  answers : (o : σ.Op) → (o' : τ.Op) → Except ε (σ.Ans o) → Except ε (τ.Ans o') → Prop

variable {σ τ : Signature} {ε α β γ δ S T ι : Type}

/-- The same correspondence, read from the other side. -/
def Link.flip (L : Link σ τ ε) : Link τ σ ε where
  ops := fun o o' => L.ops o' o
  answers := fun o o' r r' => L.answers o' o r' r

/-- Two outcomes with the same exception, or with values that correspond. -/
inductive Agree (Q : α → β → Prop) : Except ε α → Except ε β → Prop
  | ok {a : α} {b : β} : Q a b → Agree Q (.ok a) (.ok b)
  | error (e : ε) : Agree Q (.error e) (.error e)

namespace Prog

def Lockstep (L : Link σ τ ε) (Q : α → β → Prop) : Prog σ ε α → Prog τ ε β → Prop
  | ret a, ret b => Q a b
  | raise e, raise e' => e = e'
  | call o k, call o' k' => L.ops o o' ∧ ∀ r r', L.answers o o' r r' → Lockstep L Q (k r) (k' r')
  | _, _ => False

namespace Lockstep

variable {L : Link σ τ ε} {Q : α → β → Prop}

theorem mono {Q' : α → β → Prop} (hQ : ∀ a b, Q a b → Q' a b) {p : Prog σ ε α} {q : Prog τ ε β}
    (h : Lockstep L Q p q) : Lockstep L Q' p q := by
  induction p generalizing q with
  | ret a =>
    cases q with
    | ret b => exact hQ a b h
    | _ => exact h
  | raise e => cases q <;> exact h
  | call o k ih =>
    cases q with
    | call o' k' => exact ⟨h.1, fun r r' hr => ih r (h.2 r r' hr)⟩
    | _ => exact h

theorem bind {R : γ → δ → Prop} {p : Prog σ ε α} {q : Prog τ ε β} {f : α → Prog σ ε γ}
    {g : β → Prog τ ε δ} (h : Lockstep L Q p q) (hfg : ∀ a b, Q a b → Lockstep L R (f a) (g b)) :
    Lockstep L R (p >>= f) (q >>= g) := by
  induction p generalizing q with
  | ret a =>
    cases q with
    | ret b => exact hfg a b h
    | _ => exact h.elim
  | raise e =>
    cases q with
    | raise e' => exact h
    | _ => exact h.elim
  | call o k ih =>
    cases q with
    | call o' k' => exact ⟨h.1, fun r r' hr => ih r (h.2 r r' hr)⟩
    | _ => exact h.elim

theorem perform {o : σ.Op} {o' : τ.Op} {Q : σ.Ans o → τ.Ans o' → Prop} (hops : L.ops o o')
    (hanswers : ∀ r r', L.answers o o' r r' → Agree Q r r') :
    Lockstep L Q (Prog.perform o) (Prog.perform o') := by
  refine ⟨hops, fun r r' hr => ?_⟩
  cases hanswers r r' hr with
  | ok h => exact h
  | error e => rfl

theorem lift {x : Except ε α} {y : Except ε β} (h : Agree Q x y) :
    Lockstep L Q (Prog.lift x) (Prog.lift y) := by
  cases h with
  | ok h => exact h
  | error e => rfl

theorem handle {p : Prog σ ε α} {q : Prog τ ε β} {f : ε → Prog σ ε α} {g : ε → Prog τ ε β}
    (h : Lockstep L Q p q) (hfg : ∀ e, Lockstep L Q (f e) (g e)) :
    Lockstep L Q (p.handle f) (q.handle g) := by
  induction p generalizing q with
  | ret a =>
    cases q with
    | ret b => exact h
    | _ => exact h.elim
  | raise e =>
    cases q with
    | raise e' =>
      cases h
      exact hfg e
    | _ => exact h.elim
  | call o k ih =>
    cases q with
    | call o' k' => exact ⟨h.1, fun r r' hr => ih r (h.2 r r' hr)⟩
    | _ => exact h.elim

theorem flip {p : Prog σ ε α} {q : Prog τ ε β} (h : Lockstep L Q p q) :
    Lockstep L.flip (fun b a => Q a b) q p := by
  induction p generalizing q with
  | ret a => cases q <;> exact h
  | raise e =>
    cases q with
    | raise e' => exact Eq.symm h
    | _ => exact h
  | call o k ih =>
    cases q with
    | call o' k' => exact ⟨h.1, fun r' r hr => ih r (h.2 r r' hr)⟩
    | _ => exact h

/-- A run to the end of the one is a run to the end of the other. -/
theorem evals {R : S → T → Prop} {sem : (o : σ.Op) → S → Except ε (σ.Ans o) → S → Prop}
    {sem' : (o : τ.Op) → T → Except ε (τ.Ans o) → T → Prop}
    (hsem : ∀ o o' s r s' t, L.ops o o' → R s t → sem o s r s' →
      ∃ r' t', sem' o' t r' t' ∧ L.answers o o' r r' ∧ R s' t')
    {p : Prog σ ε α} {q : Prog τ ε β} (hpq : Lockstep L Q p q) {s s' : S} {t : T} (hst : R s t)
    {out : Except ε α} (h : Evals sem p s out s') :
    ∃ out' t', Evals sem' q t out' t' ∧ Agree Q out out' ∧ R s' t' := by
  induction h generalizing q t with
  | ret a s =>
    cases q with
    | ret b => exact ⟨_, _, Evals.ret b t, .ok hpq, hst⟩
    | _ => exact hpq.elim
  | raise e s =>
    cases q with
    | raise e' =>
      cases hpq
      exact ⟨_, _, Evals.raise e t, .error e, hst⟩
    | _ => exact hpq.elim
  | @call o k s s' s'' r out hop _ ih =>
    cases q with
    | call o' k' =>
      obtain ⟨r', t', hop', hr, hst'⟩ := hsem o o' s r s' t hpq.1 hst hop
      obtain ⟨out', t'', hrest, hout, hend⟩ := ih (hpq.2 r r' hr) hst'
      exact ⟨out', t'', Evals.call hop' hrest, hout, hend⟩
    | _ => exact hpq.elim

/-- Against handlers whose answers to the calls it makes keep two states in correspondence, the
ends correspond. -/
theorem exec {R : S → T → Prop} {P : τ.Op → Prop} {h : (o : σ.Op) → S → Except ε (σ.Ans o) × S}
    {h' : (o : τ.Op) → T → Except ε (τ.Ans o) × T}
    (hstep : ∀ o o' s t, P o' → L.ops o o' → R s t →
      L.answers o o' (h o s).1 (h' o' t).1 ∧ R (h o s).2 (h' o' t).2)
    {p : Prog σ ε α} {q : Prog τ ε β} (hpq : Lockstep L Q p q) (hq : q.Only P) {s : S} {t : T}
    (hst : R s t) :
    Agree Q (p.exec h s).1 (q.exec h' t).1 ∧ R (p.exec h s).2 (q.exec h' t).2 := by
  induction p generalizing q s t with
  | ret a =>
    cases q with
    | ret b => exact ⟨.ok hpq, hst⟩
    | _ => exact hpq.elim
  | raise e =>
    cases q with
    | raise e' =>
      cases hpq
      exact ⟨.error e, hst⟩
    | _ => exact hpq.elim
  | call o k ih =>
    cases q with
    | call o' k' =>
      obtain ⟨hr, hst'⟩ := hstep o o' s t hq.1 hpq.1 hst
      exact ih _ (hpq.2 _ _ hr) (hq.2 _) hst'
    | _ => exact hpq.elim

end Lockstep

end Prog

/-- Two processes at the same point of their lives. -/
inductive Proc.InStep (L : Link σ τ ε) : Proc σ ε → Proc τ ε → Prop
  | unused : InStep L .unused .unused
  | running {p : Prog σ ε Unit} {q : Prog τ ε Unit} :
      p.Lockstep L (fun _ _ => True) q → InStep L (.running p) (.running q)
  | dead : InStep L .dead .dead

structure Pool.InStep (L : Link σ τ ε) (R : S → T → Prop) (c : Pool σ ε ι S) (d : Pool τ ε ι T) :
    Prop where
  state : R c.state d.state
  procs : ∀ i, (c.procs i).InStep L (d.procs i)

theorem Pool.initial_inStep {L : Link σ τ ε} {R : S → T → Prop} {s : S} {t : T} (h : R s t) :
    (Pool.initial s : Pool σ ε ι S).InStep L R (Pool.initial t) :=
  ⟨h, fun _ => .unused⟩

namespace Machine

/-- What a machine has to do with the machine it refines, in steps that meet a guard. -/
structure Refines (M : Machine σ ε ι S) (N : Machine τ ε ι T) (g : Guard σ ε ι S)
    (L : Link σ τ ε) (R : S → T → Prop) : Prop where
  call : ∀ {c i o r s' procs' o' t}, M.sem i o c.state r s' → g c (.call i o r) ⟨s', procs'⟩ →
    L.ops o o' → R c.state t → ∃ r' t', N.sem i o' t r' t' ∧ L.answers o o' r r' ∧ R s' t'
  spawn : ∀ {c d i p}, Pool.InStep L R c d → M.spawn c i p →
    ∃ q, N.spawn d i q ∧ p.Lockstep L (fun _ _ => True) q
  env : ∀ {s s' t}, R s t → M.env s s' → ∃ t', N.env t t' ∧ R s' t'
  crashes : M.crashes → N.crashes

variable {M : Machine σ ε ι S} {N : Machine τ ε ι T} {g : Guard σ ε ι S} {L : Link σ τ ε}
  {R : S → T → Prop} [DecidableEq ι]

theorem inStep_update {procs : ι → Proc σ ε} {procs' : ι → Proc τ ε}
    (h : ∀ i, (procs i).InStep L (procs' i)) {i : ι} {x : Proc σ ε} {y : Proc τ ε}
    (hxy : x.InStep L y) (j : ι) :
    (Function.update procs i x j).InStep L (Function.update procs' i y j) := by
  by_cases hj : j = i
  · subst hj
    simpa using hxy
  · simpa [hj] using h j

/-- **Each step is a step of the machine that is refined.** -/
theorem Refines.step (hM : M.Refines N g L R) {c c' : Pool σ ε ι S} {d : Pool τ ε ι T}
    (h : c.InStep L R d) {l : Label σ ε ι} (hf : M.Fire c l c') (hg : g c l c') :
    ∃ d', N.Step anyStep d d' ∧ c'.InStep L R d' := by
  cases hf with
  | @spawn i p hu hsp =>
    obtain ⟨q, hspawn, hpq⟩ := hM.spawn h hsp
    have hu' : d.procs i = .unused := by
      have := h.procs i
      rw [hu] at this
      generalize d.procs i = y at this
      cases this
      rfl
    exact ⟨_, ⟨_, Fire.spawn hu' hspawn, trivial⟩, h.state, inStep_update h.procs (.running hpq)⟩
  | @call i o k r s' hi hsem =>
    have hproc := h.procs i
    rw [hi] at hproc
    obtain ⟨q, hq, hpq⟩ : ∃ q, d.procs i = .running q ∧
        (Prog.call o k).Lockstep L (fun _ _ => True) q := by
      generalize d.procs i = y at hproc
      cases hproc with
      | running hpq => exact ⟨_, rfl, hpq⟩
    cases q with
    | call o' k' =>
      obtain ⟨r', t', hsem', hr, hst⟩ := hM.call hsem hg hpq.1 h.state
      exact ⟨_, ⟨_, Fire.call hq hsem', trivial⟩, hst,
        inStep_update h.procs (.running (hpq.2 r r' hr))⟩
    | _ => exact hpq.elim
  | @crash i p hc hi =>
    have hproc := h.procs i
    rw [hi] at hproc
    obtain ⟨q, hq⟩ : ∃ q, d.procs i = .running q := by
      generalize d.procs i = y at hproc
      cases hproc
      exact ⟨_, rfl⟩
    exact ⟨_, ⟨_, Fire.crash (hM.crashes hc) hq, trivial⟩, h.state,
      inStep_update h.procs .dead⟩
  | env henv =>
    obtain ⟨t', henv', hst⟩ := hM.env h.state henv
    exact ⟨_, ⟨_, Fire.env henv', trivial⟩, hst, h.procs⟩

/-- **And each run is a run.** -/
theorem Refines.steps (hM : M.Refines N g L R) {c c' : Pool σ ε ι S} {d : Pool τ ε ι T}
    (h : c.InStep L R d) (hrun : M.Steps g c c') :
    ∃ d', N.Steps anyStep d d' ∧ c'.InStep L R d' := by
  refine hrun.induct (P := fun c' => ∃ d', N.Steps anyStep d d' ∧ c'.InStep L R d')
    ⟨d, Relation.ReflTransGen.refl, h⟩ ?_
  rintro c₁ l c₂ - ⟨d₁, hd, h₁⟩ hf hg
  obtain ⟨d₂, hstep, h₂⟩ := hM.step h₁ hf hg
  exact ⟨d₂, hd.tail hstep, h₂⟩

end Machine

end Lib
