import Sentinel.Lib.Machine

/-!
# Auxiliary variables

A machine with a variable that its calls set and that nothing reads. Statements about a run may
use it where the state alone does not say enough, for instance who has been given what.

* `Machine.withGhost` — the machine with the variable
* `Annotated` — a run that is known to keep a discipline, with the value of the variable at its end
* `Sound.annotated` — every run of a sound machine goes on as one
-/

namespace Lib

variable {σ : Signature} {ε ι S G : Type}

/-- The pool together with a value of the variable. -/
def Pool.withGhost (c : Pool σ ε ι S) (γ : G) : Pool σ ε ι (S × G) := ⟨(c.state, γ), c.procs⟩

/-- The pool without the variable. -/
def Pool.erase (c : Pool σ ε ι (S × G)) : Pool σ ε ι S := ⟨c.state.1, c.procs⟩

namespace Machine

/-- How the variable changes at a call of process `i`. -/
abbrev GhostUpdate (σ : Signature) (ε ι G : Type) :=
  ι → (op : σ.Op) → Except ε (σ.Ans op) → G → G

def withGhost (M : Machine σ ε ι S) (f : GhostUpdate σ ε ι G) : Machine σ ε ι (S × G) where
  sem i op s r s' := M.sem i op s.1 r s'.1 ∧ s'.2 = f i op r s.2
  spawn c i p := M.spawn c.erase i p
  env s s' := M.env s.1 s'.1 ∧ s'.2 = s.2
  crashes := M.crashes

/-- The variable after a step. -/
def ghostAfter (f : GhostUpdate σ ε ι G) (γ : G) : Label σ ε ι → G
  | .call i op r => f i op r γ
  | _ => γ

/-- The same condition on the steps, whatever the variable is. -/
def erased (g : Guard σ ε ι S) : Guard σ ε ι (S × G) := fun c l c' => g c.erase l c'.erase

variable [DecidableEq ι] {M : Machine σ ε ι S} {f : GhostUpdate σ ε ι G} {g : Guard σ ε ι S}
  {c c' : Pool σ ε ι S}

theorem Fire.withGhost {l : Label σ ε ι} (h : M.Fire c l c') (γ : G) :
    (M.withGhost f).Fire (c.withGhost γ) l (c'.withGhost (ghostAfter f γ l)) := by
  cases h with
  | spawn hu hsp => exact Fire.spawn (M := M.withGhost f) hu hsp
  | @call i op k r s' hi hsem =>
    have hsem' : (M.withGhost f).sem i op (c.state, γ) r (s', f i op r γ) := ⟨hsem, rfl⟩
    exact Fire.call hi hsem'
  | crash hc hi => exact Fire.crash (M := M.withGhost f) hc hi
  | @env s' henv =>
    have henv' : (M.withGhost f).env (c.state, γ) (s', γ) := ⟨henv, rfl⟩
    exact Fire.env henv'

/-! ## runs that keep a discipline -/

section Annotated

variable {D : Discipline σ ε ι S} {excl : Pool σ ε ι S → Prop} {c₀ : Pool σ ε ι S} {γ₀ γ : G}

/-- The variable, which was `γ₀` in `c₀`, may be `γ` in `c`; the steps on the way keep `D`. -/
def Annotated (M : Machine σ ε ι S) (f : GhostUpdate σ ε ι G) (g : Guard σ ε ι S)
    (D : Discipline σ ε ι S) (c₀ : Pool σ ε ι S) (γ₀ : G) (c : Pool σ ε ι S) (γ : G) : Prop :=
  (M.withGhost f).Steps (erased fun c l c' => g c l c' ∧ D.keeps c l c') (c₀.withGhost γ₀)
    (c.withGhost γ)

theorem Annotated.refl (c₀ : Pool σ ε ι S) (γ₀ : G) : Annotated M f g D c₀ γ₀ c₀ γ₀ :=
  Relation.ReflTransGen.refl

/-- A step that keeps the discipline. -/
theorem Annotated.tail (h : Annotated M f g D c₀ γ₀ c γ) {l : Label σ ε ι} (hf : M.Fire c l c')
    (hg : g c l c') (hkeeps : D.keeps c l c') :
    Annotated M f g D c₀ γ₀ c' (ghostAfter f γ l) :=
  Relation.ReflTransGen.tail h ⟨l, hf.withGhost γ, hg, hkeeps⟩

/-- **A run goes on** from any value of the variable, with what every step keeps. -/
theorem Sound.annotated (hD : M.Sound g D excl) (hx : ∀ c, M.Steps g c₀ c → excl c) (h0 : Ok D c₀)
    {P : Pool σ ε ι S → G → Prop}
    (hstep : ∀ c₁ γ₁ l c₂, M.Steps g c₀ c₁ → Annotated M f g D c₀ γ₀ c₁ γ₁ → P c₁ γ₁ →
      M.Fire c₁ l c₂ → P c₂ (ghostAfter f γ₁ l))
    (h : M.Steps g c₀ c) (hγ : Annotated M f g D c₀ γ₀ c γ) (hP : P c γ) (h' : M.Steps g c c') :
    ∃ γ', Annotated M f g D c₀ γ₀ c' γ' ∧ P c' γ' := by
  refine h'.induct (P := fun c' => ∃ γ', Annotated M f g D c₀ γ₀ c' γ' ∧ P c' γ') ⟨γ, hγ, hP⟩ ?_
  rintro c₁ l c₂ hrun ⟨γ₁, hγ₁, hP₁⟩ hf hg
  have hrun₁ : M.Steps g c₀ c₁ := h.trans hrun
  exact ⟨_, hγ₁.tail hf hg (hD.keeps hx h0 hrun₁ hf hg), hstep c₁ γ₁ l c₂ hrun₁ hγ₁ hP₁ hf⟩

end Annotated

end Machine

end Lib
