import Sentinel.Lib.RelyGuarantee

/-!
# Programs that lose no exception

A program without a handler ends with an exception as soon as one of its calls raises, or is
answered something that it rejects. Seen the other way round: where it returns, all its calls have
returned, and nothing else that they might have done matters.

* `Raises`, `Strict` — the program ends with an exception; it loses none
* `Strict.bind`, `Strict.ensuring`, `Strict.forM`, `Strict.foldlM` — the rules
* `Strict.evals` — a run that returns depends on the calls that return
-/

namespace Lib.Prog

variable {σ : Signature} {ε α β γ S : Type}

/-- However it goes on, the program ends with an exception. -/
def Raises : Prog σ ε α → Prop
  | ret _ => False
  | raise _ => True
  | call _ k => ∀ r, (k r).Raises

/-- An exception of a call, or an answer that is not accepted, ends the program with one. -/
def Strict (accepted : (op : σ.Op) → σ.Ans op → Prop) : Prog σ ε α → Prop
  | ret _ => True
  | raise _ => True
  | call op k => (∀ e, (k (.error e)).Raises) ∧
      ∀ a, (accepted op a → (k (.ok a)).Strict accepted) ∧ (¬accepted op a → (k (.ok a)).Raises)

variable {accepted : (op : σ.Op) → σ.Ans op → Prop}

theorem Raises.bind {p : Prog σ ε α} (hp : p.Raises) (f : α → Prog σ ε β) :
    (p >>= f).Raises := by
  induction p with
  | ret a => exact hp.elim
  | raise e => trivial
  | call op k ih => exact fun r => ih r (hp r)

theorem raises_bind (p : Prog σ ε α) {f : α → Prog σ ε β} (hf : ∀ a, (f a).Raises) :
    (p >>= f).Raises := by
  induction p with
  | ret a => exact hf a
  | raise e => trivial
  | call op k ih => exact ih

theorem Raises.ensuring {p : Prog σ ε α} (hp : p.Raises) (c : Prog σ ε Unit) :
    (p.ensuring c).Raises := by
  induction p with
  | ret a => exact hp.elim
  | raise e => exact raises_bind c fun _ => trivial
  | call op k ih => exact fun r => ih r (hp r)

theorem Raises.not_evals {sem : (op : σ.Op) → S → Except ε (σ.Ans op) → S → Prop}
    {p : Prog σ ε α} (hp : p.Raises) {s s' : S} {a : α} : ¬Evals sem p s (.ok a) s' := by
  induction p generalizing s with
  | ret b => exact hp.elim
  | raise e => exact nofun
  | call op k ih =>
    intro h
    cases h with
    | @call _ _ _ _ _ r _ _ hrest => exact ih r (hp r) hrest

theorem Strict.bind {p : Prog σ ε α} {f : α → Prog σ ε β} (hp : p.Strict accepted)
    (hf : ∀ a, (f a).Strict accepted) : (p >>= f).Strict accepted := by
  induction p with
  | ret a => exact hf a
  | raise e => trivial
  | call op k ih =>
    exact ⟨fun e => (hp.1 e).bind f,
      fun a => ⟨fun ha => ih _ ((hp.2 a).1 ha), fun ha => ((hp.2 a).2 ha).bind f⟩⟩

theorem Strict.ensuring {p : Prog σ ε α} {c : Prog σ ε Unit} (hp : p.Strict accepted)
    (hc : c.Strict accepted) : (p.ensuring c).Strict accepted := by
  induction p with
  | ret a => exact hc.bind fun _ => trivial
  | raise e => exact hc.bind fun _ => trivial
  | call op k ih =>
    exact ⟨fun e => (hp.1 e).ensuring c,
      fun a => ⟨fun ha => ih _ ((hp.2 a).1 ha), fun ha => ((hp.2 a).2 ha).ensuring c⟩⟩

theorem Strict.foldlM {f : γ → β → Prog σ ε γ} (hf : ∀ acc x, (f acc x).Strict accepted)
    (l : List β) (acc : γ) : (l.foldlM f acc).Strict accepted := by
  induction l generalizing acc with
  | nil => trivial
  | cons x l ih => exact (hf acc x).bind ih

theorem Strict.forM {f : β → Prog σ ε PUnit} (hf : ∀ x, (f x).Strict accepted) (l : List β) :
    (l.forM f).Strict accepted := by
  induction l with
  | nil => trivial
  | cons x l ih => exact (hf x).bind fun _ => ih

/-- **A run that returns depends on the calls that return**: it is a run wherever these are
possible. -/
theorem Strict.evals {sem sem' : (op : σ.Op) → S → Except ε (σ.Ans op) → S → Prop}
    (hsem : ∀ op s a s', accepted op a → sem op s (.ok a) s' → sem' op s (.ok a) s')
    {p : Prog σ ε α} (hp : p.Strict accepted) {s s' : S} {a : α}
    (h : Evals sem p s (.ok a) s') : Evals sem' p s (.ok a) s' := by
  induction p generalizing s with
  | ret b =>
    obtain ⟨rfl, rfl⟩ := evals_ret_ok.mp h
    exact Evals.ret _ _
  | raise e => cases h
  | call op k ih =>
    cases h with
    | @call _ _ _ m _ r _ hop hrest =>
      cases r with
      | error e => exact absurd hrest (hp.1 e).not_evals
      | ok b =>
        by_cases hb : accepted op b
        · exact Evals.call (hsem op _ b m hb hop) (ih _ ((hp.2 b).1 hb) hrest)
        · exact absurd hrest ((hp.2 b).2 hb).not_evals

end Lib.Prog
