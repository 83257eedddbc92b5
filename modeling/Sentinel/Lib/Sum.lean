import Sentinel.Lib.RelyGuarantee

/-!
# Ports side by side

A program that talks to two ports, and a program for one of them as a part of it. What is known
of the part by itself carries over to the whole.

* `Signature.sum`, `Prog.inl`, `Prog.inr`
* `Safe.inl` — a part that is safe for its own contract is safe for that of the whole
-/

namespace Lib

def Signature.sum (σ τ : Signature) : Signature where
  Op := σ.Op ⊕ τ.Op
  Ans := Sum.elim σ.Ans τ.Ans

variable {σ τ : Signature} {ε α β S T : Type}

namespace Prog

/-- A program for the first port. -/
def inl : Prog σ ε α → Prog (σ.sum τ) ε α
  | ret a => ret a
  | raise e => raise e
  | call op k => .call (.inl op : (σ.sum τ).Op) fun r => (k r).inl

/-- A program for the second port. -/
def inr : Prog τ ε α → Prog (σ.sum τ) ε α
  | ret a => ret a
  | raise e => raise e
  | call op k => .call (.inr op : (σ.sum τ).Op) fun r => (k r).inr

theorem Only.inl {P : σ.Op → Prop} {P' : (σ.sum τ).Op → Prop} {p : Prog σ ε α} (hp : p.Only P)
    (h : ∀ op, P op → P' (.inl op)) : p.inl.Only P' := by
  induction p with
  | ret a => trivial
  | raise e => trivial
  | call op k ih => exact ⟨h op hp.1, fun r => ih r (hp.2 r)⟩

theorem Only.inr {P : τ.Op → Prop} {P' : (σ.sum τ).Op → Prop} {p : Prog τ ε α} (hp : p.Only P)
    (h : ∀ op, P op → P' (.inr op)) : p.inr.Only P' := by
  induction p with
  | ret a => trivial
  | raise e => trivial
  | call op k ih => exact ⟨h op hp.1, fun r => ih r (hp.2 r)⟩

/-- **A part of the whole.** The state of the whole shows the state of the part, and what the
contract of the whole says about the first port follows from the contract of the part. -/
theorem Safe.inl {C : Contract (σ.sum τ) ε T} {C₀ : Contract σ ε S} {π : T → S}
    {Q : Except ε α → S → Prop} (hrely : ∀ t t', C.rely.rel t t' → C₀.rely.rel (π t) (π t'))
    (hinv : ∀ t, C.inv t → C₀.inv (π t))
    (hsem : ∀ op t r t', C.inv t → C.sem (.inl op) t r t' → C₀.sem op (π t) r (π t'))
    (hguar : ∀ op t r t', C.inv t → C.sem (.inl op) t r t' → C₀.guar op (π t) (π t') →
      C₀.inv (π t') → C.guar (.inl op) t t' ∧ C.inv t')
    {p : Prog σ ε α} {t : T} (h : p.Safe C₀ Q (π t)) :
    p.inl.Safe C (fun out t => Q out (π t)) t := by
  induction p generalizing t with
  | ret a => exact h
  | raise e => exact h
  | call op k ih =>
    intro t' ht' hi r t'' hcall
    obtain ⟨⟨hg, hi'⟩, hk⟩ :=
      h (π t') (hrely t t' ht') (hinv t' hi) r (π t'') (hsem op t' r t'' hi hcall)
    exact ⟨hguar op t' r t'' hi hcall hg hi', ih r hk⟩

end Prog

end Lib
