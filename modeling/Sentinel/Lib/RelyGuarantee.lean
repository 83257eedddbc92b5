import Sentinel.Lib.Prog

/-!
# Rely and guarantee for one program

`p.Safe C Q s` says that `p`, started in `s`, keeps its side of the contract `C` at every call it
makes, and that its outcome satisfies `Q`, provided that between two of its calls the others only
move the state along `C.rely` and keep `C.inv`. It is defined by recursion on the program, so a
proof walks through the calls in the order in which the code makes them.

* `Safe.bind`, `safe_perform_bind`, `Safe.forM` — the rules a program is verified with
* `Safe.layer` — a further promise, proved on top of a contract that is known to be kept
* `Only.safe` — the rule for a program all of whose calls keep the promise
* `Only.exec_simulates` — the same program against two handlers
* `safe_faulty_bind` — the rule for calls that may raise before or after taking effect
* `Safe.runs` — with nobody else around, what `Safe` says about a trace of calls

A lone program is the special case `Contract.solo`, where the state does not move by itself.
-/

namespace Lib

/-- What the others may do to the state: a preorder. -/
structure Rely (S : Type) where
  rel : S → S → Prop
  refl : ∀ s, rel s s
  trans : ∀ {s s' s''}, rel s s' → rel s' s'' → rel s s''

/-- Nobody else is running. -/
def Rely.alone (S : Type) : Rely S := ⟨Eq, fun _ => rfl, fun h h' => h.trans h'⟩

/--
The terms under which a program runs: which answers its calls can get, what holds of the state
all the time, what the others may do between two calls, and what each of its own calls promises.
-/
structure Contract (σ : Signature) (ε S : Type) where
  sem : (op : σ.Op) → S → Except ε (σ.Ans op) → S → Prop
  inv : S → Prop
  rely : Rely S
  guar : σ.Op → S → S → Prop

variable {σ : Signature} {ε α β S : Type}

/-- The terms for a further promise, once it is known that those of `C` are kept. -/
def Contract.layer (C : Contract σ ε S) (guar : σ.Op → S → S → Prop) : Contract σ ε S where
  sem := fun op s r s' => C.sem op s r s' ∧ C.guar op s s' ∧ C.inv s'
  inv := C.inv
  rely := C.rely
  guar := guar

/-- The same terms with a further promise. -/
def Contract.both (C : Contract σ ε S) (guar : σ.Op → S → S → Prop) : Contract σ ε S :=
  { C with guar := fun op s s' => C.guar op s s' ∧ guar op s s' }

/-- The contract of a program that runs by itself. -/
def Contract.solo (sem : (op : σ.Op) → S → Except ε (σ.Ans op) → S → Prop)
    (guar : σ.Op → S → S → Prop) : Contract σ ε S where
  sem := sem
  inv := fun _ => True
  rely := Rely.alone S
  guar := guar

/--
Calls that may fail: `ok` says what a call that returns does, and a call that raises has either
done nothing or taken its effect and lost the answer.
-/
def withFaults (ok : (op : σ.Op) → S → σ.Ans op → S → Prop) (op : σ.Op) (s : S) :
    Except ε (σ.Ans op) → S → Prop
  | .ok a, s' => ok op s a s'
  | .error _, s' => s' = s ∨ ∃ a, ok op s a s'

/-- Whatever comes back, it has done nothing or what a call that returns does. -/
theorem withFaults_cases {ok : (op : σ.Op) → S → σ.Ans op → S → Prop} {op : σ.Op} {s s' : S}
    {r : Except ε (σ.Ans op)} (h : withFaults ok op s r s') : s' = s ∨ ∃ a, ok op s a s' := by
  cases r with
  | ok a => exact Or.inr ⟨a, h⟩
  | error e => exact h

namespace Prog

def Safe (C : Contract σ ε S) (Q : Except ε α → S → Prop) : Prog σ ε α → S → Prop
  | ret a, s => Q (.ok a) s
  | raise e, s => Q (.error e) s
  | call op k, s => ∀ s', C.rely.rel s s' → C.inv s' → ∀ r s'', C.sem op s' r s'' →
      (C.guar op s' s'' ∧ C.inv s'') ∧ (k r).Safe C Q s''

variable {C : Contract σ ε S} {Q : Except ε α → S → Prop} {Q' : Except ε β → S → Prop} {s : S}

theorem safe_call {op : σ.Op} {k : Except ε (σ.Ans op) → Prog σ ε α} :
    (call op k).Safe C Q s ↔ ∀ s', C.rely.rel s s' → C.inv s' → ∀ r s'', C.sem op s' r s'' →
      (C.guar op s' s'' ∧ C.inv s'') ∧ (k r).Safe C Q s'' := Iff.rfl

/-- What the others do does not disturb a program that still has calls to make. -/
theorem Safe.stable {op : σ.Op} {k : Except ε (σ.Ans op) → Prog σ ε α} {s' : S}
    (h : (call op k).Safe C Q s) (hr : C.rely.rel s s') : (call op k).Safe C Q s' :=
  fun s₁ h₁ => h s₁ (C.rely.trans hr h₁)

theorem Safe.bind {p : Prog σ ε α} {f : α → Prog σ ε β} (hp : p.Safe C Q s)
    (hok : ∀ a s, Q (.ok a) s → (f a).Safe C Q' s)
    (herr : ∀ e s, Q (.error e) s → Q' (.error e) s) : (p >>= f).Safe C Q' s := by
  induction p generalizing s with
  | ret a => exact hok a s hp
  | raise e => exact herr e s hp
  | call op k ih =>
    intro s' hs' hi r s'' hsem
    obtain ⟨hg, hk⟩ := hp s' hs' hi r s'' hsem
    exact ⟨hg, ih r hk⟩

theorem Safe.mono {p : Prog σ ε α} {Q₂ : Except ε α → S → Prop} (hp : p.Safe C Q s)
    (hQ : ∀ out s, Q out s → Q₂ out s) : p.Safe C Q₂ s := by
  have h : (p >>= pure).Safe C Q₂ s :=
    hp.bind (fun a s h => hQ _ s h) (fun e s h => hQ _ s h)
  rwa [bind_pure] at h

/-- The first part of a sequence. -/
theorem Safe.of_bind {p : Prog σ ε α} {f : α → Prog σ ε β} (h : (p >>= f).Safe C Q' s) :
    p.Safe C (fun _ _ => True) s := by
  induction p generalizing s with
  | ret a => trivial
  | raise e => trivial
  | call op k ih =>
    intro s' hs' hi r s'' hsem
    obtain ⟨hg, hk⟩ := h s' hs' hi r s'' hsem
    exact ⟨hg, ih r hk⟩

/-- The rule of `try … except`. -/
theorem Safe.handle {p : Prog σ ε α} {f : ε → Prog σ ε α} {Q₂ : Except ε α → S → Prop}
    (hp : p.Safe C Q s) (hok : ∀ a s, Q (.ok a) s → Q₂ (.ok a) s)
    (herr : ∀ e s, Q (.error e) s → (f e).Safe C Q₂ s) : (p.handle f).Safe C Q₂ s := by
  induction p generalizing s with
  | ret a => exact hok a s hp
  | raise e => exact herr e s hp
  | call op k ih =>
    intro s' hs' hi r s'' hsem
    obtain ⟨hg, hk⟩ := hp s' hs' hi r s'' hsem
    exact ⟨hg, ih r hk⟩

/-- The rule of one call followed by the rest. -/
theorem safe_perform_bind {op : σ.Op} {f : σ.Ans op → Prog σ ε β} :
    (perform op >>= f).Safe C Q' s ↔
      ∀ s', C.rely.rel s s' → C.inv s' → ∀ r s'', C.sem op s' r s'' →
        (C.guar op s' s'' ∧ C.inv s'') ∧
          match r with
          | .ok a => (f a).Safe C Q' s''
          | .error e => Q' (.error e) s'' := by
  unfold perform
  rw [call_bind, safe_call]
  refine forall_congr' fun s' => forall_congr' fun _ => forall_congr' fun _ =>
    forall_congr' fun r => forall_congr' fun s'' => forall_congr' fun _ => ?_
  cases r <;> rfl

/-- The rule of one call at the end. -/
theorem safe_perform {op : σ.Op} {Q : Except ε (σ.Ans op) → S → Prop} :
    (perform op).Safe C Q s ↔ ∀ s', C.rely.rel s s' → C.inv s' → ∀ r s'', C.sem op s' r s'' →
      (C.guar op s' s'' ∧ C.inv s'') ∧ Q r s'' := by
  unfold perform
  rw [safe_call]
  refine forall_congr' fun s' => forall_congr' fun _ => forall_congr' fun _ =>
    forall_congr' fun r => forall_congr' fun s'' => forall_congr' fun _ => ?_
  cases r <;> rfl

/--
The rule of one call that may fail. The promise has to be kept by a call that does nothing and by
one that returns; the outcome `Q'` has to admit the exception after either.
-/
theorem safe_faulty_bind {ok : (op : σ.Op) → S → σ.Ans op → S → Prop} {op : σ.Op}
    {f : σ.Ans op → Prog σ ε β}
    (hC : ∀ s r s', C.sem op s r s' → withFaults ok op s r s')
    (hraise : ∀ s e s', C.sem op s (.error e) s' → Q' (.error e) s')
    (h : ∀ s', C.rely.rel s s' → C.inv s' → C.guar op s' s' ∧
      ∀ a s'', ok op s' a s'' → (C.guar op s' s'' ∧ C.inv s'') ∧
        (C.sem op s' (.ok a) s'' → (f a).Safe C Q' s'')) :
    (perform op >>= f).Safe C Q' s := by
  rw [safe_perform_bind]
  intro s' hs' hi r s'' hsem
  obtain ⟨hidle, hok⟩ := h s' hs' hi
  have hf := hC s' r s'' hsem
  cases r with
  | ok a =>
    obtain ⟨hg, hrest⟩ := hok a s'' hf
    exact ⟨hg, hrest hsem⟩
  | error e =>
    refine ⟨?_, hraise s' e s'' hsem⟩
    -- the call has done nothing, or what a call that returns does
    rcases hf with rfl | ⟨a, ha⟩
    · exact ⟨hidle, hi⟩
    · exact (hok a s'' ha).1

/-- **Layers**: a further promise may be proved with the terms of the contract in hand. -/
theorem Safe.layer {guar : σ.Op → S → S → Prop} {Q₂ : Except ε α → S → Prop} {p : Prog σ ε α}
    (h : p.Safe C Q s) (h' : p.Safe (C.layer guar) Q₂ s) :
    p.Safe (C.both guar) (fun out s => Q out s ∧ Q₂ out s) s := by
  induction p generalizing s with
  | ret a => exact ⟨h, h'⟩
  | raise e => exact ⟨h, h'⟩
  | call op k ih =>
    intro s' hs' hi r s'' hsem
    obtain ⟨⟨hg, hi'⟩, hk⟩ := h s' hs' hi r s'' hsem
    obtain ⟨⟨hg', -⟩, hk'⟩ := h' s' hs' hi r s'' ⟨hsem, hg, hi'⟩
    exact ⟨⟨⟨hg, hg'⟩, hi'⟩, ih r hk hk'⟩

/-- A loop over a list: `J` holds of what is left before each round. -/
theorem Safe.forM {γ : Type} {f : γ → Prog σ ε Unit} {J : List γ → S → Prop}
    {Q : Except ε Unit → S → Prop}
    (hstep : ∀ x l s, J (x :: l) s →
      (f x).Safe C (fun out s' => match out with
        | .ok _ => J l s'
        | .error e => Q (.error e) s') s)
    (hdone : ∀ s, J [] s → Q (.ok ()) s) :
    ∀ (l : List γ) (s : S), J l s → (l.forM f).Safe C Q s
  | [], s, h => hdone s h
  | x :: l, s, h => by
    show (f x >>= fun _ => l.forM f).Safe C Q s
    exact (hstep x l s h).bind (fun _ s' h' => Safe.forM hstep hdone l s' h') fun _ _ h' => h'

/-- A loop with an accumulator: `J` holds before each round, whatever has been gathered. -/
theorem Safe.foldlM {γ δ : Type} {f : γ → δ → Prog σ ε γ} {J : S → Prop}
    {Q : Except ε γ → S → Prop} {l : List δ}
    (hstep : ∀ acc x s, x ∈ l → J s →
      (f acc x).Safe C (fun out s' => match out with
        | .ok _ => J s'
        | .error e => Q (.error e) s') s)
    (hdone : ∀ acc s, J s → Q (.ok acc) s) (acc : γ) (s : S) (h : J s) :
    (l.foldlM f acc).Safe C Q s := by
  induction l generalizing acc s with
  | nil => exact hdone acc s h
  | cons x l ih =>
    rw [List.foldlM_cons]
    exact (hstep acc x s List.mem_cons_self h).bind
      (fun acc' s' h' =>
        ih (fun acc y s hy => hstep acc y s (List.mem_cons_of_mem _ hy)) acc' s' h')
      fun _ _ h' => h'

/-! ## programs that only make certain calls -/

/-- Whatever the answers are, the program makes no call without the property `P`. -/
def Only (P : σ.Op → Prop) : Prog σ ε α → Prop
  | ret _ => True
  | raise _ => True
  | call op k => P op ∧ ∀ r, (k r).Only P

section Only

variable {P : σ.Op → Prop}

theorem only_perform {op : σ.Op} (h : P op) : (perform op : Prog σ ε _).Only P :=
  ⟨h, fun r => by cases r <;> trivial⟩

theorem only_lift (x : Except ε α) : (lift x : Prog σ ε α).Only P := by
  cases x <;> trivial

theorem Only.bind {p : Prog σ ε α} {f : α → Prog σ ε β} (hp : p.Only P)
    (hf : ∀ a, (f a).Only P) : (p >>= f).Only P := by
  induction p with
  | ret a => exact hf a
  | raise e => trivial
  | call op k ih => exact ⟨hp.1, fun r => ih r (hp.2 r)⟩

theorem Only.handle {p : Prog σ ε α} {f : ε → Prog σ ε α} (hp : p.Only P)
    (hf : ∀ e, (f e).Only P) : (p.handle f).Only P := by
  induction p with
  | ret a => trivial
  | raise e => exact hf e
  | call op k ih => exact ⟨hp.1, fun r => ih r (hp.2 r)⟩

/-- Any program makes calls only. -/
theorem only_true (p : Prog σ ε α) : p.Only fun _ => True := by
  induction p with
  | ret a => trivial
  | raise e => trivial
  | call op k ih => exact ⟨trivial, ih⟩

theorem Only.mono {P' : σ.Op → Prop} {p : Prog σ ε α} (hp : p.Only P) (h : ∀ op, P op → P' op) :
    p.Only P' := by
  induction p with
  | ret a => trivial
  | raise e => trivial
  | call op k ih => exact ⟨h op hp.1, fun r => ih r (hp.2 r)⟩

theorem Only.foldlM {γ δ : Type} {f : γ → δ → Prog σ ε γ} (hf : ∀ acc x, (f acc x).Only P)
    (l : List δ) (acc : γ) : (l.foldlM f acc).Only P := by
  induction l generalizing acc with
  | nil => trivial
  | cons x l ih =>
    rw [List.foldlM_cons]
    exact (hf acc x).bind ih

/-- **Simulation**: two handlers that answer the calls of a program alike, in states that stay
related, give it the same outcome. -/
theorem Only.exec_simulates {T : Type} {p : Prog σ ε α} (hp : p.Only P) {R : S → T → Prop}
    {h : (op : σ.Op) → S → Except ε (σ.Ans op) × S} {h' : (op : σ.Op) → T → Except ε (σ.Ans op) × T}
    (hstep : ∀ op s t, P op → R s t → (h op s).1 = (h' op t).1 ∧ R (h op s).2 (h' op t).2)
    {s : S} {t : T} (hR : R s t) :
    (p.exec h s).1 = (p.exec h' t).1 ∧ R (p.exec h s).2 (p.exec h' t).2 := by
  induction p generalizing s t with
  | ret a => exact ⟨rfl, hR⟩
  | raise e => exact ⟨rfl, hR⟩
  | call op k ih =>
    obtain ⟨hans, hR'⟩ := hstep op s t hp.1 hR
    rw [exec_call, exec_call, ← hans]
    exact ih _ (hp.2 _) hR'

/-- Two handlers that agree on the calls a program makes run it alike. -/
theorem Only.exec_congr {p : Prog σ ε α} (hp : p.Only P)
    {h h' : (op : σ.Op) → S → Except ε (σ.Ans op) × S} (hh : ∀ op s, P op → h op s = h' op s)
    (s : S) : p.exec h s = p.exec h' s := by
  have hstep : ∀ op s t, P op → s = t → (h op s).1 = (h' op t).1 ∧ (h op s).2 = (h' op t).2 := by
    rintro op s _ hop rfl
    rw [hh op s hop]
    exact ⟨rfl, rfl⟩
  obtain ⟨hout, hstate⟩ := hp.exec_simulates hstep rfl
  exact Prod.ext hout hstate

/-- If each call that may occur keeps the promise and the invariant, the program is safe. -/
theorem Only.safe {p : Prog σ ε α} (hp : p.Only P)
    (h : ∀ op s r s', P op → C.inv s → C.sem op s r s' → C.guar op s s' ∧ C.inv s')
    (hQ : ∀ out s, Q out s) (s : S) : p.Safe C Q s := by
  induction p generalizing s with
  | ret a => exact hQ _ _
  | raise e => exact hQ _ _
  | call op k ih =>
    exact fun s' _ hi r s'' hsem => ⟨h op s' r s'' hp.1 hi hsem, ih r (hp.2 r) s''⟩

/-- The same with a property `J` that neither the calls nor the others disturb. -/
theorem Only.safe_keeps {J : S → Prop} {p : Prog σ ε α} (hp : p.Only P)
    (hrely : ∀ s s', J s → C.rely.rel s s' → J s')
    (h : ∀ op s r s', P op → C.inv s → J s → C.sem op s r s' →
      (C.guar op s s' ∧ C.inv s') ∧ J s') (hs : J s) : p.Safe C (fun _ s => J s) s := by
  induction p generalizing s with
  | ret a => exact hs
  | raise e => exact hs
  | call op k ih =>
    intro s' hs' hi r s'' hsem
    obtain ⟨hguar, hJ⟩ := h op s' r s'' hp.1 hi (hrely s s' hs hs') hsem
    exact ⟨hguar, ih r (hp.2 r) hJ⟩

end Only

/-- A safe program that has no more calls to make has reached its outcome. -/
theorem Safe.outcome {p : Prog σ ε α} (h : p.Safe C Q s) (hp : ∀ op k, p ≠ call op k) :
    ∃ out, Q out s := by
  cases p with
  | ret a => exact ⟨_, h⟩
  | raise e => exact ⟨_, h⟩
  | call op k => exact absurd rfl (hp op k)

/-! ## a program alone -/

section Solo

variable {sem : (op : σ.Op) → S → Except ε (σ.Ans op) → S → Prop} {guar : σ.Op → S → S → Prop}

theorem safe_solo_perform_bind {op : σ.Op} {f : σ.Ans op → Prog σ ε β} :
    (perform op >>= f).Safe (Contract.solo sem guar) Q' s ↔
      ∀ r s', sem op s r s' → guar op s s' ∧
        match r with
        | .ok a => (f a).Safe (Contract.solo sem guar) Q' s'
        | .error e => Q' (.error e) s' := by
  rw [safe_perform_bind]
  constructor
  · intro h r s' hsem
    obtain ⟨⟨hg, -⟩, hk⟩ := h s rfl trivial r s' hsem
    exact ⟨hg, hk⟩
  · rintro h _ rfl - r s' hsem
    obtain ⟨hg, hk⟩ := h r s' hsem
    exact ⟨⟨hg, trivial⟩, hk⟩

end Solo

/-- The state that records every call with its answer. -/
def recording (op : σ.Op) (tr : List (Event σ ε)) (r : Except ε (σ.Ans op))
    (tr' : List (Event σ ε)) : Prop := tr' = tr ++ [⟨op, r⟩]

/--
A promise `guar` about the record is kept at every call of a run, and the outcome satisfies `Q`:
`pre` and `post` are the calls before and after the one in question.
-/
theorem Safe.runs {guar : σ.Op → List (Event σ ε) → List (Event σ ε) → Prop}
    {Q : Except ε α → List (Event σ ε) → Prop} {p p' : Prog σ ε α}
    {past tr : List (Event σ ε)} (h : p.Safe (Contract.solo recording guar) Q past)
    (hr : Runs p tr p') :
    (∀ pre ev post, tr = pre ++ ev :: post → guar ev.op (past ++ pre) (past ++ pre ++ [ev])) ∧
      p'.Safe (Contract.solo recording guar) Q (past ++ tr) := by
  induction hr generalizing past with
  | refl p => exact ⟨fun pre ev post he => by simp at he, by simpa using h⟩
  | @call op k r tr p' _ ih =>
    have hrec : recording op past r (past ++ [⟨op, r⟩]) := rfl
    obtain ⟨⟨hg, -⟩, hk⟩ := h past rfl trivial r _ hrec
    change guar op past (past ++ [⟨op, r⟩]) at hg
    obtain ⟨hall, hlast⟩ := ih hk
    refine ⟨?_, by simpa using hlast⟩
    intro pre ev post he
    cases pre with
    | nil =>
      simp only [List.nil_append, List.cons.injEq] at he
      obtain ⟨rfl, -⟩ := he
      simpa using hg
    | cons e pre =>
      simp only [List.cons_append, List.cons.injEq] at he
      obtain ⟨rfl, he⟩ := he
      simpa using hall pre ev post he

end Prog

end Lib
