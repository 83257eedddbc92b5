import Mathlib.Init

/-!
# Effectful programs

A program that talks to the outside through calls, as a tree: a leaf returns or raises, and an
inner node makes one call and goes on with whatever answer came back, a value or an exception.
Between two calls nothing else can be observed, so the nodes of the tree are exactly the points
where another process may run or the process may die.

* `Prog.exec` — run against a handler that computes the answers from a state
* `Prog.recorded` — the handler that computes them from all that has been asked and answered
* `Prog.logged`, `Prog.failingAt` — a handler that also writes down the calls, or fails at one
* `Prog.Evals` — run to the end against a relation that allows several answers; `evals_bind`
  takes such a run apart at a sequence
* `Prog.Runs` — the calls made so far and the program that remains, for any answers at all

The signature is a parameter, so a program written against a port says nothing about who
answers it.
-/

namespace Lib

/-- The calls a program may make, and the type of the answer to each. -/
structure Signature where
  Op : Type
  Ans : Op → Type

/-- A program over `σ` that raises `ε` and returns `α`. -/
inductive Prog (σ : Signature) (ε α : Type) : Type
  | ret (a : α)
  | raise (e : ε)
  | call (op : σ.Op) (k : Except ε (σ.Ans op) → Prog σ ε α)

namespace Prog

variable {σ : Signature} {ε α β S : Type}

def bind : Prog σ ε α → (α → Prog σ ε β) → Prog σ ε β
  | ret a, f => f a
  | raise e, _ => raise e
  | call op k, f => call op fun r => (k r).bind f

/-- `try p except e: h e`. -/
def handle : Prog σ ε α → (ε → Prog σ ε α) → Prog σ ε α
  | ret a, _ => ret a
  | raise e, h => h e
  | call op k, h => call op fun r => (k r).handle h

/-- `try: p finally: c`. An exception of `c` replaces the outcome of `p`. -/
def ensuring : Prog σ ε α → Prog σ ε Unit → Prog σ ε α
  | ret a, c => c.bind fun _ => ret a
  | raise e, c => c.bind fun _ => raise e
  | call op k, c => call op fun r => (k r).ensuring c

instance : Monad (Prog σ ε) where
  pure := ret
  bind := bind

instance : MonadExceptOf ε (Prog σ ε) where
  throw := raise
  tryCatch := handle

/-- Make one call; an exception it answers with is raised again. -/
def perform (op : σ.Op) : Prog σ ε (σ.Ans op) :=
  call op fun
    | .ok a => ret a
    | .error e => raise e

/-- A computation without calls. -/
def lift : Except ε α → Prog σ ε α
  | .ok a => ret a
  | .error e => raise e

@[simp] theorem pure_eq (a : α) : (pure a : Prog σ ε α) = ret a := rfl

@[simp] theorem ret_bind (a : α) (f : α → Prog σ ε β) : (ret a >>= f) = f a := rfl

@[simp] theorem raise_bind (e : ε) (f : α → Prog σ ε β) :
    ((raise e : Prog σ ε α) >>= f) = raise e := rfl

@[simp] theorem call_bind (op : σ.Op) (k : Except ε (σ.Ans op) → Prog σ ε α)
    (f : α → Prog σ ε β) : (call op k >>= f) = call op fun r => k r >>= f := rfl

@[simp] theorem lift_ok (a : α) : (lift (.ok a) : Prog σ ε α) = ret a := rfl

@[simp] theorem lift_error (e : ε) : (lift (.error e) : Prog σ ε α) = raise e := rfl

theorem bind_bind {γ : Type} (p : Prog σ ε α) (f : α → Prog σ ε β) (g : β → Prog σ ε γ) :
    (p >>= f) >>= g = p >>= fun a => f a >>= g := by
  induction p with
  | ret a => rfl
  | raise e => rfl
  | call op k ih => exact congrArg (call op) (funext ih)

theorem bind_ret (p : Prog σ ε α) : p >>= ret = p := by
  induction p with
  | ret a => rfl
  | raise e => rfl
  | call op k ih => exact congrArg (call op) (funext ih)

instance : LawfulMonad (Prog σ ε) :=
  LawfulMonad.mk' (Prog σ ε) bind_ret (fun _ _ => rfl) bind_bind

/-! ## a handler that computes the answers -/

/-- Run to the end; `h op s` is the answer to `op` in state `s` and the state after it. -/
def exec (h : (op : σ.Op) → S → Except ε (σ.Ans op) × S) : Prog σ ε α → S → Except ε α × S
  | ret a, s => (.ok a, s)
  | raise e, s => (.error e, s)
  | call op k, s => (k (h op s).1).exec h (h op s).2

section Exec

variable (h : (op : σ.Op) → S → Except ε (σ.Ans op) × S)

@[simp] theorem exec_ret (a : α) (s : S) : (ret a : Prog σ ε α).exec h s = (.ok a, s) := rfl

@[simp] theorem exec_raise (e : ε) (s : S) :
    (raise e : Prog σ ε α).exec h s = (.error e, s) := rfl

@[simp] theorem exec_call (op : σ.Op) (k : Except ε (σ.Ans op) → Prog σ ε α) (s : S) :
    (call op k).exec h s = (k (h op s).1).exec h (h op s).2 := rfl

theorem exec_perform (op : σ.Op) (s : S) : (perform op).exec h s = h op s := by
  unfold perform
  rw [exec_call]
  rcases h op s with ⟨e | a, s'⟩ <;> rfl

/-- A sequence runs its second half from where the first one returned. -/
theorem exec_bind (p : Prog σ ε α) (f : α → Prog σ ε β) (s : S) :
    (p >>= f).exec h s =
      match p.exec h s with
      | (.ok a, s') => (f a).exec h s'
      | (.error e, s') => (.error e, s') := by
  induction p generalizing s with
  | ret a => rfl
  | raise e => rfl
  | call op k ih => exact ih (h op s).1 (h op s).2

theorem exec_bind_ok {p : Prog σ ε α} {s s' : S} {a : α} (hp : p.exec h s = (.ok a, s'))
    (f : α → Prog σ ε β) : (p >>= f).exec h s = (f a).exec h s' := by
  rw [exec_bind, hp]

theorem exec_handle (p : Prog σ ε α) (f : ε → Prog σ ε α) (s : S) :
    (p.handle f).exec h s =
      match p.exec h s with
      | (.ok a, s') => (.ok a, s')
      | (.error e, s') => (f e).exec h s' := by
  induction p generalizing s with
  | ret a => rfl
  | raise e => rfl
  | call op k ih => exact ih (h op s).1 (h op s).2

theorem exec_lift (x : Except ε α) (s : S) : (lift x : Prog σ ε α).exec h s = (x, s) := by
  cases x <;> rfl

theorem exec_ensuring (p : Prog σ ε α) (c : Prog σ ε Unit) (s : S) :
    (p.ensuring c).exec h s =
      match c.exec h (p.exec h s).2 with
      | (.ok _, s') => ((p.exec h s).1, s')
      | (.error e, s') => (.error e, s') := by
  induction p generalizing s with
  | ret a =>
    show (c >>= fun _ => ret a).exec h s = _
    rw [exec_bind, exec_ret]
    rcases c.exec h s with ⟨e | _, s'⟩ <;> rfl
  | raise e =>
    show (c >>= fun _ => raise e).exec h s = _
    rw [exec_bind, exec_raise]
    rcases c.exec h s with ⟨e | _, s'⟩ <;> rfl
  | call op k ih => exact ih (h op s).1 (h op s).2

theorem exec_perform_bind {op : σ.Op} {s s' : S} {a : σ.Ans op} (hop : h op s = (.ok a, s'))
    (f : σ.Ans op → Prog σ ε β) : (perform op >>= f).exec h s = (f a).exec h s' :=
  exec_bind_ok h ((exec_perform h op s).trans hop) f

theorem exec_bind_error {p : Prog σ ε α} {s s' : S} {e : ε} (hp : p.exec h s = (.error e, s'))
    (f : α → Prog σ ε β) : (p >>= f).exec h s = (.error e, s') := by
  rw [exec_bind, hp]

theorem exec_perform_error {op : σ.Op} {s s' : S} {e : ε} (hop : h op s = (.error e, s'))
    (f : σ.Ans op → Prog σ ε β) : (perform op >>= f).exec h s = (.error e, s') :=
  exec_bind_error h ((exec_perform h op s).trans hop) f

end Exec

/-- One call and the answer it got. -/
structure Event (σ : Signature) (ε : Type) where
  op : σ.Op
  reply : Except ε (σ.Ans op)

/-- The handler whose answers depend on the record of all calls before, and that keeps it. -/
def recorded (answer : List (Event σ ε) → (op : σ.Op) → Except ε (σ.Ans op)) (op : σ.Op)
    (tr : List (Event σ ε)) : Except ε (σ.Ans op) × List (Event σ ε) :=
  (answer tr op, tr ++ [⟨op, answer tr op⟩])

/-- What is in the record was answered, with the record as it was then. -/
theorem exec_recorded {answer : List (Event σ ε) → (op : σ.Op) → Except ε (σ.Ans op)}
    {p : Prog σ ε α} {out : Except ε α} {tr tr' : List (Event σ ε)}
    (h : p.exec (recorded answer) tr = (out, tr')) :
    tr <+: tr' ∧ ∀ pre ev suf, tr' = pre ++ ev :: suf → tr.length ≤ pre.length →
      ev.reply = answer pre ev.op := by
  induction p generalizing tr with
  | ret a =>
    cases h
    refine ⟨List.prefix_refl _, fun pre ev suf heq hlen => ?_⟩
    rw [heq, List.length_append, List.length_cons] at hlen
    omega
  | raise e =>
    cases h
    refine ⟨List.prefix_refl _, fun pre ev suf heq hlen => ?_⟩
    rw [heq, List.length_append, List.length_cons] at hlen
    omega
  | call op k ih =>
    obtain ⟨hpre, hev⟩ := ih _ h
    simp only [recorded] at hpre hev
    refine ⟨(List.prefix_append _ _).trans hpre, fun pre ev suf heq hlen => ?_⟩
    rcases Nat.lt_or_eq_of_le hlen with hlt | heq'
    · exact hev pre ev suf heq (by rw [List.length_append]; exact hlt)
    · -- this is the call made first
      obtain ⟨rest, hrest⟩ := hpre
      rw [heq, List.append_assoc] at hrest
      obtain ⟨rfl, hev'⟩ := List.append_inj hrest heq'
      cases (List.cons.inj hev').1
      rfl

/-- The handler that also writes down the calls. -/
def logged (h : (op : σ.Op) → S → Except ε (σ.Ans op) × S) (op : σ.Op) (st : S × List σ.Op) :
    Except ε (σ.Ans op) × S × List σ.Op :=
  ((h op st.1).1, (h op st.1).2, st.2 ++ [op])

theorem logged_eq {h : (op : σ.Op) → S → Except ε (σ.Ans op) × S} {op : σ.Op} {s s' : S}
    {r : Except ε (σ.Ans op)} (hop : h op s = (r, s')) (log : List σ.Op) :
    logged h op (s, log) = (r, s', log ++ [op]) := by
  unfold logged
  rw [hop]

/-- Writing the calls down changes nothing else. -/
theorem exec_logged (h : (op : σ.Op) → S → Except ε (σ.Ans op) × S) (p : Prog σ ε α) (s : S)
    (log : List σ.Op) :
    ∃ log', p.exec (logged h) (s, log) = ((p.exec h s).1, (p.exec h s).2, log') := by
  induction p generalizing s log with
  | ret a => exact ⟨log, rfl⟩
  | raise e => exact ⟨log, rfl⟩
  | call op k ih => exact ih _ _ _

/-- The handler whose call number `n`, counted from 0, raises `e` before it has done anything. -/
def failingAt (n : Nat) (e : ε) (h : (op : σ.Op) → S → Except ε (σ.Ans op) × S) (op : σ.Op)
    (st : S × Nat) : Except ε (σ.Ans op) × S × Nat :=
  if st.2 = n then (.error e, st.1, st.2 + 1)
  else ((h op st.1).1, (h op st.1).2, st.2 + 1)

theorem failingAt_self (h : (op : σ.Op) → S → Except ε (σ.Ans op) × S) (n : Nat) (e : ε)
    (op : σ.Op) (s : S) : failingAt n e h op (s, n) = (.error e, s, n + 1) :=
  if_pos rfl

theorem failingAt_of_ne (h : (op : σ.Op) → S → Except ε (σ.Ans op) × S) {n i : Nat} (hi : i ≠ n)
    (e : ε) (op : σ.Op) (s : S) :
    failingAt n e h op (s, i) = ((h op s).1, (h op s).2, i + 1) :=
  if_neg hi

/-! ## runs with arbitrary answers -/

/-- `p` has made the calls `tr`, got the answers recorded there, and `p'` remains. -/
inductive Runs : Prog σ ε α → List (Event σ ε) → Prog σ ε α → Prop
  | refl (p : Prog σ ε α) : Runs p [] p
  | call {op : σ.Op} {k : Except ε (σ.Ans op) → Prog σ ε α} {r : Except ε (σ.Ans op)}
      {tr : List (Event σ ε)} {p' : Prog σ ε α} :
      Runs (k r) tr p' → Runs (call op k) (⟨op, r⟩ :: tr) p'

/-- One more call of the program that remains. -/
theorem Runs.snoc {p : Prog σ ε α} {tr : List (Event σ ε)} {op : σ.Op}
    {k : Except ε (σ.Ans op) → Prog σ ε α} {r : Except ε (σ.Ans op)}
    (h : Runs p tr (Prog.call op k)) : Runs p (tr ++ [⟨op, r⟩]) (k r) := by
  generalize hq : Prog.call op k = q at h
  induction h with
  | refl p =>
    subst hq
    exact Runs.call (Runs.refl _)
  | call _ ih => exact Runs.call (ih hq)

/-- Running to the end against a relation: `sem op s r s'` allows the answer `r` to `op` in
`s`, leaving `s'`. -/
inductive Evals (sem : (op : σ.Op) → S → Except ε (σ.Ans op) → S → Prop) :
    Prog σ ε α → S → Except ε α → S → Prop
  | ret (a : α) (s : S) : Evals sem (ret a) s (.ok a) s
  | raise (e : ε) (s : S) : Evals sem (raise e) s (.error e) s
  | call {op : σ.Op} {k : Except ε (σ.Ans op) → Prog σ ε α} {s s' s'' : S}
      {r : Except ε (σ.Ans op)} {out : Except ε α} :
      sem op s r s' → Evals sem (k r) s' out s'' → Evals sem (call op k) s out s''

/-- The states a list of answered calls passes through. -/
inductive Threads (sem : (op : σ.Op) → S → Except ε (σ.Ans op) → S → Prop) :
    S → List (Event σ ε) → S → Prop
  | nil (s : S) : Threads sem s [] s
  | cons {s s' s'' : S} {ev : Event σ ε} {tr : List (Event σ ε)} :
      sem ev.op s ev.reply s' → Threads sem s' tr s'' → Threads sem s (ev :: tr) s''

variable {sem : (op : σ.Op) → S → Except ε (σ.Ans op) → S → Prop}

/-- A run to the end is a trace of calls together with the states it passes through. -/
theorem Evals.trace {p : Prog σ ε α} {s s' : S} {out : Except ε α} (h : Evals sem p s out s') :
    ∃ tr, Runs p tr (lift out) ∧ Threads sem s tr s' := by
  induction h with
  | ret a s => exact ⟨[], Runs.refl _, Threads.nil s⟩
  | raise e s => exact ⟨[], Runs.refl _, Threads.nil s⟩
  | @call op k s s' s'' r out hsem _ ih =>
    obtain ⟨tr, hruns, hthr⟩ := ih
    exact ⟨⟨op, r⟩ :: tr, Runs.call hruns, Threads.cons hsem hthr⟩

@[simp] theorem evals_ret {a : α} {s s' : S} {out : Except ε α} :
    Evals sem (ret a) s out s' ↔ out = .ok a ∧ s' = s :=
  ⟨fun h => by cases h; exact ⟨rfl, rfl⟩, by rintro ⟨rfl, rfl⟩; exact Evals.ret _ _⟩

theorem evals_ret_ok {a b : α} {s s' : S} :
    Evals sem (ret a) s (.ok b) s' ↔ b = a ∧ s' = s := by
  rw [evals_ret, Except.ok.injEq]

@[simp] theorem evals_raise {e : ε} {s s' : S} {out : Except ε α} :
    Evals sem (raise e) s out s' ↔ out = .error e ∧ s' = s :=
  ⟨fun h => by cases h; exact ⟨rfl, rfl⟩, by rintro ⟨rfl, rfl⟩; exact Evals.raise _ _⟩

@[simp] theorem evals_lift {x : Except ε α} {s s' : S} {out : Except ε α} :
    Evals sem (lift x) s out s' ↔ out = x ∧ s' = s := by
  cases x <;> simp

@[simp] theorem evals_perform {op : σ.Op} {s s' : S} {out : Except ε (σ.Ans op)} :
    Evals sem (perform op) s out s' ↔ sem op s out s' := by
  constructor
  · intro h
    cases h with
    | @call _ _ _ _ _ r _ hsem hrest =>
      cases r <;> · cases hrest; exact hsem
  · intro h
    refine Evals.call h ?_
    cases out with
    | ok a => exact Evals.ret _ _
    | error e => exact Evals.raise _ _

/-- A sequence ends where its second half ends, or where its first half raised. -/
theorem evals_bind {p : Prog σ ε α} {f : α → Prog σ ε β} {s s' : S} {out : Except ε β} :
    Evals sem (p >>= f) s out s' ↔
      (∃ a m, Evals sem p s (.ok a) m ∧ Evals sem (f a) m out s') ∨
        ∃ e, Evals sem p s (.error e) s' ∧ out = .error e := by
  induction p generalizing s with
  | ret a => simp [and_assoc]
  | raise e => simp [and_assoc, and_comm (a := out = _)]
  | call op k ih =>
    constructor
    · intro h
      cases h with
      | call hsem hrest =>
        rcases (ih _).mp hrest with ⟨a, m, hp, hf⟩ | ⟨e, hp, rfl⟩
        · exact Or.inl ⟨a, m, Evals.call hsem hp, hf⟩
        · exact Or.inr ⟨e, Evals.call hsem hp, rfl⟩
    · rintro (⟨a, m, hp, hf⟩ | ⟨e, hp, rfl⟩)
      · cases hp with
        | call hsem hrest => exact Evals.call hsem ((ih _).mpr (Or.inl ⟨a, m, hrest, hf⟩))
      · cases hp with
        | call hsem hrest => exact Evals.call hsem ((ih _).mpr (Or.inr ⟨e, hrest, rfl⟩))

/-- A sequence that returns has returned in both halves. -/
theorem evals_bind_ok {p : Prog σ ε α} {f : α → Prog σ ε β} {s s' : S} {b : β} :
    Evals sem (p >>= f) s (.ok b) s' ↔
      ∃ a m, Evals sem p s (.ok a) m ∧ Evals sem (f a) m (.ok b) s' := by
  simp [evals_bind]

/-- The rule of one call followed by the rest. -/
theorem evals_perform_bind {op : σ.Op} {f : σ.Ans op → Prog σ ε β} {s s' : S}
    {out : Except ε β} : Evals sem (perform op >>= f) s out s' ↔
      ∃ r m, sem op s r m ∧
        match r with
        | .ok a => Evals sem (f a) m out s'
        | .error e => out = .error e ∧ s' = m := by
  simp only [evals_bind, evals_perform]
  constructor
  · rintro (⟨a, m, hsem, hrest⟩ | ⟨e, hsem, rfl⟩)
    · exact ⟨.ok a, m, hsem, hrest⟩
    · exact ⟨.error e, s', hsem, rfl, rfl⟩
  · rintro ⟨r, m, hsem, hrest⟩
    cases r with
    | ok a => exact Or.inl ⟨a, m, hsem, hrest⟩
    | error e =>
      obtain ⟨rfl, rfl⟩ := hrest
      exact Or.inr ⟨e, hsem, rfl⟩

/-- A program with a handler ends where it returned, or where the handler of its exception
ends. -/
theorem evals_handle {p : Prog σ ε α} {f : ε → Prog σ ε α} {s s' : S} {out : Except ε α} :
    Evals sem (p.handle f) s out s' ↔
      (∃ a, Evals sem p s (.ok a) s' ∧ out = .ok a) ∨
        ∃ e m, Evals sem p s (.error e) m ∧ Evals sem (f e) m out s' := by
  induction p generalizing s with
  | ret a => simp [handle, and_assoc, and_comm (a := out = _)]
  | raise e => simp [handle, and_assoc]
  | call op k ih =>
    constructor
    · intro h
      cases h with
      | call hsem hrest =>
        rcases (ih _).mp hrest with ⟨a, hp, rfl⟩ | ⟨e, m, hp, hf⟩
        · exact Or.inl ⟨a, Evals.call hsem hp, rfl⟩
        · exact Or.inr ⟨e, m, Evals.call hsem hp, hf⟩
    · rintro (⟨a, hp, rfl⟩ | ⟨e, m, hp, hf⟩)
      · cases hp with
        | call hsem hrest => exact Evals.call hsem ((ih _).mpr (Or.inl ⟨a, hrest, rfl⟩))
      · cases hp with
        | call hsem hrest => exact Evals.call hsem ((ih _).mpr (Or.inr ⟨e, m, hrest, hf⟩))

/-- If `try: p finally: c` returns, then `p` has returned that value. -/
theorem Evals.of_ensuring_ok {p : Prog σ ε α} {c : Prog σ ε Unit} {s s' : S} {a : α}
    (h : Evals sem (p.ensuring c) s (.ok a) s') : ∃ m, Evals sem p s (.ok a) m := by
  induction p generalizing s with
  | ret b =>
    obtain ⟨_, m, -, hb⟩ := evals_bind_ok.mp h
    rw [evals_ret] at hb
    exact ⟨s, by rw [evals_ret]; exact ⟨hb.1, rfl⟩⟩
  | raise e =>
    obtain ⟨_, m, -, he⟩ := evals_bind_ok.mp h
    simp at he
  | call op k ih =>
    cases h with
    | call hsem hrest =>
      obtain ⟨m, hm⟩ := ih _ hrest
      exact ⟨m, Evals.call hsem hm⟩

/-- What every call keeps, a run to the end keeps. -/
theorem Evals.preserves {I : S → Prop} (hsem : ∀ op s r s', I s → sem op s r s' → I s')
    {p : Prog σ ε α} {s s' : S} {out : Except ε α} (h : Evals sem p s out s') (hs : I s) :
    I s' := by
  induction h with
  | ret a s => exact hs
  | raise e s => exact hs
  | call hop _ ih => exact ih (hsem _ _ _ _ hs hop)

/-- What every round of a loop keeps holds at its end. -/
theorem Evals.foldlM {γ δ : Type} {f : γ → δ → Prog σ ε γ} {J : γ → Prop} {l : List δ}
    (hstep : ∀ acc x s r s', x ∈ l → J acc → Evals sem (f acc x) s (.ok r) s' → J r)
    {acc r : γ} {s s' : S} (h : Evals sem (l.foldlM f acc) s (.ok r) s') (h0 : J acc) : J r := by
  induction l generalizing acc s with
  | nil =>
    rw [List.foldlM_nil, pure_eq, evals_ret] at h
    cases h.1
    exact h0
  | cons x l ih =>
    rw [List.foldlM_cons, evals_bind_ok] at h
    obtain ⟨a, m, ha, hrest⟩ := h
    exact ih (fun acc y s r s' hy => hstep acc y s r s' (List.mem_cons_of_mem _ hy)) hrest
      (hstep _ _ _ _ _ List.mem_cons_self h0 ha)

/-- Against a relation that computes, running to the end is `exec`. -/
theorem evals_iff_exec {h : (op : σ.Op) → S → Except ε (σ.Ans op) × S}
    (hsem : ∀ op s r s', sem op s r s' ↔ h op s = (r, s')) {p : Prog σ ε α} {s s' : S}
    {out : Except ε α} : Evals sem p s out s' ↔ p.exec h s = (out, s') := by
  induction p generalizing s with
  | ret a => simp [eq_comm]
  | raise e => simp [eq_comm]
  | call op k ih =>
    rw [exec_call]
    constructor
    · intro he
      cases he with
      | call hop hrest =>
        rw [(hsem _ _ _ _).mp hop]
        exact (ih _).mp hrest
    · intro he
      exact Evals.call ((hsem op s _ _).mpr rfl) ((ih _).mpr he)

/-- A handler whose answers are among those that are allowed runs the program to its end. -/
theorem Evals.exec {h : (op : σ.Op) → S → Except ε (σ.Ans op) × S}
    (hsem : ∀ op s, sem op s (h op s).1 (h op s).2) (p : Prog σ ε α) (s : S) :
    Evals sem p s (p.exec h s).1 (p.exec h s).2 := by
  induction p generalizing s with
  | ret a => exact Evals.ret a s
  | raise e => exact Evals.raise e s
  | call op k ih =>
    rw [exec_call]
    exact Evals.call (hsem op s) (ih _ _)

/-- Each recorded call was answered in some state. -/
theorem Threads.mem {s s' : S} {tr : List (Event σ ε)} (h : Threads sem s tr s')
    {ev : Event σ ε} (hev : ev ∈ tr) : ∃ m m', sem ev.op m ev.reply m' := by
  induction h with
  | nil s => cases hev
  | cons hop _ ih =>
    rcases List.mem_cons.mp hev with rfl | hev
    · exact ⟨_, _, hop⟩
    · exact ih hev

/-- What every call keeps holds at the end of a trace. -/
theorem Threads.preserves {I : S → Prop} (hsem : ∀ op s r s', I s → sem op s r s' → I s')
    {s s' : S} {tr : List (Event σ ε)} (h : Threads sem s tr s') (hs : I s) : I s' := by
  induction h with
  | nil s => exact hs
  | cons hop _ ih => exact ih (hsem _ _ _ _ hs hop)

theorem Threads.append {s s' : S} {tr tr' : List (Event σ ε)} (h : Threads sem s (tr ++ tr') s') :
    ∃ m, Threads sem s tr m ∧ Threads sem m tr' s' := by
  induction tr generalizing s with
  | nil => exact ⟨s, Threads.nil s, h⟩
  | cons ev tr ih =>
    cases h with
    | cons hsem hrest =>
      obtain ⟨m, hm, hm'⟩ := ih hrest
      exact ⟨m, Threads.cons hsem hm, hm'⟩

end Prog

end Lib
