import Mathlib.Init

/-!
# Calls answered one after another

A component that answers calls by a step function, run over a list of calls. Two components that
answer each call alike, in states that stay related, cannot be told apart.

* `replay` — the answers to a list of calls and the state at the end
* `replay_answers_eq_iff` — equal answers, call by call
* `replay_simulates` — the simulation theorem
-/

namespace Lib

variable {C O S T : Type}

def replay (step : C → S → O × S) : List C → S → List O × S
  | [], s => ([], s)
  | c :: cs, s => ((step c s).1 :: (replay step cs (step c s).2).1, (replay step cs (step c s).2).2)

section Replay

variable (step : C → S → O × S)

@[simp] theorem replay_nil (s : S) : replay step [] s = ([], s) := rfl

@[simp] theorem replay_cons (c : C) (cs : List C) (s : S) :
    replay step (c :: cs) s = ((step c s).1 :: (replay step cs (step c s).2).1,
      (replay step cs (step c s).2).2) := rfl

theorem replay_append (cs cs' : List C) (s : S) :
    replay step (cs ++ cs') s = ((replay step cs s).1 ++ (replay step cs' (replay step cs s).2).1,
      (replay step cs' (replay step cs s).2).2) := by
  induction cs generalizing s with
  | nil => rfl
  | cons c cs ih => simp [ih]

theorem length_replay (cs : List C) (s : S) : (replay step cs s).1.length = cs.length := by
  induction cs generalizing s with
  | nil => rfl
  | cons c cs ih => simp [ih]

variable {step}

/-- What every step keeps holds at the end. -/
theorem replay_induct {P : S → Prop} (ok : C → Prop)
    (hstep : ∀ c s, ok c → P s → P (step c s).2) {cs : List C} {s : S} (hcs : ∀ c ∈ cs, ok c)
    (hs : P s) : P (replay step cs s).2 := by
  induction cs generalizing s with
  | nil => exact hs
  | cons c cs ih =>
    exact ih (fun c' h => hcs c' (List.mem_cons_of_mem _ h))
      (hstep c s (hcs c List.mem_cons_self) hs)

end Replay

/-- Two components answer a list of calls alike exactly if they answer each of its calls alike,
where they stand after the calls before it. -/
theorem replay_answers_eq_iff {step : C → S → O × S} {step' : C → T → O × T} {cs : List C} {s : S}
    {t : T} : (replay step cs s).1 = (replay step' cs t).1 ↔
      ∀ pre c post, cs = pre ++ c :: post →
        (step c (replay step pre s).2).1 = (step' c (replay step' pre t).2).1 := by
  induction cs generalizing s t with
  | nil => simp
  | cons c cs ih =>
    rw [replay_cons, replay_cons, List.cons.injEq, ih]
    constructor
    · rintro ⟨hfirst, hrest⟩ pre c' post heq
      cases pre with
      | nil =>
        cases heq
        exact hfirst
      | cons c'' pre =>
        cases heq
        exact hrest pre c' post rfl
    · intro h
      exact ⟨h [] c cs rfl, fun pre c' post heq => h (c :: pre) c' post (by rw [heq]; rfl)⟩

/-- **Simulation**: related states give the same answers and stay related. -/
theorem replay_simulates {step : C → S → O × S} {step' : C → T → O × T} {R : S → T → Prop}
    (ok : C → Prop)
    (hstep : ∀ c s t, ok c → R s t → (step c s).1 = (step' c t).1 ∧ R (step c s).2 (step' c t).2)
    {cs : List C} {s : S} {t : T} (hcs : ∀ c ∈ cs, ok c) (hR : R s t) :
    (replay step cs s).1 = (replay step' cs t).1 ∧
      R (replay step cs s).2 (replay step' cs t).2 := by
  induction cs generalizing s t with
  | nil => exact ⟨rfl, hR⟩
  | cons c cs ih =>
    obtain ⟨hout, hR'⟩ := hstep c s t (hcs c List.mem_cons_self) hR
    obtain ⟨houts, hlast⟩ := ih (fun c' h => hcs c' (List.mem_cons_of_mem _ h)) hR'
    exact ⟨by rw [replay_cons, replay_cons, hout, houts], hlast⟩

end Lib
