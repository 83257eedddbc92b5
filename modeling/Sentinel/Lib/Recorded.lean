import Sentinel.Lib.Machine

/-!
# Machines that keep a record

The same machine, with a record of all calls that have been made, the last one first. Nothing
reads the record; it is there for statements about the past.

* `Machine.recorded` — the machine with its record
* `Machine.recorded_runs` — the record of a process is a trace of the program it was started with
-/

namespace Lib

variable {σ : Signature} {ε ι S : Type}

/-- A call: who made it, what it was answered, and the state it found. -/
structure CallRecord (σ : Signature) (ε ι S : Type) where
  process : ι
  op : σ.Op
  answer : Except ε (σ.Ans op)
  found : S

abbrev CallLog (σ : Signature) (ε ι S : Type) := List (CallRecord σ ε ι S)

/-- What process `i` has called and been answered, in order. -/
def callsOf [DecidableEq ι] (i : ι) (log : CallLog σ ε ι S) : List (Prog.Event σ ε) :=
  (log.reverse.filter (·.process = i)).map fun r => ⟨r.op, r.answer⟩

section CallsOf

variable [DecidableEq ι] {i : ι} {r : CallRecord σ ε ι S} {log : CallLog σ ε ι S}

theorem callsOf_cons_self (h : r.process = i) :
    callsOf i (r :: log) = callsOf i log ++ [⟨r.op, r.answer⟩] := by
  simp [callsOf, h]

theorem callsOf_cons_of_ne (h : r.process ≠ i) : callsOf i (r :: log) = callsOf i log := by
  simp [callsOf, h]

theorem mem_callsOf {op : σ.Op} {a : Except ε (σ.Ans op)} :
    ⟨op, a⟩ ∈ callsOf i log ↔ ∃ found, ⟨i, op, a, found⟩ ∈ log := by
  constructor
  · intro h
    obtain ⟨⟨j, op', a', found⟩, hfilter, heq⟩ := List.mem_map.mp h
    obtain ⟨hmem, hown⟩ := List.mem_filter.mp hfilter
    obtain rfl : j = i := by simpa using hown
    cases heq
    exact ⟨found, List.mem_reverse.mp hmem⟩
  · rintro ⟨found, hr⟩
    exact List.mem_map.mpr
      ⟨_, List.mem_filter.mpr ⟨List.mem_reverse.mpr hr, by simp⟩, rfl⟩

end CallsOf

namespace Machine

/-- The machine with the record of its calls. -/
def recorded (M : Machine σ ε ι S) : Machine σ ε ι (S × CallLog σ ε ι S) where
  sem i op s r s' := M.sem i op s.1 r s'.1 ∧ s'.2 = ⟨i, op, r, s.1⟩ :: s.2
  spawn c i p := M.spawn ⟨c.state.1, c.procs⟩ i p
  env s s' := M.env s.1 s'.1 ∧ s'.2 = s.2
  crashes := M.crashes

/-- A handler that keeps the record. -/
def recordedStep (h : ι → (op : σ.Op) → S → Except ε (σ.Ans op) × S) (i : ι) (op : σ.Op)
    (s : S × CallLog σ ε ι S) : Except ε (σ.Ans op) × (S × CallLog σ ε ι S) :=
  ((h i op s.1).1, (h i op s.1).2, ⟨i, op, (h i op s.1).1, s.1⟩ :: s.2)

/-- **The record of a process is a trace of its program.** -/
theorem recorded_runs [DecidableEq ι] {M : Machine σ ε ι S}
    {g : Guard σ ε ι (S × CallLog σ ε ι S)} {s : S} {c : Pool σ ε ι (S × CallLog σ ε ι S)}
    (h : M.recorded.Steps g (Pool.initial (s, [])) c) (i : ι) :
    (c.procs i = .unused → callsOf i c.state.2 = []) ∧
      ∀ p, c.procs i = .running p →
        ∃ p₀, (∃ c', M.spawn c' i p₀) ∧ Prog.Runs p₀ (callsOf i c.state.2) p := by
  refine h.induct (P := fun c => (c.procs i = .unused → callsOf i c.state.2 = []) ∧
    ∀ p, c.procs i = .running p →
      ∃ p₀, (∃ c', M.spawn c' i p₀) ∧ Prog.Runs p₀ (callsOf i c.state.2) p)
    ⟨fun _ => rfl, fun p hp => by cases hp⟩ fun c₁ l c₂ _ ih hf _ => ?_
  obtain ⟨hunused, hrunning⟩ := ih
  cases hf with
  | @spawn j p hu hsp =>
    by_cases hij : i = j
    · subst hij
      refine ⟨fun hi => by simp at hi, fun p' hp' => ?_⟩
      have hpp : p = p' := by simpa using hp'
      subst hpp
      refine ⟨p, ⟨_, hsp⟩, ?_⟩
      show Prog.Runs p (callsOf i c₁.state.2) p
      rw [hunused hu]
      exact Prog.Runs.refl p
    · simpa [hij] using ⟨hunused, hrunning⟩
  | @call j op k r s' hj hsem =>
    obtain ⟨-, hlog⟩ := hsem
    by_cases hij : i = j
    · subst hij
      refine ⟨fun hi => by simp at hi, fun p' hp' => ?_⟩
      have hpp : k r = p' := by simpa using hp'
      subst hpp
      obtain ⟨p₀, hp₀, hruns⟩ := hrunning _ hj
      refine ⟨p₀, hp₀, ?_⟩
      show Prog.Runs p₀ (callsOf i s'.2) _
      rw [hlog, callsOf_cons_self (r := ⟨i, op, r, c₁.state.1⟩) rfl]
      exact hruns.snoc
    · have hsame : callsOf i s'.2 = callsOf i c₁.state.2 := by
        rw [hlog, callsOf_cons_of_ne (r := ⟨j, op, r, c₁.state.1⟩) (Ne.symm hij)]
      simpa [hij, hsame] using ⟨hunused, hrunning⟩
  | @crash j p hc hj =>
    by_cases hij : i = j
    · subst hij
      exact ⟨fun hi => by simp at hi, fun p' hp' => by simp at hp'⟩
    · simpa [hij] using ⟨hunused, hrunning⟩
  | env henv => rw [henv.2]; exact ⟨hunused, hrunning⟩

end Machine

end Lib
