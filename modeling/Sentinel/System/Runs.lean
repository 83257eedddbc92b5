import Sentinel.System.Consumer
import Sentinel.System.Gateway

/-!
# Runs of the system

Requests and consumers keep the discipline, so every run does, in any interleaving and with any
faults. The claims about the system are read off from here.

* `system_sound` — the proof obligations of rely and guarantee
* `run_ok`, `run_guar`, `run_kept` — what holds in every state, at every call, and over time
-/

namespace Sentinel

open Lib Machine

variable {X : Services} {mode : WriteMode} {good : List String → Json → Prop} {strict : Prop}
  {g : SystemGuard}

theorem systemSpawn_safe (hX : GoodExtractions X good) (hR : GoodRecoveries X good)
    {i : SystemRole} {p : SystemProg Unit} (h : SystemSpawn i p) {s : SystemState}
    (hfresh : (discipline X mode good strict).fresh i s) :
    p.Safe ((discipline X mode good strict).contract i)
      ((discipline X mode good strict).post i) s := by
  cases h with
  | request jobId url domain requiredFields =>
    exact execute_safe hX url domain requiredFields hfresh
  | next n self =>
    exact (processNextJob_safe hR self s).bind (fun _ _ _ => trivial) fun _ _ _ => trivial
  | reclaim n self minIdleTimeMs =>
    exact (reclaimStaleMessages_safe hR self minIdleTimeMs s).bind (fun _ _ _ => trivial)
      fun _ _ _ => trivial

/-- What a call promises includes what the consumers count on. -/
theorem guar_kept {i : SystemRole} {op : SystemOp} {s s' : SystemState}
    (h : (discipline X mode good strict).guar i op s s') : Kept s s' := by
  cases i with
  | gateway jobId => exact GatewayGuar.kept h
  | consumer n => exact ConsumerGuar.kept h

/-- And what the request for any other job counts on. -/
theorem guar_gatewayRely {i : SystemRole} {op : SystemOp} {s s' : SystemState} {jobId : String}
    (hne : i ≠ .gateway jobId) (h : (discipline X mode good strict).guar i op s s') :
    (gatewayRely jobId).rel s s' := by
  cases i with
  | gateway jobId' => exact GatewayGuar.rely h fun he => hne (by rw [he])
  | consumer n => exact ConsumerGuar.rely h

/-- So what one process promises is among what every other one counts on. -/
theorem guar_rely {i j : SystemRole} {op : SystemOp} {s s' : SystemState} (hij : i ≠ j)
    (h : (discipline X mode good strict).guar i op s s') :
    ((discipline X mode good strict).rely j).rel s s' := by
  cases j with
  | consumer n => exact guar_kept h
  | gateway jobId => exact guar_gatewayRely hij h

theorem guar_fresh {i j : SystemRole} {op : SystemOp} {s s' : SystemState} (hij : i ≠ j)
    (h : (discipline X mode good strict).guar i op s s')
    (hfresh : (discipline X mode good strict).fresh j s) :
    (discipline X mode good strict).fresh j s' := by
  cases j with
  | consumer n => trivial
  | gateway jobId =>
    obtain ⟨hno', heq⟩ := guar_gatewayRely hij h hfresh.2
    exact ⟨heq.trans hfresh.1, hno'⟩

/-- The clock disturbs nobody. -/
theorem clock_rely (j : SystemRole) (s : SystemState) (d : Nat) :
    ((discipline X mode good strict).rely j).rel s { s with now := s.now + d } := by
  cases j with
  | consumer n => exact ⟨fun _ h => h, fun _ row h _ => ⟨row, h, SameJob.refl row, id⟩⟩
  | gateway jobId => exact fun hno => ⟨hno, rfl⟩

theorem clock_fresh {j : SystemRole} {s : SystemState} (d : Nat)
    (h : (discipline X mode good strict).fresh j s) :
    (discipline X mode good strict).fresh j { s with now := s.now + d } := by
  cases j with
  | consumer n => trivial
  | gateway jobId => exact h

/-- **The system keeps the discipline.** -/
theorem system_sound (hX : GoodExtractions X good) (hR : GoodRecoveries X good)
    (hg : strict → ∀ c jobId op e s' procs',
      g c (.call (.gateway jobId) op (.error e)) ⟨s', procs'⟩ → ¬Uncovered s' jobId) :
    (systemMachine X mode).Sound g (discipline X mode good strict) fun _ => True where
  sem := by
    intro c i op r s' procs' hsem hgc
    cases i with
    | consumer n => exact hsem
    | gateway jobId =>
      refine ⟨hsem, ?_⟩
      rintro hstrict e rfl
      exact hg hstrict c jobId op e s' procs' hgc
  spawn := fun hp _ hfresh => systemSpawn_safe hX hR hp hfresh
  compat := fun _ _ _ hij _ _ hguar => guar_rely hij hguar
  freshStable := fun hij _ hguar hfresh => guar_fresh hij hguar hfresh
  env := by
    rintro s s' ⟨d, rfl⟩ hinv
    exact ⟨⟨hinv.ids, hinv.entries, hinv.acked, hinv.success⟩, fun j => clock_rely j s d,
      fun j hfresh => clock_fresh d hfresh⟩

theorem initial_fresh (i : SystemRole) :
    (discipline X mode good strict).fresh i SystemState.initial := by
  cases i with
  | consumer n => trivial
  | gateway jobId => exact ⟨rfl, fun ⟨_, h, _⟩ => by cases h⟩

theorem initial_ok : Ok (discipline X mode good strict) systemInitial :=
  Ok.initial SystemInv.initial initial_fresh

section Run

variable {c c' : SystemPool}

theorem run_ok (hD : (systemMachine X mode).Sound g (discipline X mode good strict) fun _ => True)
    (h : (systemMachine X mode).Steps g systemInitial c) :
    Ok (discipline X mode good strict) c :=
  hD.ok (fun _ _ => trivial) initial_ok h

theorem run_guar
    (hD : (systemMachine X mode).Sound g (discipline X mode good strict) fun _ => True)
    (h : (systemMachine X mode).Steps g systemInitial c) {i : SystemRole} {op : SystemOp}
    {r : Except PyError (SystemPort.Ans op)} (hf : (systemMachine X mode).Fire c (.call i op r) c')
    (hg : g c (.call i op r) c') :
    (discipline X mode good strict).guar i op c.state c'.state :=
  hD.call (fun _ _ => trivial) initial_ok h hf hg

theorem step_kept
    (hD : (systemMachine X mode).Sound g (discipline X mode good strict) fun _ => True)
    (h : (systemMachine X mode).Steps g systemInitial c) {l : Label SystemPort PyError SystemRole}
    (hf : (systemMachine X mode).Fire c l c') (hg : g c l c') : Kept c.state c'.state := by
  cases hf with
  | spawn => exact Kept.refl _
  | crash => exact Kept.refl _
  | call hi hsem => exact guar_kept (run_guar hD h (Fire.call hi hsem) hg)
  | env henv =>
    obtain ⟨d, rfl⟩ := henv
    exact ⟨fun _ h => h, fun _ row h _ => ⟨row, h, SameJob.refl row, id⟩⟩

/-- **Over time** entries stay, and rows with an entry stay final once they are. -/
theorem run_kept
    (hD : (systemMachine X mode).Sound g (discipline X mode good strict) fun _ => True)
    (h : (systemMachine X mode).Steps g systemInitial c)
    (h' : (systemMachine X mode).Steps g c c') : Kept c.state c'.state :=
  h'.induct (P := fun c' => Kept c.state c'.state) (Kept.refl _) fun _ _ _ hrun hk hf hg =>
    hk.trans (step_kept hD (h.trans hrun) hf hg)

end Run

end Sentinel
