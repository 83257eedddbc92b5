import Sentinel.Gateway.RateLimiter

/-!
# Counters that never end

Only the call that creates a counter sets its time to live, in a second command. If that command
is never made, or is lost, the counter stays for ever and so does the verdict on its client.

* `LimiterOk` — at most one call is about to set the time to live of a counter
* `EveryCounterEnds` — a counter has a time to live, or such a call
* `no_lockout` — as long as no such command is lost, and then clients are admitted again
* `lost_expiry_locks_out` — a counter whose command is lost stays for ever
* `locked_out` — a call that dies between its two commands
-/

namespace Sentinel

open Lib Machine RedisRateLimiter

abbrev LimiterPool := Pool RateLimiterPort PyError RateLimitedCall CounterStore

abbrev LimiterGuard := Guard RateLimiterPort PyError RateLimitedCall CounterStore

/-! ## what is left of a call -/

def Answered (p : RateLimiterProg Unit) : Prop := ∀ op k, p ≠ .call op k

/-- A call that has created a counter and is about to set its time to live. -/
def expiring (self : RedisRateLimiter) (identifier : String) (count : Nat) :
    RateLimiterProg Unit :=
  RateLimiterPort.expire (key identifier) self.windowSeconds >>= fun _ => verdict self count

theorem expiring_next (self : RedisRateLimiter) (identifier : String) (count : Nat) :
    ∃ k, expiring self identifier count = .call (.expire (key identifier) self.windowSeconds) k :=
  ⟨_, rfl⟩

inductive Remaining (self : RedisRateLimiter) (identifier : String) : RateLimiterProg Unit → Prop
  | start : Remaining self identifier (checkRateLimit self identifier)
  | expiring (count : Nat) : Remaining self identifier (expiring self identifier count)
  | answered {p : RateLimiterProg Unit} : Answered p → Remaining self identifier p

theorem answered_verdict (self : RedisRateLimiter) (count : Nat) :
    Answered (verdict self count) := by
  intro op k
  unfold verdict
  split <;> nofun

theorem answered_raise (e : PyError) : Answered (Prog.raise e) := nofun

/-- The next command of a call, and how it goes on. -/
inductive NextCommand (self : RedisRateLimiter) (identifier : String) :
    (op : RateLimiterPort.Op) → (Except PyError (RateLimiterPort.Ans op) → RateLimiterProg Unit) →
      Prop
  | incr {k : Except PyError Nat → RateLimiterProg Unit} :
      (∀ count, k (.ok count) =
        if count = 1 then Sentinel.expiring self identifier count else verdict self count) →
      (∀ e, k (.error e) = .raise e) →
      NextCommand self identifier (.incr (key identifier)) k
  | expire {k : Except PyError Bool → RateLimiterProg Unit} :
      (∀ r, Answered (k r)) →
      NextCommand self identifier (.expire (key identifier) self.windowSeconds) k

theorem Remaining.next {self : RedisRateLimiter} {identifier : String} {op : RateLimiterPort.Op}
    {k : Except PyError (RateLimiterPort.Ans op) → RateLimiterProg Unit}
    (h : Remaining self identifier (.call op k)) : NextCommand self identifier op k := by
  generalize hp : Prog.call op k = p at h
  cases h with
  | start =>
    rw [checkRateLimit_eq] at hp
    change Prog.call op k = Prog.call _ _ at hp
    cases hp
    exact NextCommand.incr (fun count => rfl) fun e => rfl
  | expiring count =>
    change Prog.call op k = Prog.call _ _ at hp
    cases hp
    refine NextCommand.expire fun r => ?_
    cases r with
    | ok b => exact answered_verdict self count
    | error e => exact answered_raise e
  | answered hfin => exact absurd hp.symm (hfin op k)

theorem NextCommand.expire_key {self : RedisRateLimiter} {identifier key' : String} {seconds : Nat}
    {k : Except PyError Bool → RateLimiterProg Unit}
    (h : NextCommand self identifier (.expire key' seconds) k) : key' = key identifier := by
  cases h
  rfl

/-- The program after a command. -/
theorem NextCommand.remaining {self : RedisRateLimiter} {identifier : String}
    {op : RateLimiterPort.Op}
    {k : Except PyError (RateLimiterPort.Ans op) → RateLimiterProg Unit}
    (h : NextCommand self identifier op k) (r : Except PyError (RateLimiterPort.Ans op)) :
    Remaining self identifier (k r) := by
  cases h with
  | incr hok herr =>
    cases r with
    | ok count =>
      rw [hok]
      split
      · exact Remaining.expiring count
      · exact Remaining.answered (answered_verdict self count)
    | error e =>
      rw [herr]
      exact Remaining.answered (answered_raise e)
  | expire hfin => exact Remaining.answered (hfin r)

/-! ## calls that are about to set a time to live -/

/-- The next command of the call is an `EXPIRE`. -/
def Expiring (c : LimiterPool) (call : RateLimitedCall) : Prop :=
  ∃ key seconds k, c.procs call = .running (.call (.expire key seconds) k)

theorem Expiring.update {c : LimiterPool} {call call' : RateLimitedCall} {s : CounterStore}
    {x : Proc RateLimiterPort PyError}
    (h : Expiring ⟨s, Function.update c.procs call x⟩ call') :
    (call' ≠ call ∧ Expiring c call') ∨
      (call' = call ∧ ∃ key seconds k, x = .running (.call (.expire key seconds) k)) := by
  obtain ⟨key, seconds, k, hp⟩ := h
  rcases update_running hp with ⟨rfl, hx⟩ | ⟨hne, hp⟩
  · exact Or.inr ⟨rfl, key, seconds, k, hx⟩
  · exact Or.inl ⟨hne, key, seconds, k, hp⟩

/-- What holds in every state of every run. -/
structure LimiterOk (limiter : RedisRateLimiter) (c : LimiterPool) : Prop where
  programs : ∀ call p, c.procs call = .running p → Remaining limiter call.identifier p
  positive : ∀ key counter, c.state.counters key = some counter → 1 ≤ counter.count
  /-- The counter of a call that is about to set its time to live is there, and has none. -/
  pending : ∀ call, Expiring c call →
    ∃ n, c.state.counters (key call.identifier) = some ⟨n, none⟩
  unique : ∀ call call', Expiring c call → Expiring c call' →
    call.identifier = call'.identifier → call = call'

section Ok

variable {self : RedisRateLimiter} {c c' : LimiterPool}

/-- A step of one call. -/
theorem LimiterOk.update (h : LimiterOk self c) {call : RateLimitedCall} {s : CounterStore}
    {x : Proc RateLimiterPort PyError}
    (hprogram : ∀ p, x = .running p → Remaining self call.identifier p)
    (hpositive : ∀ key counter, s.counters key = some counter → 1 ≤ counter.count)
    (hother : ∀ call' n, call' ≠ call → Expiring c call' →
      c.state.counters (key call'.identifier) = some ⟨n, none⟩ →
        ∃ n, s.counters (key call'.identifier) = some ⟨n, none⟩)
    (hself : ∀ key' seconds k, x = .running (.call (.expire key' seconds) k) →
      (∃ n, s.counters (key call.identifier) = some ⟨n, none⟩) ∧
        ∀ call', Expiring c call' → call'.identifier ≠ call.identifier) :
    LimiterOk self ⟨s, Function.update c.procs call x⟩ := by
  refine ⟨?_, hpositive, ?_, ?_⟩
  · intro call' p hp
    rcases update_running hp with ⟨rfl, hx⟩ | ⟨-, hp⟩
    · exact hprogram p hx
    · exact h.programs call' p hp
  · intro call' hpending
    rcases hpending.update with ⟨hne, hold⟩ | ⟨rfl, key', seconds, k, hx⟩
    · obtain ⟨n, hn⟩ := h.pending call' hold
      exact hother call' n hne hold hn
    · exact (hself key' seconds k hx).1
  · intro call₁ call₂ h₁ h₂ hid
    rcases h₁.update with ⟨hne₁, hold₁⟩ | ⟨rfl, _, _, _, hx₁⟩
    · rcases h₂.update with ⟨-, hold₂⟩ | ⟨rfl, _, _, _, hx₂⟩
      · exact h.unique call₁ call₂ hold₁ hold₂ hid
      · exact absurd hid ((hself _ _ _ hx₂).2 call₁ hold₁)
    · rcases h₂.update with ⟨-, hold₂⟩ | ⟨rfl, _, _, _, hx₂⟩
      · exact absurd hid.symm ((hself _ _ _ hx₁).2 call₂ hold₂)
      · rfl

/-- What an `INCR` does to a counter without a time to live. -/
theorem incr_unending {s : CounterStore} {key' key'' : String} {n : Nat}
    (h : s.counters key'' = some ⟨n, none⟩) :
    ∃ n', n ≤ n' ∧ (s.incr key').2.counters key'' = some ⟨n', none⟩ := by
  by_cases hkey : key'' = key'
  · subst hkey
    rw [CounterStore.incr_some (CounterStore.find_unending h)]
    exact ⟨n + 1, Nat.le_succ n, CounterStore.set_self _ _ _⟩
  · exact ⟨n, Nat.le_refl n, (CounterStore.incr_of_ne hkey).trans h⟩

theorem incr_positive {s : CounterStore} {key' : String}
    (h : ∀ key counter, s.counters key = some counter → 1 ≤ counter.count) :
    ∀ key counter, (s.incr key').2.counters key = some counter → 1 ≤ counter.count := by
  intro key counter hcounter
  by_cases hkey : key = key'
  · subst hkey
    cases hfind : s.find key with
    | none =>
      rw [CounterStore.incr_none hfind, CounterStore.set_self] at hcounter
      cases hcounter
      exact Nat.le_refl 1
    | some old =>
      rw [CounterStore.incr_some hfind, CounterStore.set_self] at hcounter
      cases hcounter
      exact Nat.le_add_left 1 old.count
  · rw [CounterStore.incr_of_ne hkey] at hcounter
    exact h key counter hcounter

theorem expire_positive {s : CounterStore} {key' : String} {seconds : Nat}
    (h : ∀ key counter, s.counters key = some counter → 1 ≤ counter.count) :
    ∀ key counter, (s.expire key' seconds).2.counters key = some counter → 1 ≤ counter.count := by
  intro key counter hcounter
  by_cases hkey : key = key'
  · subst hkey
    cases hfind : s.find key with
    | none =>
      rw [CounterStore.expire_none hfind] at hcounter
      exact h key counter hcounter
    | some old =>
      rw [CounterStore.expire_some hfind, CounterStore.set_self] at hcounter
      cases hcounter
      exact h key old (CounterStore.find_eq_some.mp hfind).1
  · rw [CounterStore.expire_of_ne hkey] at hcounter
    exact h key counter hcounter

/-- Whoever counts to 1 has found no counter. -/
theorem incr_one {s : CounterStore} {key' : String}
    (h : ∀ key counter, s.counters key = some counter → 1 ≤ counter.count)
    (hone : (s.incr key').1 = 1) : s.find key' = none := by
  cases hfind : s.find key' with
  | none => rfl
  | some counter =>
    rw [CounterStore.incr_some hfind] at hone
    have hpositive := h key' counter (CounterStore.find_eq_some.mp hfind).1
    have hcount : counter.count + 1 = 1 := hone
    omega

/-- A command that returns has taken effect; one that raises may or may not have. -/
theorem withFaults_effect {op : RateLimiterPort.Op} {s s' : CounterStore}
    {r : Except PyError (RateLimiterPort.Ans op)}
    (h : withFaults (fun op s a s' => counterStep op s = (a, s')) op s r s') :
    (s' = s ∧ ∃ e, r = .error e) ∨ (s' = (counterStep op s).2 ∧ ∀ a, r = .ok a →
      a = (counterStep op s).1) := by
  cases r with
  | ok a =>
    have hstep : counterStep op s = (a, s') := h
    rw [hstep]
    exact Or.inr ⟨rfl, fun a' ha => (Except.ok.inj ha).symm⟩
  | error e =>
    rcases h with rfl | ⟨a, ha⟩
    · exact Or.inl ⟨rfl, e, rfl⟩
    · have hstep : counterStep op s = (a, s') := ha
      rw [hstep]
      exact Or.inr ⟨rfl, nofun⟩

/-- **Every step keeps it.** -/
theorem LimiterOk.step (h : LimiterOk self c) {l : Label RateLimiterPort PyError RateLimitedCall}
    (hf : (limiterMachine self).Fire c l c') : LimiterOk self c' := by
  cases hf with
  | @spawn call p hu hsp =>
    obtain rfl : p = checkRateLimit self call.identifier := hsp
    refine h.update ?_ h.positive (fun call' n _ _ hn => ⟨n, hn⟩) ?_
    · rintro p ⟨⟩
      exact Remaining.start
    · intro key' seconds k hx
      rw [checkRateLimit_eq] at hx
      cases hx
  | @call call op k r s' hi hsem =>
    have hnext := (h.programs call _ hi).next
    have hprogram : ∀ p, Proc.running (k r) = .running p → Remaining self call.identifier p := by
      rintro p ⟨⟩
      exact hnext.remaining r
    cases hnext with
    | incr hok herr =>
      rcases withFaults_effect hsem with ⟨rfl, e, rfl⟩ | ⟨rfl, hcount⟩
      · refine h.update hprogram h.positive (fun call' n _ _ hn => ⟨n, hn⟩) ?_
        intro key' seconds k' hx
        rw [herr] at hx
        cases hx
      · refine h.update hprogram (incr_positive h.positive) ?_ ?_
        · intro call' n _ _ hn
          obtain ⟨n', -, hn'⟩ := incr_unending hn
          exact ⟨n', hn'⟩
        · intro key' seconds k' hx
          cases r with
          | error e =>
            rw [herr] at hx
            cases hx
          | ok count =>
            rw [hok] at hx
            by_cases hone : count = 1
            · -- the counter is new, so nobody else is about to set its time to live
              have hfind := incr_one h.positive ((hcount count rfl).symm.trans hone)
              refine ⟨⟨1, ?_⟩, fun call' hpend hid => ?_⟩
              · show (c.state.incr _).2.counters _ = _
                rw [CounterStore.incr_none hfind, CounterStore.set_self]
              · obtain ⟨n, hn⟩ := h.pending call' hpend
                rw [hid] at hn
                rw [CounterStore.find_unending hn] at hfind
                cases hfind
            · rw [if_neg hone] at hx
              exact absurd (Proc.running.inj hx) (answered_verdict self count _ _)
    | expire hfin =>
      rcases withFaults_effect hsem with ⟨rfl, e, rfl⟩ | ⟨rfl, -⟩
      · exact h.update hprogram h.positive (fun call' n _ _ hn => ⟨n, hn⟩)
          fun key' seconds k' hx => absurd (Proc.running.inj hx) (hfin _ _ _)
      · refine h.update hprogram (expire_positive h.positive) (fun call' n hne hpend hn => ?_)
          fun key' seconds k' hx => absurd (Proc.running.inj hx) (hfin _ _ _)
        -- no other call is about to set the time to live of the same counter
        have hid : call'.identifier ≠ call.identifier := fun hid =>
          hne (h.unique call' call hpend ⟨_, _, _, hi⟩ hid)
        exact ⟨n, (CounterStore.expire_of_ne fun hkey => hid (key_injective hkey)).trans hn⟩
  | @crash call p hc hi =>
    exact h.update nofun h.positive (fun call' n _ _ hn => ⟨n, hn⟩) nofun
  | env henv =>
    obtain ⟨d, rfl⟩ := henv
    exact ⟨h.programs, h.positive, h.pending, h.unique⟩

theorem run_limiterOk {g : LimiterGuard} (h : (limiterMachine self).Steps g
    (Pool.initial CounterStore.empty) c) : LimiterOk self c := by
  refine h.induct (P := LimiterOk self) ⟨nofun, nofun, ?_, ?_⟩ fun _ _ _ _ hok hf _ => hok.step hf
  · rintro call ⟨_, _, _, hp⟩
    cases hp
  · rintro call call' ⟨_, _, _, hp⟩
    cases hp

/-! ## counters that end -/

/-- Every counter has a time to live of at most a window, or a call that is about to set it. -/
def EveryCounterEnds (self : RedisRateLimiter) (c : LimiterPool) : Prop :=
  ∀ key counter, c.state.find key = some counter →
    (∃ x, counter.expiresAt = some x ∧ x ≤ c.state.now + self.window) ∨
      ∃ call k, c.procs call = .running (.call (.expire key self.windowSeconds) k)

/-- No command that would set a time to live is lost: no process dies when it is the next one, and
it takes effect even if it raises; and an `INCR` that raises has not created a counter. -/
def noExpiryLost : LimiterGuard := fun c l c' =>
  match l with
  | .crash call => ¬Expiring c call
  | .call _ (.incr key) (.error _) => c.state.find key = none → c'.state = c.state
  | .call _ (.expire key seconds) (.error _) => c'.state = (c.state.expire key seconds).2
  | _ => True

/-- What a step does to a counter that is there, one key at a time. -/
theorem EveryCounterEnds.update (h : EveryCounterEnds self c) {call : RateLimitedCall}
    {s : CounterStore} {x : Proc RateLimiterPort PyError} (hnow : s.now = c.state.now)
    (hkey : ∀ key counter, s.find key = some counter →
      (∃ x, counter.expiresAt = some x ∧ x ≤ c.state.now + self.window) ∨
      (∃ k, x = .running (.call (.expire key self.windowSeconds) k)) ∨
      ∃ counter', c.state.find key = some counter' ∧ counter'.expiresAt = counter.expiresAt ∧
        ∀ k, c.procs call ≠ .running (.call (.expire key self.windowSeconds) k)) :
    EveryCounterEnds self ⟨s, Function.update c.procs call x⟩ := by
  intro key counter hfind
  rcases hkey key counter hfind with hends | ⟨k, rfl⟩ | ⟨counter', hfind', heq, hother⟩
  · rw [← hnow] at hends
    exact Or.inl hends
  · exact Or.inr ⟨call, k, by simp⟩
  · rcases h key counter' hfind' with ⟨x, hx, hle⟩ | ⟨call', k, hp⟩
    · exact Or.inl ⟨x, heq.symm.trans hx, hnow ▸ hle⟩
    · have hne : call' ≠ call := fun he => hother k (he ▸ hp)
      exact Or.inr ⟨call', k, by simpa [hne] using hp⟩

theorem find_of_ne {s s' : CounterStore} {key' : String} (hnow : s'.now = s.now)
    (h : s'.counters key' = s.counters key') : s'.find key' = s.find key' := by
  unfold CounterStore.find
  rw [hnow, h]

/-- After an `INCR` a counter is the one it has created, or has the end it had before. -/
theorem find_incr {s : CounterStore} {key key' : String} {counter : Counter}
    (h : (s.incr key).2.find key' = some counter) :
    (key' = key ∧ s.find key = none) ∨
      ∃ old, s.find key' = some old ∧ old.expiresAt = counter.expiresAt := by
  by_cases hkey : key' = key
  · subst hkey
    cases hold : s.find key' with
    | none => exact Or.inl ⟨rfl, rfl⟩
    | some old =>
      have hcounters := (CounterStore.find_eq_some.mp h).1
      rw [CounterStore.incr_some hold, CounterStore.set_self] at hcounters
      cases hcounters
      exact Or.inr ⟨old, rfl, rfl⟩
  · rw [find_of_ne CounterStore.incr_now (CounterStore.incr_of_ne hkey)] at h
    exact Or.inr ⟨counter, h, rfl⟩

/-- After an `EXPIRE` a counter has the new end, or is another one. -/
theorem find_expire {s : CounterStore} {key key' : String} {seconds : Nat} {counter : Counter}
    (h : (s.expire key seconds).2.find key' = some counter) :
    counter.expiresAt = some (s.now + 1000 * seconds) ∨
      (key' ≠ key ∧ s.find key' = some counter) := by
  by_cases hkey : key' = key
  · subst hkey
    cases hold : s.find key' with
    | none =>
      rw [CounterStore.expire_none hold, hold] at h
      cases h
    | some old =>
      have hcounters := (CounterStore.find_eq_some.mp h).1
      rw [CounterStore.expire_some hold, CounterStore.set_self] at hcounters
      cases hcounters
      exact Or.inl rfl
  · rw [find_of_ne CounterStore.expire_now (CounterStore.expire_of_ne hkey)] at h
    exact Or.inr ⟨hkey, h⟩

/-- **Every step that loses no such command keeps it.** -/
theorem EveryCounterEnds.step (hok : LimiterOk self c) (h : EveryCounterEnds self c)
    {l : Label RateLimiterPort PyError RateLimitedCall} (hf : (limiterMachine self).Fire c l c')
    (hg : noExpiryLost c l c') : EveryCounterEnds self c' := by
  cases hf with
  | @spawn call p hu hsp =>
    refine h.update rfl fun key counter hfind => Or.inr (Or.inr ⟨counter, hfind, rfl, ?_⟩)
    intro k hp
    rw [hu] at hp
    cases hp
  | @call call op k r s' hi hsem =>
    have hnext := (hok.programs call _ hi).next
    cases hnext with
    | @incr k hreturn _ =>
      have hother : ∀ key' k', c.procs call ≠
          .running (.call (.expire key' self.windowSeconds) k') := by
        intro key' k' hp
        rw [hi] at hp
        cases hp
      rcases withFaults_effect hsem with ⟨rfl, -⟩ | ⟨rfl, hcount⟩
      · exact h.update rfl fun key' counter hfind =>
          Or.inr (Or.inr ⟨counter, hfind, rfl, hother key'⟩)
      · refine h.update CounterStore.incr_now fun key' counter hfind => ?_
        have hfind : (c.state.incr (key call.identifier)).2.find key' = some counter := hfind
        rcases find_incr hfind with ⟨rfl, hnone⟩ | ⟨old, hold, hends⟩
        · cases r with
          | error e =>
            -- it has created a counter and raised, which the condition excludes
            have heq : (c.state.incr (key call.identifier)).2 = c.state := hg hnone
            rw [heq, hnone] at hfind
            cases hfind
          | ok count =>
            have hone : count = 1 := by
              rw [hcount count rfl]
              exact congrArg Prod.fst (CounterStore.incr_none hnone)
            obtain ⟨k', hk'⟩ := expiring_next self call.identifier count
            exact Or.inr (Or.inl ⟨k', by rw [hreturn, if_pos hone, hk']⟩)
        · exact Or.inr (Or.inr ⟨old, hold, hends, hother key'⟩)
    | @expire k hanswered =>
      obtain rfl : s' = (c.state.expire (key call.identifier) self.windowSeconds).2 := by
        cases r with
        | ok b => exact (congrArg Prod.snd (show counterStep _ _ = (b, s') from hsem)).symm
        | error e => exact hg
      refine h.update CounterStore.expire_now fun key' counter hfind => ?_
      rcases find_expire hfind with hends | ⟨hkey, hfind⟩
      · exact Or.inl ⟨_, hends, Nat.le_refl _⟩
      · refine Or.inr (Or.inr ⟨counter, hfind, rfl, fun k' hp => ?_⟩)
        rw [hi] at hp
        cases hp
        exact hkey rfl
  | @crash call p hc hi =>
    refine h.update rfl fun key' counter hfind => Or.inr (Or.inr ⟨counter, hfind, rfl, ?_⟩)
    exact fun k hp => hg ⟨_, _, k, hp⟩
  | env henv =>
    obtain ⟨d, rfl⟩ := henv
    intro key' counter hfind
    obtain ⟨hcounter, halive⟩ := CounterStore.find_eq_some.mp hfind
    have halive' := Counter.aliveAt_earlier (Nat.le_add_right c.state.now d) halive
    rcases h key' counter (CounterStore.find_eq_some.mpr ⟨hcounter, halive'⟩) with
      ⟨x, hx, hle⟩ | hcall
    · refine Or.inl ⟨x, hx, ?_⟩
      show x ≤ c.state.now + d + self.window
      omega
    · exact Or.inr hcall

/-! ## clients that stop calling -/

/-- No call of this client is under way. -/
def Idle (identifier : String) (c : LimiterPool) : Prop :=
  ∀ call, call.identifier = identifier → ¬c.Active call

/-- And none is started. -/
def notCalled (identifier : String) : LimiterGuard := fun _ l _ =>
  ∀ call p, l = .spawn call p → call.identifier ≠ identifier

/-- The command of another client leaves the counter alone. -/
theorem NextCommand.other {identifier identifier' : String} {op : RateLimiterPort.Op}
    {k : Except PyError (RateLimiterPort.Ans op) → RateLimiterProg Unit}
    (h : NextCommand self identifier op k) (hne : identifier' ≠ identifier) (s : CounterStore) :
    (counterStep op s).2.counters (key identifier') = s.counters (key identifier') ∧
      (counterStep op s).2.now = s.now := by
  have hkey : key identifier' ≠ key identifier := fun hkey => hne (key_injective hkey)
  cases h with
  | incr _ _ => exact ⟨CounterStore.incr_of_ne hkey, CounterStore.incr_now⟩
  | expire _ => exact ⟨CounterStore.expire_of_ne hkey, CounterStore.expire_now⟩

theorem Idle.step {identifier : String} (hok : LimiterOk self c) (h : Idle identifier c)
    {l : Label RateLimiterPort PyError RateLimitedCall} (hf : (limiterMachine self).Fire c l c')
    (hg : notCalled identifier c l c') : Idle identifier c' ∧
      c'.state.counters (key identifier) = c.state.counters (key identifier) ∧
        c.state.now ≤ c'.state.now := by
  refine ⟨fun call hid hactive => ?_, ?_⟩
  · rcases hf.active hactive with hold | ⟨p, hp⟩
    · exact h call hid hold
    · exact hg call p hp hid
  · cases hf with
    | spawn => exact ⟨rfl, Nat.le_refl _⟩
    | crash => exact ⟨rfl, Nat.le_refl _⟩
    | @call call op k r s' hi hsem =>
      have hne : identifier ≠ call.identifier := fun hid => h call hid.symm ⟨op, k, hi⟩
      obtain ⟨hcounter, hnow⟩ := (hok.programs call _ hi).next.other hne c.state
      rcases withFaults_effect hsem with ⟨rfl, -⟩ | ⟨rfl, -⟩
      · exact ⟨rfl, Nat.le_refl _⟩
      · exact ⟨hcounter, Nat.le_of_eq hnow.symm⟩
    | env henv =>
      obtain ⟨d, rfl⟩ := henv
      exact ⟨rfl, Nat.le_add_right _ d⟩

/-- Without a counter the next call is admitted. -/
theorem checkRateLimit_first {identifier : String} {s : CounterStore}
    (hfind : s.find (key identifier) = none) (hlimit : 1 ≤ self.limit) :
    ((checkRateLimit self identifier).exec counterReturns s).1 = .ok () := by
  have hincr : counterReturns (.incr (key identifier)) s =
      (.ok 1, s.set (key identifier) ⟨1, none⟩) := by
    show (Except.ok (s.incr _).1, (s.incr _).2) = _
    rw [CounterStore.incr_none hfind]
  rw [checkRateLimit_eq, Prog.exec_perform_bind _ hincr, if_pos rfl,
    Prog.exec_perform_bind _ (show counterReturns (.expire _ _) _ = (.ok _, _) from rfl)]
  unfold verdict
  rw [if_pos hlimit]
  rfl

/--
**No lockout.** In every run in which no command is lost that would set a time to live: every
counter has a time to live of at most a window, or a call that is about to set it. And a client
that has no call under way and makes none for the length of a window has no counter any more, so
its next call is admitted.
-/
theorem no_lockout
    (h : (limiterMachine self).Steps noExpiryLost (Pool.initial CounterStore.empty) c) :
    EveryCounterEnds self c ∧ ∀ identifier, Idle identifier c → ∀ c',
      (limiterMachine self).Steps (notCalled identifier) c c' →
      c.state.now + self.window ≤ c'.state.now →
        c'.state.find (key identifier) = none ∧ (1 ≤ self.limit →
          ((checkRateLimit self identifier).exec counterReturns c'.state).1 = .ok ()) := by
  have hends : EveryCounterEnds self c :=
    h.induct (P := EveryCounterEnds self) (fun _ _ hfind => by cases hfind)
      fun _ _ _ hrun hends hf hg => hends.step (run_limiterOk hrun) hf hg
  refine ⟨hends, fun identifier hidle c' h' hlater => ?_⟩
  have hok := run_limiterOk h
  have hkept : LimiterOk self c' ∧ Idle identifier c' ∧
      c'.state.counters (key identifier) = c.state.counters (key identifier) ∧
        c.state.now ≤ c'.state.now := by
    refine h'.induct (P := fun c' => LimiterOk self c' ∧ Idle identifier c' ∧
      c'.state.counters (key identifier) = c.state.counters (key identifier) ∧
        c.state.now ≤ c'.state.now) ⟨hok, hidle, rfl, Nat.le_refl _⟩ ?_
    rintro c₁ l c₂ - ⟨hok₁, hidle₁, hcounter₁, hnow₁⟩ hf hg
    obtain ⟨hidle₂, hcounter₂, hnow₂⟩ := hidle₁.step hok₁ hf hg
    exact ⟨hok₁.step hf, hidle₂, hcounter₂.trans hcounter₁, Nat.le_trans hnow₁ hnow₂⟩
  obtain ⟨-, -, hsame, hnow⟩ := hkept
  have hfind : c'.state.find (key identifier) = none := by
    cases hfind : c'.state.find (key identifier) with
    | none => rfl
    | some counter =>
      exfalso
      obtain ⟨hcounter, halive⟩ := CounterStore.find_eq_some.mp hfind
      have hbefore : c.state.find (key identifier) = some counter :=
        CounterStore.find_eq_some.mpr
          ⟨hsame.symm.trans hcounter, Counter.aliveAt_earlier hnow halive⟩
      rcases hends _ counter hbefore with ⟨x, hx, hle⟩ | ⟨call, k, hp⟩
      · simp only [Counter.aliveAt, hx, decide_eq_true_eq] at halive
        omega
      · -- a call that is about to set the time to live is one of this client
        have hid := key_injective (hok.programs call _ hp).next.expire_key
        exact hidle call hid.symm ⟨_, k, hp⟩
  exact ⟨hfind, checkRateLimit_first hfind⟩

/-! ## commands that are lost -/

/-- The counter of the client stands at `n` at least, and nobody will ever set its time to live. -/
def LockedOut (identifier : String) (n : Nat) (c : LimiterPool) : Prop :=
  (∃ n', n ≤ n' ∧ c.state.counters (key identifier) = some ⟨n', none⟩) ∧
    ∀ call, call.identifier = identifier → ¬Expiring c call

/-- A counter that never ends stays, whatever happens. -/
theorem LockedOut.step {identifier : String} {n : Nat} (hok : LimiterOk self c)
    (h : LockedOut identifier n c) {l : Label RateLimiterPort PyError RateLimitedCall}
    (hf : (limiterMachine self).Fire c l c') : LockedOut identifier n c' := by
  obtain ⟨⟨n', hn, hcounter⟩, hnobody⟩ := h
  cases hf with
  | @spawn call p hu hsp =>
    obtain rfl : p = checkRateLimit self call.identifier := hsp
    refine ⟨⟨n', hn, hcounter⟩, fun call' hid hexp => ?_⟩
    rcases hexp.update with ⟨-, hold⟩ | ⟨-, key', seconds, k, hx⟩
    · exact hnobody call' hid hold
    · rw [checkRateLimit_eq] at hx
      cases hx
  | @crash call p hc hi =>
    refine ⟨⟨n', hn, hcounter⟩, fun call' hid hexp => ?_⟩
    rcases hexp.update with ⟨-, hold⟩ | ⟨-, key', seconds, k, hx⟩
    · exact hnobody call' hid hold
    · cases hx
  | env henv =>
    obtain ⟨d, rfl⟩ := henv
    exact ⟨⟨n', hn, hcounter⟩, hnobody⟩
  | @call call op k r s' hi hsem =>
    have hnext := (hok.programs call _ hi).next
    have heffect : ∃ n'', n' ≤ n'' ∧ s'.counters (key identifier) = some ⟨n'', none⟩ := by
      rcases withFaults_effect hsem with ⟨rfl, -⟩ | ⟨rfl, -⟩
      · exact ⟨n', Nat.le_refl _, hcounter⟩
      · by_cases hid : identifier = call.identifier
        · cases hnext with
          | incr _ _ => exact incr_unending hcounter
          | expire _ => exact absurd ⟨_, _, _, hi⟩ (hnobody call hid.symm)
        · exact ⟨n', Nat.le_refl _, (hnext.other hid c.state).1.trans hcounter⟩
    obtain ⟨n'', hle, hcounter'⟩ := heffect
    refine ⟨⟨n'', Nat.le_trans hn hle, hcounter'⟩, fun call' hid hexp => ?_⟩
    rcases hexp.update with ⟨-, hold⟩ | ⟨rfl, key', seconds, k', hx⟩
    · exact hnobody call' hid hold
    · -- it has found a counter, so it does not set the time to live
      cases hnext with
      | expire hanswered => exact hanswered r _ _ (Proc.running.inj hx)
      | incr hreturn hraise =>
        cases r with
        | error e =>
          rw [hraise] at hx
          cases hx
        | ok count =>
          have hfound := CounterStore.find_unending hcounter
          rw [← hid] at hfound
          have hcount : count = n' + 1 := by
            have hstep : counterStep (.incr _) c.state = (count, s') := hsem
            exact (congrArg Prod.fst hstep).symm.trans
              (congrArg Prod.fst (CounterStore.incr_some hfound))
          have hone : ¬count = 1 := by
            have hpositive : 1 ≤ n' := hok.positive _ _ hcounter
            intro hone
            have hzero : n' + 1 = 1 := hcount.symm.trans hone
            omega
          rw [hreturn, if_neg hone] at hx
          exact answered_verdict self count _ _ (Proc.running.inj hx)

/-- **A lost command locks its client out**: the counter never ends. -/
theorem lost_expiry_locks_out (hok : LimiterOk self c)
    {l : Label RateLimiterPort PyError RateLimitedCall} (hf : (limiterMachine self).Fire c l c')
    (hg : ¬noExpiryLost c l c') : ∃ call, (l = .crash call ∨ ∃ op r, l = .call call op r) ∧
      LockedOut call.identifier 1 c' := by
  -- the counter of a call that was about to set its time to live, and does so no more
  have hlost : ∀ call s x, s.counters (key call.identifier) =
        c.state.counters (key call.identifier) → Expiring c call →
      (∀ key seconds k, x ≠ .running (.call (.expire key seconds) k)) →
        LockedOut call.identifier 1 ⟨s, Function.update c.procs call x⟩ := by
    intro call s x hsame hexp hx
    obtain ⟨n, hn⟩ := hok.pending call hexp
    refine ⟨⟨n, hok.positive _ _ hn, hsame.trans hn⟩, fun call' hid hexp' => ?_⟩
    rcases hexp'.update with ⟨hne, hold⟩ | ⟨-, key', seconds, k, hx'⟩
    · exact hne (hok.unique call' call hold hexp hid)
    · exact hx key' seconds k hx'
  cases hf with
  | spawn => exact absurd trivial hg
  | env => exact absurd trivial hg
  | @crash call p hc hi =>
    exact ⟨call, Or.inl rfl, hlost call _ _ rfl (not_not.mp hg) nofun⟩
  | @call call op k r s' hi hsem =>
    have hnext := (hok.programs call _ hi).next
    have heff := withFaults_effect hsem
    cases r with
    | ok a => cases hnext <;> exact absurd trivial hg
    | error e =>
      cases hnext with
      | incr hreturn hraise =>
        obtain ⟨hfind, heffect⟩ := Classical.not_imp.mp hg
        rcases heff with ⟨rfl, -⟩ | ⟨rfl, -⟩
        · exact absurd rfl heffect
        · -- a new counter, of which nobody knows
          refine ⟨call, Or.inr ⟨_, _, rfl⟩, ⟨1, Nat.le_refl 1, ?_⟩, fun call' hid hexp => ?_⟩
          · show (c.state.incr _).2.counters _ = _
            rw [CounterStore.incr_none hfind, CounterStore.set_self]
          · rcases hexp.update with ⟨-, hold⟩ | ⟨-, key', seconds, k', hx⟩
            · obtain ⟨n, hn⟩ := hok.pending call' hold
              rw [hid] at hn
              rw [CounterStore.find_unending hn] at hfind
              cases hfind
            · rw [hraise] at hx
              cases hx
      | expire hanswered =>
        rcases heff with ⟨rfl, -⟩ | ⟨rfl, -⟩
        · exact ⟨call, Or.inr ⟨_, _, rfl⟩, hlost call _ _ rfl ⟨_, _, _, hi⟩
            fun key' seconds k' hx => hanswered _ _ _ (Proc.running.inj hx)⟩
        · exact absurd rfl hg

/-- Such a counter has no end, and once it has reached the limit every call is rejected. -/
theorem LockedOut.rejects {identifier : String} {n : Nat} (hok : LimiterOk self c)
    (h : LockedOut identifier n c) : ¬EveryCounterEnds self c ∧ (self.limit ≤ n →
      ((checkRateLimit self identifier).exec counterReturns c.state).1 =
        .error tooManyRequests) := by
  obtain ⟨⟨n', hn, hcounter⟩, hnobody⟩ := h
  have hfind := CounterStore.find_unending hcounter
  constructor
  · intro hends
    rcases hends _ _ hfind with ⟨x, hx, -⟩ | ⟨call, k, hp⟩
    · cases hx
    · have hid := key_injective (hok.programs call _ hp).next.expire_key
      exact hnobody call hid.symm ⟨_, _, k, hp⟩
  · intro hlimit
    have hpositive : 1 ≤ n' := hok.positive _ _ hcounter
    have hincr : counterReturns (.incr (key identifier)) c.state =
        (.ok (n' + 1), c.state.set (key identifier) ⟨n' + 1, none⟩) := by
      show (Except.ok (c.state.incr _).1, (c.state.incr _).2) = _
      rw [CounterStore.incr_some hfind]
    rw [checkRateLimit_eq, Prog.exec_perform_bind _ hincr, if_neg (by omega)]
    unfold verdict
    rw [if_neg (by omega)]
    rfl

/-- **Exactly the steps that lose no such command keep every counter ending.** -/
theorem everyCounterEnds_iff (hok : LimiterOk self c) (h : EveryCounterEnds self c)
    {l : Label RateLimiterPort PyError RateLimitedCall} (hf : (limiterMachine self).Fire c l c') :
    EveryCounterEnds self c' ↔ noExpiryLost c l c' := by
  refine ⟨fun hends => ?_, h.step hok hf⟩
  by_contra hg
  obtain ⟨call, -, hlocked⟩ := lost_expiry_locks_out hok hf hg
  exact (hlocked.rejects (hok.step hf)).1 hends

end Ok

/-! ## a call that dies between its commands -/

theorem counterReturns_faulty {self : RedisRateLimiter} (call : RateLimitedCall)
    (op : RateLimiterPort.Op) (s : CounterStore) :
    (limiterMachine self).sem call op s (counterReturns op s).1 (counterReturns op s).2 := rfl

/-- One call of a client. -/
def oneCall (n : Nat) : List (Move RateLimiterPort PyError RateLimitedCall CounterStore) :=
  [.spawn ⟨"1.2.3.4", 0⟩ (checkRateLimit oneASecond "1.2.3.4"), .turn ⟨"1.2.3.4", 0⟩ n]

/-- A second after a call has gone through there is no counter any more. -/
theorem no_lockout_oneCall :
    ((play (fun _ => counterReturns) (oneCall 2) (Pool.initial CounterStore.empty)).state.wait
      1000).find (key "1.2.3.4") = none := by
  have hrun : (limiterMachine oneASecond).Steps noExpiryLost (Pool.initial CounterStore.empty)
      (play (fun _ => counterReturns) (oneCall 2) (Pool.initial CounterStore.empty)) :=
    Steps.play counterReturns_faulty (oneCall 2) _
      ⟨⟨⟨rfl, rfl⟩, trivial⟩, ⟨trivial, trivial, trivial⟩, trivial⟩
  refine ((no_lockout hrun).2 "1.2.3.4" ?_ ⟨_, _⟩
    (Relation.ReflTransGen.single ⟨.env, Fire.env ⟨1000, rfl⟩, nofun⟩) (Nat.le_refl _)).1
  rintro call - ⟨op, k, hp⟩
  rcases update_running hp with ⟨-, hx⟩ | ⟨hne, hp⟩
  · cases hx
  · rcases update_running hp with ⟨rfl, -⟩ | ⟨-, hp⟩
    · exact hne rfl
    · rcases update_running hp with ⟨rfl, -⟩ | ⟨-, hp⟩
      · exact hne rfl
      · cases hp

/-- The only call of a client dies after its `INCR`. From then on, in every state of every run,
the counter has no end and the next call is rejected. -/
theorem locked_out : ∃ c,
    (limiterMachine oneASecond).Steps anyStep (Pool.initial CounterStore.empty) c ∧
      ∀ c', (limiterMachine oneASecond).Steps anyStep c c' →
        ¬EveryCounterEnds oneASecond c' ∧
          ((checkRateLimit oneASecond "1.2.3.4").exec counterReturns c'.state).1 =
            .error tooManyRequests := by
  have hrun : (limiterMachine oneASecond).Steps anyStep (Pool.initial CounterStore.empty)
      (play (fun _ => counterReturns) (oneCall 1) (Pool.initial CounterStore.empty)) :=
    Steps.play counterReturns_faulty (oneCall 1) _
      ⟨⟨⟨rfl, rfl⟩, trivial⟩, turnAllowed_anyStep _ _ _, trivial⟩
  have hok := run_limiterOk hrun
  have hdies := Fire.crash (M := limiterMachine oneASecond) (i := ⟨"1.2.3.4", 0⟩)
    (c := play (fun _ => counterReturns) (oneCall 1) (Pool.initial CounterStore.empty))
    trivial rfl
  obtain ⟨call, hl, hlocked⟩ := lost_expiry_locks_out hok hdies fun h => h ⟨_, _, _, rfl⟩
  obtain rfl : call = ⟨"1.2.3.4", 0⟩ := by
    rcases hl with hl | ⟨op, r, hl⟩
    · exact (Label.crash.inj hl).symm
    · cases hl
  refine ⟨_, hrun.tail ⟨_, hdies, trivial⟩, fun c' h' => ?_⟩
  have hkept : LimiterOk oneASecond c' ∧ LockedOut "1.2.3.4" 1 c' :=
    h'.induct (P := fun c' => LimiterOk oneASecond c' ∧ LockedOut "1.2.3.4" 1 c')
      ⟨hok.step hdies, hlocked⟩ fun _ _ _ _ h hf _ => ⟨h.1.step hf, h.2.step h.1 hf⟩
  obtain ⟨hends, hrejects⟩ := hkept.2.rejects hkept.1
  exact ⟨hends, hrejects (Nat.le_refl 1)⟩

end Sentinel
