import Sentinel.Gateway.RateLimiter
import Sentinel.Lib.FixedWindow
import Sentinel.Lib.Recorded

/-!
# Windows of the rate limiter

What the calls of the limiter add up to, as long as every command returns. The record of all
commands says which lives a counter has had; between the `INCR` and the `EXPIRE` of the call that
began a life, any number of others may run.

* `lives` — the lives of a counter, read off the record
* `Schedule` — the records that the limiter can leave behind
* `Schedule.counter`, `Schedule.windows`, `Schedule.numbered`, `Schedule.ends` — what they say
* `fixed_windows` — the limiter keeps its windows, and clients do not get in each other's way
-/

namespace Sentinel

open Lib Machine RedisRateLimiter

abbrev LimiterRecord := CallRecord RateLimiterPort PyError RateLimitedCall CounterStore

abbrev LimiterLog := CallLog RateLimiterPort PyError RateLimitedCall CounterStore

structure Increment where
  call : RateLimitedCall
  time : Nat
  count : Nat

/-- The lives of the counter under a key: an `INCR` that finds none begins one, and the others
join the last one. An `EXPIRE` sets its end. -/
def lives (key : String) : LimiterLog → List (Life Increment)
  | [] => []
  | ⟨call, .incr key', .ok count, found⟩ :: log =>
    if key' = key then
      match found.find key with
      | none => Life.begin ⟨call, found.now, count⟩ (lives key log)
      | some _ => Life.join ⟨call, found.now, count⟩ (lives key log)
    else lives key log
  | ⟨_, .expire key' seconds, .ok true, found⟩ :: log =>
    if key' = key then Life.finish (found.now + 1000 * seconds) (lives key log) else lives key log
  | _ :: log => lives key log

/-- The increments of the counter under a key, the last one first. -/
def increments (key : String) : LimiterLog → List Increment
  | [] => []
  | ⟨call, .incr key', .ok count, found⟩ :: log =>
    if key' = key then ⟨call, found.now, count⟩ :: increments key log else increments key log
  | _ :: log => increments key log

/-- Every increment belongs to a life. -/
theorem flatMap_lives (key : String) (log : LimiterLog) :
    (lives key log).flatMap Life.members = increments key log := by
  induction log with
  | nil => rfl
  | cons r log ih =>
    obtain ⟨call, op, answer, found⟩ := r
    cases op with
    | incr key' =>
      cases answer with
      | error e => exact ih
      | ok count =>
        by_cases hkey : key' = key
        · subst hkey
          simp only [lives, increments, if_true]
          split
          · rw [Life.flatMap_begin, ih]
          · rw [Life.flatMap_join, ih]
        · simp only [lives, increments, if_neg hkey]
          exact ih
    | expire key' seconds =>
      rcases answer with e | _ | _
      · exact ih
      · exact ih
      · by_cases hkey : key' = key
        · subst hkey
          simp only [lives, increments, if_true]
          rw [Life.flatMap_finish, ih]
        · simp only [lives, increments, if_neg hkey]
          exact ih

/-- The increments are the `INCR`s of the record that were answered. -/
theorem mem_increments {key : String} {log : LimiterLog} {a : Increment} :
    a ∈ increments key log ↔
      ∃ found : CounterStore, ⟨a.call, .incr key, .ok a.count, found⟩ ∈ log ∧
        found.now = a.time := by
  induction log with
  | nil => simp [increments]
  | cons r log ih =>
    obtain ⟨call, op, answer, found⟩ := r
    cases op with
    | expire key' seconds =>
      show a ∈ increments key log ↔ _
      simp [ih]
    | incr key' =>
      cases answer with
      | error e =>
        show a ∈ increments key log ↔ _
        simp [ih]
      | ok count =>
        obtain ⟨call', time, count'⟩ := a
        by_cases hkey : key' = key
        · subst hkey
          simp only [increments, if_true, List.mem_cons, ih, Increment.mk.injEq]
          constructor
          · rintro (⟨rfl, rfl, rfl⟩ | ⟨found', hmem, hnow⟩)
            · exact ⟨found, Or.inl rfl, rfl⟩
            · exact ⟨found', Or.inr hmem, hnow⟩
          · rintro ⟨found', hr | hmem, hnow⟩
            · cases hr
              exact Or.inl ⟨rfl, hnow.symm, rfl⟩
            · exact Or.inr ⟨found', hmem, hnow⟩
        · simp only [increments, if_neg hkey, ih, List.mem_cons]
          refine exists_congr fun found' => and_congr_left fun _ => (or_iff_right ?_).symm
          intro hr
          cases hr
          exact hkey rfl

/-- When the call has set the time to live. -/
def expiredAt (call : RateLimitedCall) : LimiterLog → Option Nat
  | [] => none
  | ⟨call', .expire _ _, .ok true, found⟩ :: log =>
    if call' = call then some found.now else expiredAt call log
  | _ :: log => expiredAt call log

/-- A call that has made no command yet has set no time to live. -/
theorem expiredAt_unheard {call : RateLimitedCall} {log : LimiterLog}
    (h : ∀ r ∈ log, r.process ≠ call) : expiredAt call log = none := by
  fun_induction expiredAt call log with
  | case1 => rfl
  | case2 => exact absurd rfl (h _ List.mem_cons_self)
  | case3 call' key seconds found log hne ih =>
    exact ih fun r hr => h r (List.mem_cons_of_mem _ hr)
  | case4 r log hr ih => exact ih fun r hr => h r (List.mem_cons_of_mem _ hr)

/-- The `EXPIRE` of another call does not count. -/
theorem expiredAt_of_ne {call call' : RateLimitedCall} (hne : call' ≠ call) (key : String)
    (seconds : Nat) (r : Except PyError Bool) (found : CounterStore) (log : LimiterLog) :
    expiredAt call' (⟨call, .expire key seconds, r, found⟩ :: log) = expiredAt call' log := by
  rcases r with e | _ | _
  · rfl
  · rfl
  · exact if_neg (Ne.symm hne)

/-- What the store would look like if only this client had ever called, at the same times. -/
def alone (identifier : String) : LimiterLog → CounterStore
  | [] => CounterStore.empty
  | r :: log =>
    if r.process.identifier = identifier then
      (counterStep r.op { alone identifier log with now := r.found.now }).2
    else alone identifier log

/-- The last life of the counter was begun by this call, and has no end yet. -/
def Opened (call : RateLimitedCall) (log : LimiterLog) : Prop :=
  ∃ life rest, lives (key call.identifier) log = life :: rest ∧ life.ending = none ∧
    life.members.getLast?.map Increment.call = some call

/-- The call has made no command yet. -/
def Unheard (call : RateLimitedCall) (log : LimiterLog) : Prop := ∀ r ∈ log, r.process ≠ call

/-- The records of the limiter, with the store they lead to. -/
inductive Schedule (self : RedisRateLimiter) : CounterStore → LimiterLog → Prop
  | empty : Schedule self CounterStore.empty []
  | wait {s : CounterStore} {log : LimiterLog} (d : Nat) :
      Schedule self s log → Schedule self (s.wait d) log
  | incr {s : CounterStore} {log : LimiterLog} (call : RateLimitedCall) :
      Schedule self s log → Unheard call log →
      Schedule self (s.incr (key call.identifier)).2
        (⟨call, .incr (key call.identifier), .ok (s.incr (key call.identifier)).1, s⟩ :: log)
  | expire {s : CounterStore} {log : LimiterLog} (call : RateLimitedCall) :
      Schedule self s log → Opened call log →
      Schedule self (s.expire (key call.identifier) self.windowSeconds).2
        (⟨call, .expire (key call.identifier) self.windowSeconds,
          .ok (s.expire (key call.identifier) self.windowSeconds).1, s⟩ :: log)

/-! ## one command -/

/-- The counter of a life. -/
def counterOf (life : Life Increment) : Counter := ⟨life.members.length, life.ending⟩

section Commands

variable {s : CounterStore} {log : LimiterLog} {call : RateLimitedCall} {key : String}

/-- The members of a life, the last one first, have counted from 1 on. -/
def Numbered : List Increment → Prop
  | [] => True
  | a :: l => a.count = l.length + 1 ∧ Numbered l

/-- So the first of them are allowed, up to the limit. -/
theorem Numbered.allowed {l : List Increment} (h : Numbered l) (limit : Nat) :
    l.reverse.filter (fun a => a.count ≤ limit) = l.reverse.take (min l.length limit) := by
  induction l with
  | nil => simp
  | cons a l ih =>
    obtain ⟨hcount, hrest⟩ := h
    rw [List.reverse_cons, List.filter_append, ih hrest, List.length_cons]
    by_cases hle : l.length + 1 ≤ limit
    · have hkeep : [a].filter (fun a => a.count ≤ limit) = [a] := by simp [hcount, hle]
      rw [hkeep, Nat.min_eq_left (Nat.le_of_succ_le hle), Nat.min_eq_left hle,
        List.take_of_length_le (by simp), List.take_of_length_le (by simp)]
    · have hdrop : [a].filter (fun a => a.count ≤ limit) = [] := by simp [hcount, hle]
      have hlimit : limit ≤ l.length := by omega
      rw [hdrop, List.append_nil, Nat.min_eq_right hlimit, Nat.min_eq_right (by omega),
        List.take_append_of_le_length (by simpa using hlimit)]

theorem Numbered.countP_le {l : List Increment} (h : Numbered l) (limit : Nat) :
    l.countP (fun a => a.count ≤ limit) ≤ limit := by
  rw [← List.countP_reverse, List.countP_eq_length_filter, h.allowed, List.length_take]
  omega

/-- What an `INCR` does to the lives of its counter, and to the counter. -/
inductive Counted (s : CounterStore) (call : RateLimitedCall) (key : String) :
    List (Life Increment) → List (Life Increment) → Prop
  | begin {lives : List (Life Increment)} :
      (∀ life, lives.head? = some life → ∃ x, life.ending = some x ∧ x ≤ s.now) →
      s.incr key = (1, s.set key ⟨1, none⟩) →
      Counted s call key lives (Life.begin ⟨call, s.now, 1⟩ lives)
  | join {life : Life Increment} {rest : List (Life Increment)} :
      (∀ x, life.ending = some x → s.now < x) →
      s.incr key =
        (life.members.length + 1, s.set key ⟨life.members.length + 1, life.ending⟩) →
      Counted s call key (life :: rest)
        (Life.join ⟨call, s.now, life.members.length + 1⟩ (life :: rest))

theorem lives_incr (h : s.counters key = (lives key log).head?.map counterOf)
    (call : RateLimitedCall) :
    Counted s call key (lives key log)
      (lives key (⟨call, .incr key, .ok (s.incr key).1, s⟩ :: log)) := by
  show Counted s call key _ (if key = key then _ else _)
  rw [if_pos rfl]
  cases hfind : s.find key with
  | none =>
    rw [CounterStore.incr_none hfind]
    refine Counted.begin (fun life hlife => ?_) (CounterStore.incr_none hfind)
    rw [hlife] at h
    have hdead : ¬(counterOf life).aliveAt s.now = true := fun halive => by
      rw [CounterStore.find_eq_some.mpr ⟨h, halive⟩] at hfind
      cases hfind
    cases hending : life.ending with
    | none => simp [Counter.aliveAt, counterOf, hending] at hdead
    | some x => exact ⟨x, rfl, by simpa [Counter.aliveAt, counterOf, hending] using hdead⟩
  | some counter =>
    obtain ⟨hcounter, halive⟩ := CounterStore.find_eq_some.mp hfind
    rw [h] at hcounter
    cases hlives : lives key log with
    | nil => rw [hlives] at hcounter; cases hcounter
    | cons life rest =>
      rw [hlives] at hcounter
      cases hcounter
      rw [CounterStore.incr_some hfind]
      refine Counted.join (fun x hx => ?_) (CounterStore.incr_some hfind)
      simpa [Counter.aliveAt, counterOf, hx] using halive

namespace Counted

variable {old new : List (Life Increment)}

theorem counter (h : Counted s call key old new) :
    (s.incr key).2.counters key = new.head?.map counterOf := by
  cases h with
  | begin _ hincr =>
    rw [hincr]
    exact CounterStore.set_self _ _ _
  | join _ hincr =>
    rw [hincr]
    exact CounterStore.set_self _ _ _

theorem windows {W : Nat} (h : Counted s call key old new)
    (hw : Windows Increment.time W s.now old) : Windows Increment.time W s.now new := by
  cases h with
  | begin hover _ => exact hw.begin (a := ⟨call, s.now, 1⟩) (Nat.le_refl s.now) hover
  | @join life rest halive _ =>
    exact hw.join (a := ⟨call, s.now, life.members.length + 1⟩) (Nat.le_refl s.now) halive

theorem numbered (h : Counted s call key old new) (hn : ∀ life ∈ old, Numbered life.members) :
    ∀ life ∈ new, Numbered life.members := by
  intro life hl
  cases h with
  | begin _ _ =>
    rcases List.mem_cons.mp hl with rfl | hl
    · exact ⟨rfl, trivial⟩
    · exact hn life hl
  | @join last rest _ _ =>
    rcases List.mem_cons.mp hl with rfl | hl
    · exact ⟨rfl, hn last List.mem_cons_self⟩
    · exact hn life (List.mem_cons_of_mem _ hl)

/-- What is known of the call that began a life and of its end. -/
theorem began {R : RateLimitedCall → Option Nat → Prop} (h : Counted s call key old new)
    (hold : ∀ life ∈ old, ∃ a, life.members.getLast? = some a ∧ R a.call life.ending)
    (hcall : R call none) :
    ∀ life ∈ new, ∃ a, life.members.getLast? = some a ∧ R a.call life.ending := by
  intro life hl
  cases h with
  | begin _ _ =>
    rcases List.mem_cons.mp hl with rfl | hl
    · exact ⟨_, rfl, hcall⟩
    · exact hold life hl
  | @join last rest _ _ =>
    rcases List.mem_cons.mp hl with rfl | hl
    · obtain ⟨a, ha, hR⟩ := hold last List.mem_cons_self
      exact ⟨a, by simp [List.getLast?_cons, ha], hR⟩
    · exact hold life (List.mem_cons_of_mem _ hl)

end Counted

/-- The `EXPIRE` of the call that began the last life. -/
theorem lives_expire (h : s.counters key = (lives key log).head?.map counterOf)
    {life : Life Increment} {rest : List (Life Increment)} (hlives : lives key log = life :: rest)
    (hending : life.ending = none) (call : RateLimitedCall) (seconds : Nat) :
    s.expire key seconds =
        (true, s.set key ⟨life.members.length, some (s.now + 1000 * seconds)⟩) ∧
      lives key (⟨call, .expire key seconds, .ok (s.expire key seconds).1, s⟩ :: log) =
        Life.finish (s.now + 1000 * seconds) (life :: rest) := by
  rw [hlives] at h
  have hfind : s.find key = some (counterOf life) :=
    CounterStore.find_eq_some.mpr ⟨h, by simp [Counter.aliveAt, counterOf, hending]⟩
  refine ⟨CounterStore.expire_some hfind, ?_⟩
  rw [CounterStore.expire_some hfind]
  show (if key = key then Life.finish _ (lives key log) else _) = _
  rw [if_pos rfl, hlives]

theorem lives_incr_of_ne {key' : String} (hne : key' ≠ key) (r : Except PyError Nat) :
    lives key (⟨call, .incr key', r, s⟩ :: log) = lives key log := by
  cases r with
  | error e => rfl
  | ok n => exact if_neg hne

theorem lives_expire_of_ne {key' : String} (hne : key' ≠ key) (seconds : Nat)
    (r : Except PyError Bool) :
    lives key (⟨call, .expire key' seconds, r, s⟩ :: log) = lives key log := by
  cases r with
  | error e => rfl
  | ok b =>
    cases b with
    | false => rfl
    | true => exact if_neg hne

end Commands

/-! ## the store follows the record -/

namespace Schedule

variable {self : RedisRateLimiter} {s : CounterStore} {log : LimiterLog}

/-- The counter is that of the last life. -/
theorem counter (h : Schedule self s log) (key : String) :
    s.counters key = (lives key log).head?.map counterOf := by
  induction h with
  | empty => rfl
  | wait d _ ih => exact ih
  | @incr s log call _ _ ih =>
    by_cases hkey : RedisRateLimiter.key call.identifier = key
    · subst hkey
      exact (lives_incr ih call).counter
    · rw [lives_incr_of_ne hkey, ← ih, CounterStore.incr_of_ne (Ne.symm hkey)]
  | @expire s log call _ hopened ih =>
    by_cases hkey : RedisRateLimiter.key call.identifier = key
    · subst hkey
      obtain ⟨life, rest, hlives, hending, -⟩ := hopened
      obtain ⟨hexpire, hnew⟩ := lives_expire ih hlives hending call self.windowSeconds
      rw [hnew, hexpire]
      exact CounterStore.set_self _ _ _
    · rw [lives_expire_of_ne hkey, ← ih, CounterStore.expire_of_ne (Ne.symm hkey)]

/-- What the commands on a counter keep, its lives have. -/
theorem lives_induct {P : Nat → List (Life Increment) → Prop} (h : Schedule self s log)
    (key : String) (hnil : ∀ now, P now []) (hwait : ∀ now d lives, P now lives → P (now + d) lives)
    (hincr : ∀ s call old new, Counted s call key old new → P s.now old → P s.now new)
    (hexpire : ∀ now life rest, P now (life :: rest) →
      P now (Life.finish (now + 1000 * self.windowSeconds) (life :: rest))) :
    P s.now (lives key log) := by
  induction h with
  | empty => exact hnil _
  | wait d _ ih => exact hwait _ d _ ih
  | @incr s log call hs _ ih =>
    rw [CounterStore.incr_now]
    by_cases hkey : RedisRateLimiter.key call.identifier = key
    · subst hkey
      exact hincr s call _ _ (lives_incr (hs.counter _) call) ih
    · rw [lives_incr_of_ne hkey]
      exact ih
  | @expire s log call hs hopened ih =>
    rw [CounterStore.expire_now]
    by_cases hkey : RedisRateLimiter.key call.identifier = key
    · subst hkey
      obtain ⟨life, rest, hlives, hending, -⟩ := hopened
      rw [(lives_expire (hs.counter _) hlives hending call self.windowSeconds).2]
      rw [hlives] at ih
      exact hexpire _ _ _ ih
    · rw [lives_expire_of_ne hkey]
      exact ih

/-- **The lives follow one another**, and each that has an end spans a window. -/
theorem windows (hW : 0 < self.windowSeconds) (h : Schedule self s log) (key : String) :
    Windows Increment.time self.window s.now (lives key log) := by
  refine h.lives_induct key (P := Windows Increment.time self.window) ?_ ?_ ?_ ?_
  · exact fun _ => Windows.nil
  · exact fun _ d _ hw => hw.later (Nat.le_add_right _ d)
  · exact fun _ _ _ _ hc hw => hc.windows hw
  · exact fun _ _ _ hw => hw.finish (Nat.mul_pos (by decide) hW)

/-- The members of a life have counted from 1 on. -/
theorem numbered (h : Schedule self s log) (key : String) :
    ∀ life ∈ lives key log, Numbered life.members := by
  refine h.lives_induct key (P := fun _ lives => ∀ life ∈ lives, Numbered life.members) ?_ ?_ ?_ ?_
  · exact fun _ life hl => by cases hl
  · exact fun _ _ _ hn => hn
  · exact fun _ _ _ _ hc hn => hc.numbered hn
  · intro _ life rest hn life' hl
    rcases List.mem_cons.mp hl with rfl | hl
    · exact hn life List.mem_cons_self
    · exact hn life' (List.mem_cons_of_mem _ hl)

/-- **A life ends a window after the `EXPIRE` of the call that began it**, and has no end before
that command. -/
theorem ends (hW : 0 < self.windowSeconds) (h : Schedule self s log) (key : String) :
    ∀ life ∈ lives key log, ∃ a, life.members.getLast? = some a ∧
      RedisRateLimiter.key a.call.identifier = key ∧
        life.ending = (expiredAt a.call log).map (· + self.window) := by
  induction h with
  | empty => exact fun life hl => by cases hl
  | wait d _ ih => exact ih
  | @incr s log call hs hunheard ih =>
    by_cases hkey : RedisRateLimiter.key call.identifier = key
    · subst hkey
      refine (lives_incr (hs.counter _) call).began
        (R := fun call' ending => RedisRateLimiter.key call'.identifier = _ ∧
          ending = (expiredAt call' log).map (· + self.window)) ih ⟨rfl, ?_⟩
      rw [expiredAt_unheard hunheard]
      rfl
    · rw [lives_incr_of_ne hkey]
      exact ih
  | @expire s log call hs hopened ih =>
    by_cases hkey : RedisRateLimiter.key call.identifier = key
    · subst hkey
      obtain ⟨life, rest, hlives, hending, hbegan⟩ := hopened
      obtain ⟨hexpire, hnew⟩ := lives_expire (hs.counter _) hlives hending call
        self.windowSeconds
      rw [hnew]
      rw [hlives] at ih
      obtain ⟨a, ha, hown, hend⟩ := ih life List.mem_cons_self
      have hcall : a.call = call := by
        rw [ha] at hbegan
        exact Option.some.inj hbegan
      intro life' hl
      rcases List.mem_cons.mp hl with rfl | hl
      · refine ⟨a, ha, hown, ?_⟩
        rw [hexpire, hcall]
        show some (s.now + 1000 * self.windowSeconds) =
          Option.map (· + self.window) (if call = call then some s.now else _)
        rw [if_pos rfl]
        rfl
      · -- the calls that began the earlier lives have set their ends before
        obtain ⟨b, hb, hown', hend'⟩ := ih life' (List.mem_cons_of_mem _ hl)
        have horder := (hs.windows hW (RedisRateLimiter.key call.identifier)).order
        rw [hlives] at horder
        obtain ⟨x, hx, -⟩ := (List.pairwise_cons.mp horder).1 life' hl
        have hne : b.call ≠ call := by
          intro heq
          rw [hending, hcall] at hend
          rw [hx, heq, ← hend] at hend'
          cases hend'
        exact ⟨b, hb, hown', by rw [expiredAt_of_ne hne]; exact hend'⟩
    · rw [lives_expire_of_ne hkey]
      intro life hl
      obtain ⟨a, ha, hown, hend⟩ := ih life hl
      have hne : a.call ≠ call := fun heq => hkey (by rw [← heq]; exact hown)
      exact ⟨a, ha, hown, by rw [expiredAt_of_ne hne]; exact hend⟩

/-- **The counter of a client is what its own calls have made of it.** -/
theorem counter_alone (h : Schedule self s log) (identifier : String) :
    s.counters (RedisRateLimiter.key identifier) =
      (alone identifier log).counters (RedisRateLimiter.key identifier) := by
  induction h with
  | empty => rfl
  | wait d _ ih => exact ih
  | @incr s log call _ _ ih =>
    unfold alone
    by_cases hid : call.identifier = identifier
    · subst hid
      rw [if_pos rfl]
      exact (CounterStore.incr_congr (t := { alone _ log with now := s.now }) ih rfl).2
    · rw [if_neg hid, ← ih]
      exact CounterStore.incr_of_ne fun hkey => hid (key_injective hkey).symm
  | @expire s log call _ _ ih =>
    unfold alone
    by_cases hid : call.identifier = identifier
    · subst hid
      rw [if_pos rfl]
      exact (CounterStore.expire_congr (t := { alone _ log with now := s.now }) ih rfl).2
    · rw [if_neg hid, ← ih]
      exact CounterStore.expire_of_ne fun hkey => hid (key_injective hkey).symm

/-- **And so is every answer it gets.** -/
theorem answer_alone (h : Schedule self s log) {suf pre : LimiterLog} {r : LimiterRecord}
    (hlog : log = suf ++ r :: pre) :
    r.answer = .ok (counterStep r.op
      { alone r.process.identifier pre with now := r.found.now }).1 := by
  induction h generalizing suf with
  | empty => simp at hlog
  | wait d _ ih => exact ih hlog
  | @incr s log call hs _ ih =>
    cases suf with
    | nil =>
      obtain ⟨rfl, rfl⟩ := List.cons.inj hlog
      exact congrArg Except.ok (CounterStore.incr_congr
        (t := { alone call.identifier log with now := s.now }) (hs.counter_alone _) rfl).1
    | cons r' suf => exact ih (List.cons.inj hlog).2
  | @expire s log call hs _ ih =>
    cases suf with
    | nil =>
      obtain ⟨rfl, rfl⟩ := List.cons.inj hlog
      exact congrArg Except.ok (CounterStore.expire_congr
        (t := { alone call.identifier log with now := s.now }) (hs.counter_alone _) rfl).1
    | cons r' suf => exact ih (List.cons.inj hlog).2

end Schedule

/-! ## runs -/

/-- Every command returns. -/
def commandsReturn {S : Type} : Guard RateLimiterPort PyError RateLimitedCall S := fun _ l _ =>
  match l with
  | .call _ _ r => ∃ a, r = .ok a
  | _ => True

abbrev LimiterState := CounterStore × LimiterLog

/-- What the others leave alone: whether a call is unheard of, and whether it has begun the last
life of its counter. -/
structure Undisturbed (call : RateLimitedCall) (log log' : LimiterLog) : Prop where
  unheard : Unheard call log → Unheard call log'
  opened : Opened call log → Opened call log'

theorem Undisturbed.refl (call : RateLimitedCall) (log : LimiterLog) :
    Undisturbed call log log := ⟨id, id⟩

theorem Undisturbed.trans {call : RateLimitedCall} {log log' log'' : LimiterLog}
    (h : Undisturbed call log log') (h' : Undisturbed call log' log'') :
    Undisturbed call log log'' := ⟨h'.unheard ∘ h.unheard, h'.opened ∘ h.opened⟩

/-- A call counts, and sets the time to live of a life that it began itself. -/
def limiterDiscipline (self : RedisRateLimiter) :
    Machine.Discipline RateLimiterPort PyError RateLimitedCall LimiterState where
  inv x := Schedule self x.1 x.2
  rely call :=
    { rel := fun x x' => Undisturbed call x.2 x'.2
      refl := fun x => Undisturbed.refl call x.2
      trans := fun h h' => h.trans h' }
  guar call _ x x' := ∀ call', call' ≠ call → Undisturbed call' x.2 x'.2
  sem call op x r x' := (limiterMachine self).recorded.sem call op x r x' ∧ ∃ a, r = .ok a
  fresh call x := Unheard call x.2
  post _ _ _ := True

section Discipline

variable {self : RedisRateLimiter} {s : CounterStore} {log : LimiterLog} {call : RateLimitedCall}

theorem unheard_cons {call' : RateLimitedCall} {r : LimiterRecord} (hr : r.process = call)
    (hne : call' ≠ call) (h : Unheard call' log) : Unheard call' (r :: log) := by
  intro r' hr'
  rcases List.mem_cons.mp hr' with rfl | hr'
  · rw [hr]
    exact Ne.symm hne
  · exact h r' hr'

/-- A call that joins a life does not take it from the one that began it. -/
theorem undisturbed_incr (h : Schedule self s log) {call call' : RateLimitedCall}
    (hne : call' ≠ call) : Undisturbed call' log
      (⟨call, .incr (key call.identifier), .ok (s.incr (key call.identifier)).1, s⟩ :: log) := by
  refine ⟨unheard_cons rfl hne, ?_⟩
  rintro ⟨life, rest, hlives, hending, hbegan⟩
  by_cases hkey : key call.identifier = key call'.identifier
  · have hcounted := lives_incr (h.counter (key call.identifier)) call
    unfold Opened
    rw [← hkey] at hlives ⊢
    rw [hlives] at hcounted
    revert hcounted
    generalize lives _ (_ :: _) = new
    intro hcounted
    cases hcounted with
    | begin hover _ =>
      obtain ⟨x, hx, -⟩ := hover life rfl
      rw [hending] at hx
      cases hx
    | join _ _ =>
      refine ⟨_, _, rfl, hending, ?_⟩
      cases hm : life.members with
      | nil => rw [hm] at hbegan; cases hbegan
      | cons a l =>
        rw [hm] at hbegan
        rw [List.getLast?_cons_cons]
        exact hbegan
  · refine ⟨life, rest, ?_, hending, hbegan⟩
    rw [lives_incr_of_ne hkey, hlives]

theorem undisturbed_expire (self : RedisRateLimiter) (s : CounterStore)
    (hopened : Opened call log) {call' : RateLimitedCall} (hne : call' ≠ call) :
    Undisturbed call' log
      (⟨call, .expire (key call.identifier) self.windowSeconds,
        .ok (s.expire (key call.identifier) self.windowSeconds).1, s⟩ :: log) := by
  refine ⟨unheard_cons rfl hne, ?_⟩
  rintro ⟨life, rest, hlives, hending, hbegan⟩
  by_cases hkey : key call.identifier = key call'.identifier
  · -- both would have begun the same life
    obtain ⟨life', rest', hlives', -, hbegan'⟩ := hopened
    rw [hkey, hlives] at hlives'
    cases hlives'
    rw [hbegan] at hbegan'
    exact absurd (Option.some.inj hbegan') hne
  · refine ⟨life, rest, ?_, hending, hbegan⟩
    rw [lives_expire_of_ne hkey, hlives]

/-- A call that counted to 1 has begun a life. -/
theorem opened_incr (hW : 0 < self.windowSeconds) (h : Schedule self s log)
    (call : RateLimitedCall)
    (hone : (s.incr (key call.identifier)).1 = 1) : Opened call
      (⟨call, .incr (key call.identifier), .ok (s.incr (key call.identifier)).1, s⟩ :: log) := by
  have hcounted := lives_incr (h.counter (key call.identifier)) call
  have hnonempty := (h.windows hW (key call.identifier)).nonempty
  unfold Opened
  revert hcounted hnonempty
  generalize lives _ (_ :: _) = new, lives _ log = old
  intro hcounted hnonempty
  cases hcounted with
  | begin _ _ => exact ⟨_, _, rfl, rfl, rfl⟩
  | @join life rest _ hincr =>
    have hlen : life.members.length + 1 = 1 := (congrArg Prod.fst hincr).symm.trans hone
    exact absurd (List.length_eq_zero_iff.mp (Nat.succ.inj hlen))
      (hnonempty life List.mem_cons_self)

/-- **A call keeps the discipline.** -/
theorem checkRateLimit_safe (hW : 0 < self.windowSeconds) {x : LimiterState}
    (hunheard : Unheard call x.2) :
    (checkRateLimit self call.identifier).Safe ((limiterDiscipline self).contract call)
      ((limiterDiscipline self).post call) x := by
  have hverdict : ∀ count x, (verdict self count).Safe ((limiterDiscipline self).contract call)
      ((limiterDiscipline self).post call) x := by
    intro count x
    unfold verdict
    split <;> trivial
  rw [checkRateLimit_eq, Prog.safe_perform_bind]
  rintro ⟨s₁, log₁⟩ hrely₁ hinv₁ r ⟨s₂, log₂⟩ ⟨⟨hsem, hlog⟩, count, rfl⟩
  have hstep : s₁.incr (key call.identifier) = (count, s₂) := hsem
  obtain rfl : log₂ = _ :: log₁ := hlog
  have hunheard₁ : Unheard call log₁ := hrely₁.unheard hunheard
  have hinv₂ := Schedule.incr call hinv₁ hunheard₁
  have hguar : ∀ call', call' ≠ call → Undisturbed call' log₁ _ := fun _ => undisturbed_incr hinv₁
  have hopened := opened_incr hW hinv₁ call
  rw [hstep] at hinv₂ hguar hopened
  refine ⟨⟨hguar, hinv₂⟩, ?_⟩
  by_cases hone : count = 1
  · simp only [if_pos hone]
    rw [Prog.safe_perform_bind]
    rintro ⟨s₃, log₃⟩ hrely₃ hinv₃ r ⟨s₄, log₄⟩ ⟨⟨hsem, hlog⟩, b, rfl⟩
    have hstep : s₃.expire (key call.identifier) self.windowSeconds = (b, s₄) := hsem
    obtain rfl : log₄ = _ :: log₃ := hlog
    have hopened₃ : Opened call log₃ := hrely₃.opened (hopened hone)
    have hinv₄ := Schedule.expire call hinv₃ hopened₃
    have hguar : ∀ call', call' ≠ call → Undisturbed call' log₃ (_ :: log₃) :=
      fun _ => undisturbed_expire self s₃ hopened₃
    rw [hstep] at hinv₄ hguar
    exact ⟨⟨hguar, hinv₄⟩, hverdict count _⟩
  · simp only [if_neg hone]
    exact hverdict count _

end Discipline

section Runs

variable {self : RedisRateLimiter} {c : Pool RateLimiterPort PyError RateLimitedCall LimiterState}

def limiterInitial : Pool RateLimiterPort PyError RateLimitedCall LimiterState :=
  Pool.initial (CounterStore.empty, [])

theorem limiter_sound (hW : 0 < self.windowSeconds) :
    (limiterMachine self).recorded.Sound commandsReturn (limiterDiscipline self)
      fun _ => True where
  sem hsem hg := ⟨hsem, hg⟩
  spawn := by
    rintro c call p rfl _ hfresh
    exact checkRateLimit_safe hW hfresh
  compat := fun _ _ _ hij _ _ hguar => hguar _ (Ne.symm hij)
  freshStable := fun hij _ hguar hfresh => (hguar _ (Ne.symm hij)).unheard hfresh
  env := by
    rintro ⟨s, log⟩ ⟨s', log'⟩ ⟨⟨d, hclock⟩, hlog⟩ hinv
    obtain rfl : s' = s.wait d := hclock
    obtain rfl : log' = log := hlog
    exact ⟨Schedule.wait d hinv, fun j => Undisturbed.refl j _, fun _ h => h⟩

/-- **The record of every run is a schedule.** -/
theorem run_schedule (hW : 0 < self.windowSeconds)
    (h : (limiterMachine self).recorded.Steps commandsReturn limiterInitial c) :
    Schedule self c.state.1 c.state.2 := by
  refine ((limiter_sound hW).ok (fun _ _ => trivial) ?_ h).inv
  exact Ok.initial Schedule.empty fun _ _ hr => by cases hr

/-- In a schedule every command has returned. -/
theorem Schedule.returned {s : CounterStore} {log : LimiterLog} (h : Schedule self s log) :
    ∀ r ∈ log, ∃ a, r.answer = .ok a := by
  induction h with
  | empty => exact fun r hr => by cases hr
  | wait d _ ih => exact ih
  | incr call _ _ ih =>
    intro r hr
    rcases List.mem_cons.mp hr with rfl | hr
    · exact ⟨_, rfl⟩
    · exact ih r hr
  | expire call _ _ ih =>
    intro r hr
    rcases List.mem_cons.mp hr with rfl | hr
    · exact ⟨_, rfl⟩
    · exact ih r hr

/-- A call makes one `INCR` at most. -/
theorem Schedule.calls {s : CounterStore} {log : LimiterLog} (h : Schedule self s log)
    (key : String) : ((increments key log).map Increment.call).Nodup := by
  induction h with
  | empty => exact List.nodup_nil
  | wait d _ ih => exact ih
  | expire call _ _ ih => exact ih
  | @incr s log call _ hunheard ih =>
    by_cases hkey : RedisRateLimiter.key call.identifier = key
    · simp only [increments, if_pos hkey, List.map_cons, List.nodup_cons]
      refine ⟨fun hmem => ?_, ih⟩
      obtain ⟨a, ha, rfl⟩ := List.mem_map.mp hmem
      obtain ⟨found, hr, -⟩ := mem_increments.mp ha
      exact hunheard _ hr rfl
    · simp only [increments, if_neg hkey]
      exact ih

/-- A call that has no more commands to make has counted once, and has its verdict. -/
theorem checkRateLimit_runs {clientIp : String} {tr : List (Prog.Event RateLimiterPort PyError)}
    {p : RateLimiterProg Unit} (h : Prog.Runs (checkRateLimit self clientIp) tr p)
    (hok : ∀ ev ∈ tr, ∃ a, ev.reply = .ok a) (hdone : ∀ op k, p ≠ .call op k) :
    ∃ count, p = verdict self count ∧ ∀ key' n,
      ⟨.incr key', .ok n⟩ ∈ tr ↔ key' = key clientIp ∧ n = count := by
  have hverdict : ∀ {n tr}, Prog.Runs (verdict self n) tr p → tr = [] ∧ p = verdict self n := by
    intro n tr h
    unfold verdict at h ⊢
    by_cases hle : n ≤ self.limit
    · rw [if_pos hle] at h ⊢
      cases h
      exact ⟨rfl, rfl⟩
    · rw [if_neg hle] at h ⊢
      cases h
      exact ⟨rfl, rfl⟩
  rw [checkRateLimit_eq] at h
  cases h with
  | refl => exact absurd rfl (hdone _ _)
  | @call _ _ r tr _ h =>
    have hreturned : ∃ n : Nat, r = .ok n := hok _ List.mem_cons_self
    obtain ⟨n, rfl⟩ := hreturned
    change Prog.Runs (if n = 1 then _ else _) tr p at h
    by_cases hone : n = 1
    · rw [if_pos hone] at h
      cases h with
      | refl => exact absurd rfl (hdone _ _)
      | @call _ _ r' tr _ h =>
        have hreturned : ∃ b : Bool, r' = .ok b :=
          hok _ (List.mem_cons_of_mem _ List.mem_cons_self)
        obtain ⟨b, rfl⟩ := hreturned
        obtain ⟨rfl, hp⟩ := hverdict h
        exact ⟨n, hp, by simp⟩
    · rw [if_neg hone] at h
      obtain ⟨rfl, hp⟩ := hverdict h
      exact ⟨n, hp, by simp⟩

/-- What the limiter has done for one client so far. An increment is allowed if its count is
within the limit. -/
structure FixedWindows (limiter : RedisRateLimiter) (identifier : String)
    (c : Pool RateLimiterPort PyError RateLimitedCall LimiterState) : Prop where
  /-- A call of the client that has no more commands to make has its increment, -/
  counted : ∀ call p, call.identifier = identifier → c.procs call = .running p →
    (∀ op k, p ≠ .call op k) → ∃ a ∈ increments (key identifier) c.state.2, a.call = call
  /-- and no call has two. -/
  once : ((increments (key identifier) c.state.2).map Increment.call).Nodup
  /-- A call that has counted, and has no more commands to make, lets its request go on if the
  increment is allowed, and answers it with status 429 otherwise. -/
  answers : ∀ a ∈ increments (key identifier) c.state.2, ∀ p, c.procs a.call = .running p →
    (∀ op k, p ≠ .call op k) →
      p = if a.count ≤ limiter.limit then Prog.ret () else Prog.raise tooManyRequests
  /-- Every increment belongs to a life of the counter. -/
  members : (lives (key identifier) c.state.2).flatMap Life.members =
    increments (key identifier) c.state.2
  /-- Of the increments of a life the first ones are allowed, up to the limit. -/
  first : ∀ life ∈ lives (key identifier) c.state.2,
    life.members.reverse.filter (fun a => a.count ≤ limiter.limit) =
      life.members.reverse.take (min life.members.length limiter.limit)
  /-- A life ends a window after the `EXPIRE` of the call that began it, and not before that. -/
  ends : ∀ life ∈ lives (key identifier) c.state.2, ∃ a, life.members.getLast? = some a ∧
    a.call.identifier = identifier ∧
      life.ending = (expiredAt a.call c.state.2).map (· + limiter.window)
  /-- All its increments happen before that, and those of the next life afterwards. -/
  within : ∀ life ∈ lives (key identifier) c.state.2, ∀ x, life.ending = some x →
    ∀ a ∈ life.members, a.time < x
  order : (lives (key identifier) c.state.2).Pairwise fun newer older =>
    ∃ x, older.ending = some x ∧ ∀ a ∈ newer.members, x ≤ a.time
  /-- The counter in the store is that of the last life, with the same end. -/
  counter : c.state.1.counters (key identifier) =
    (lives (key identifier) c.state.2).head?.map counterOf
  /-- No interval of the length of a window has more than twice the limit. -/
  bound : ∀ t, (increments (key identifier) c.state.2).countP (fun a =>
    decide (a.count ≤ limiter.limit) && decide (t ≤ a.time ∧ a.time < t + limiter.window)) ≤
      2 * limiter.limit
  /-- Every answer is the one that the client would get if it were the only one. -/
  separate : ∀ suf pre r, c.state.2 = suf ++ r :: pre → r.process.identifier = identifier →
    r.answer = .ok (counterStep r.op { alone identifier pre with now := r.found.now }).1

/--
**Fixed windows.** For every limit and every window, in every state of every run in which all
commands return: calls of any clients, at any times, with any number of other calls and any delay
between the `INCR` and the `EXPIRE` of one of them, and with calls that die.
-/
theorem fixed_windows (hW : 0 < self.windowSeconds)
    (h : (limiterMachine self).recorded.Steps commandsReturn limiterInitial c)
    (identifier : String) : FixedWindows self identifier c := by
  have hs := run_schedule hW h
  have hw := hs.windows hW (key identifier)
  have hdone : ∀ call p, c.procs call = .running p → (∀ op k, p ≠ .call op k) → ∃ count,
      p = verdict self count ∧ ∀ key' n,
        (∃ found, ⟨call, .incr key', .ok n, found⟩ ∈ c.state.2) ↔
          key' = key call.identifier ∧ n = count := by
    intro call p hp hdone
    obtain ⟨p₀, ⟨c', hp₀⟩, hruns⟩ := (recorded_runs h call).2 p hp
    rw [show p₀ = _ from hp₀] at hruns
    obtain ⟨count, hverdict, hincr⟩ := checkRateLimit_runs hruns (fun ev hev => by
      obtain ⟨r, hr, rfl⟩ := List.mem_map.mp hev
      exact hs.returned r (List.mem_reverse.mp (List.mem_filter.mp hr).1)) hdone
    refine ⟨count, hverdict, fun key' n => ?_⟩
    rw [← hincr, mem_callsOf]
  refine ⟨?_, hs.calls _, ?_, flatMap_lives _ _, fun life hl => (hs.numbered _ life hl).allowed _,
    ?_, fun life hl x hx => (hw.span life hl x hx).1, hw.order, hs.counter _, fun t => ?_, ?_⟩
  · rintro call p rfl hp hend
    obtain ⟨count, -, hincr⟩ := hdone call p hp hend
    obtain ⟨found, hr⟩ := (hincr _ count).mpr ⟨rfl, rfl⟩
    exact ⟨⟨call, found.now, count⟩, mem_increments.mpr ⟨found, hr, rfl⟩, rfl⟩
  · intro a ha p hp hend
    obtain ⟨found, hr, -⟩ := mem_increments.mp ha
    obtain ⟨count, rfl, hincr⟩ := hdone a.call p hp hend
    obtain ⟨-, rfl⟩ := (hincr _ _).mp ⟨found, hr⟩
    rfl
  · intro life hl
    obtain ⟨a, ha, hown, hend⟩ := hs.ends hW _ life hl
    exact ⟨a, ha, key_injective hown, hend⟩
  · rw [← flatMap_lives]
    exact hw.bound (fun life hl => (hs.numbered _ life hl).countP_le _) t
  · rintro suf pre r hlog rfl
    exact hs.answer_alone hlog

end Runs

/-! ## two windows -/

theorem counterReturns_recorded {self : RedisRateLimiter} (call : RateLimitedCall)
    (op : RateLimiterPort.Op) (x : LimiterState) :
    (limiterMachine self).recorded.sem call op x
      (recordedStep (fun _ => counterReturns) call op x).1
      (recordedStep (fun _ => counterReturns) call op x).2 :=
  ⟨rfl, rfl⟩

abbrev LimiterMove := Move RateLimiterPort PyError RateLimitedCall LimiterState

def nextCommands (call : RateLimitedCall) (n : Nat) : List LimiterMove :=
  [.spawn call (checkRateLimit oneASecond call.identifier), .turn call n]

/-- The first call is overtaken by two others before it sets the time to live; a fourth one comes
when the window is over. -/
def overtakenRun : List LimiterMove :=
  nextCommands ⟨"1.2.3.4", 0⟩ 1 ++ nextCommands ⟨"1.2.3.4", 1⟩ 1 ++ nextCommands ⟨"1.1.1.1", 0⟩ 2 ++
    [.env fun x => (x.1.wait 500, x.2), .turn ⟨"1.2.3.4", 0⟩ 1,
      .env fun x => (x.1.wait 1000, x.2)] ++
    nextCommands ⟨"1.2.3.4", 2⟩ 2

theorem fixed_windows_overtaken : FixedWindows oneASecond "1.2.3.4"
    (play (recordedStep fun _ => counterReturns) overtakenRun limiterInitial) := by
  refine fixed_windows (by decide) (Steps.play counterReturns_recorded overtakenRun _ ?_) _
  exact ⟨⟨⟨rfl, rfl⟩, trivial⟩, ⟨⟨_, rfl⟩, trivial⟩, ⟨⟨rfl, rfl⟩, trivial⟩, ⟨⟨_, rfl⟩, trivial⟩,
    ⟨⟨rfl, rfl⟩, trivial⟩, ⟨⟨_, rfl⟩, ⟨_, rfl⟩, trivial⟩, ⟨⟨⟨500, rfl⟩, rfl⟩, trivial⟩,
    ⟨⟨_, rfl⟩, trivial⟩, ⟨⟨⟨1000, rfl⟩, rfl⟩, trivial⟩, ⟨⟨rfl, rfl⟩, trivial⟩,
    ⟨⟨_, rfl⟩, ⟨_, rfl⟩, trivial⟩, trivial⟩

end Sentinel
