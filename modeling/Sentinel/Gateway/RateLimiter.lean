import Sentinel.Lib.Machine
import Sentinel.Shared.Json

/-!
# The rate limiter

A counter for each client in Redis. The first call of a window creates it and sets its time to
live in a second command; the others only count.

* `counterStep` — `INCR` and `EXPIRE`
* `isAllowed`, `checkRateLimit` — the limiter, and the request that it guards
* `limiterMachine` — any number of calls at any time, with faults and deaths
-/

namespace Sentinel

open Lib

/-! ## counters in Redis -/

structure Counter where
  count : Nat
  /-- In milliseconds; `none` for a key without a time to live. -/
  expiresAt : Option Nat
deriving DecidableEq, Repr

def Counter.aliveAt (counter : Counter) (now : Nat) : Bool :=
  match counter.expiresAt with
  | none => true
  | some expiresAt => now < expiresAt

theorem Counter.aliveAt_earlier {counter : Counter} {now now' : Nat} (hle : now ≤ now')
    (h : counter.aliveAt now' = true) : counter.aliveAt now = true := by
  unfold aliveAt at h ⊢
  cases hx : counter.expiresAt with
  | none => rfl
  | some x =>
    simp only [hx, decide_eq_true_eq] at h ⊢
    omega

/-- An expired counter may still lie there; no command finds it. -/
structure CounterStore where
  counters : String → Option Counter
  /-- The clock, in milliseconds. -/
  now : Nat

namespace CounterStore

def empty : CounterStore := ⟨fun _ => none, 0⟩

def find (s : CounterStore) (key : String) : Option Counter :=
  (s.counters key).filter fun counter => counter.aliveAt s.now

def set (s : CounterStore) (key : String) (counter : Counter) : CounterStore :=
  { s with counters := Function.update s.counters key (some counter) }

@[simp] theorem set_self (s : CounterStore) (key : String) (counter : Counter) :
    (s.set key counter).counters key = some counter := by
  simp [set]

theorem set_of_ne (s : CounterStore) {key key' : String} (counter : Counter) (h : key' ≠ key) :
    (s.set key counter).counters key' = s.counters key' := by
  simp [set, h]

@[simp] theorem set_now (s : CounterStore) (key : String) (counter : Counter) :
    (s.set key counter).now = s.now := rfl

/-- `INCR`: a key that is missing or has expired starts again, without a time to live. -/
def incr (s : CounterStore) (key : String) : Nat × CounterStore :=
  match s.find key with
  | none => (1, s.set key ⟨1, none⟩)
  | some counter => (counter.count + 1, s.set key { counter with count := counter.count + 1 })

/-- `EXPIRE`. -/
def expire (s : CounterStore) (key : String) (seconds : Nat) : Bool × CounterStore :=
  match s.find key with
  | none => (false, s)
  | some counter => (true, s.set key { counter with expiresAt := some (s.now + 1000 * seconds) })

/-- The clock goes on. -/
def wait (s : CounterStore) (d : Nat) : CounterStore := { s with now := s.now + d }

end CounterStore

/-! ## the limiter -/

inductive RateLimiterOp
  | incr (key : String)
  | expire (key : String) (seconds : Nat)

abbrev RateLimiterPort : Signature where
  Op := RateLimiterOp
  Ans
    | .incr _ => Nat
    | .expire _ _ => Bool

abbrev RateLimiterProg := Prog RateLimiterPort PyError

namespace RateLimiterPort

abbrev incr (key : String) : RateLimiterProg Nat :=
  @Prog.perform RateLimiterPort PyError (.incr key)

abbrev expire (key : String) (seconds : Nat) : RateLimiterProg Bool :=
  @Prog.perform RateLimiterPort PyError (.expire key seconds)

end RateLimiterPort

structure RedisRateLimiter where
  limit : Nat := 60
  windowSeconds : Nat := 60

namespace RedisRateLimiter

def key (identifier : String) : String := "ratelimit:" ++ identifier

theorem key_injective {identifier identifier' : String} (h : key identifier = key identifier') :
    identifier = identifier' := by
  have h := congrArg String.toList h
  simp only [key, String.toList_append] at h
  exact String.ext (List.append_cancel_left h)

def isAllowed (self : RedisRateLimiter) (identifier : String) : RateLimiterProg Bool := do
  let key := key identifier
  let currentCount ← RateLimiterPort.incr key
  if currentCount = 1 then
    let _ ← RateLimiterPort.expire key self.windowSeconds
  return currentCount ≤ self.limit

/-- The life of a counter, in milliseconds. -/
def window (self : RedisRateLimiter) : Nat := 1000 * self.windowSeconds

end RedisRateLimiter

/-- Status 429, "Rate limit exceeded". -/
def tooManyRequests : PyError := .other "HTTPException"

/-- The guard of `create_scrape_job`: the request goes on if this returns. -/
def checkRateLimit (self : RedisRateLimiter) (clientIp : String) : RateLimiterProg Unit := do
  let allowed ← self.isAllowed clientIp
  if allowed then return () else throw tooManyRequests

/-- What the caller gets to hear once the call has counted to `count`. -/
def verdict (self : RedisRateLimiter) (count : Nat) : RateLimiterProg Unit :=
  if count ≤ self.limit then Prog.ret () else Prog.raise tooManyRequests

/-- The two commands of a call, and its answer. -/
theorem checkRateLimit_eq (self : RedisRateLimiter) (clientIp : String) :
    checkRateLimit self clientIp =
      RateLimiterPort.incr (RedisRateLimiter.key clientIp) >>= fun count =>
        if count = 1 then
          RateLimiterPort.expire (RedisRateLimiter.key clientIp) self.windowSeconds >>=
            fun _ => verdict self count
        else verdict self count := by
  unfold checkRateLimit RedisRateLimiter.isAllowed
  rw [bind_assoc]
  refine congrArg (RateLimiterPort.incr _ >>= ·) (funext fun count => ?_)
  have hanswer : ∀ b : Bool, (b = true ↔ count ≤ self.limit) →
      (if b = true then return () else throw tooManyRequests : RateLimiterProg Unit) =
        verdict self count := by
    intro b hb
    unfold verdict
    by_cases hle : count ≤ self.limit
    · rw [if_pos (hb.mpr hle), if_pos hle]
      rfl
    · rw [if_neg fun h => hle (hb.mp h), if_neg hle]
      rfl
  by_cases h1 : count = 1
  · rw [if_pos h1, if_pos h1, bind_assoc]
    refine congrArg (RateLimiterPort.expire _ _ >>= ·) (funext fun _ => ?_)
    exact hanswer _ decide_eq_true_iff
  · rw [if_neg h1, if_neg h1]
    exact hanswer _ decide_eq_true_iff

/-! ## concurrent calls -/

def counterStep : (op : RateLimiterPort.Op) → CounterStore → RateLimiterPort.Ans op × CounterStore
  | .incr key, s => s.incr key
  | .expire key seconds, s => s.expire key seconds

/-- A call of the limiter is known by its client and a number. -/
structure RateLimitedCall where
  identifier : String
  n : Nat
deriving DecidableEq, Repr

def limiterMachine (self : RedisRateLimiter) :
    Machine RateLimiterPort PyError RateLimitedCall CounterStore where
  sem _ op s r s' := withFaults (fun op s a s' => counterStep op s = (a, s')) op s r s'
  spawn _ i p := p = checkRateLimit self i.identifier
  env s s' := ∃ d, s' = s.wait d
  crashes := True

/-- The commands of a script: every one returns. -/
def counterReturns (op : RateLimiterPort.Op) (s : CounterStore) :
    Except PyError (RateLimiterPort.Ans op) × CounterStore :=
  (.ok (counterStep op s).1, (counterStep op s).2)

/-- One request a second. -/
def oneASecond : RedisRateLimiter := ⟨1, 1⟩

/-! ## what a command does -/

section Commands

variable {s : CounterStore} {key key' : String} {counter : Counter}

theorem CounterStore.find_eq_some :
    s.find key = some counter ↔ s.counters key = some counter ∧ counter.aliveAt s.now = true := by
  unfold CounterStore.find
  rw [Option.filter_eq_some_iff]

/-- A key without a time to live is found at any time. -/
theorem CounterStore.find_unending {n : Nat} (h : s.counters key = some ⟨n, none⟩) :
    s.find key = some ⟨n, none⟩ :=
  find_eq_some.mpr ⟨h, rfl⟩

theorem CounterStore.incr_none (h : s.find key = none) :
    s.incr key = (1, s.set key ⟨1, none⟩) := by
  unfold incr
  rw [h]

theorem CounterStore.incr_some (h : s.find key = some counter) :
    s.incr key = (counter.count + 1, s.set key ⟨counter.count + 1, counter.expiresAt⟩) := by
  unfold incr
  rw [h]

theorem CounterStore.expire_none {seconds : Nat} (h : s.find key = none) :
    s.expire key seconds = (false, s) := by
  unfold expire
  rw [h]

theorem CounterStore.expire_some {seconds : Nat} (h : s.find key = some counter) :
    s.expire key seconds =
      (true, s.set key ⟨counter.count, some (s.now + 1000 * seconds)⟩) := by
  unfold expire
  rw [h]

/-- A command leaves the other keys alone. -/
theorem CounterStore.incr_of_ne (h : key' ≠ key) :
    (s.incr key).2.counters key' = s.counters key' := by
  unfold incr
  split <;> exact s.set_of_ne _ h

theorem CounterStore.expire_of_ne {seconds : Nat} (h : key' ≠ key) :
    (s.expire key seconds).2.counters key' = s.counters key' := by
  unfold expire
  split
  · rfl
  · exact s.set_of_ne _ h

@[simp] theorem CounterStore.incr_now : (s.incr key).2.now = s.now := by
  unfold incr
  split <;> rfl

@[simp] theorem CounterStore.expire_now {seconds : Nat} :
    (s.expire key seconds).2.now = s.now := by
  unfold expire
  split <;> rfl

/-- What a command answers, and what it does to its key, depends on that key and the clock. -/
theorem CounterStore.incr_congr {t : CounterStore} (hkey : s.counters key = t.counters key)
    (hnow : s.now = t.now) : (s.incr key).1 = (t.incr key).1 ∧
      (s.incr key).2.counters key = (t.incr key).2.counters key := by
  have hfind : s.find key = t.find key := by
    unfold find
    rw [hkey, hnow]
  unfold incr
  rw [hfind]
  split <;> simp

theorem CounterStore.expire_congr {t : CounterStore} {seconds : Nat}
    (hkey : s.counters key = t.counters key) (hnow : s.now = t.now) :
    (s.expire key seconds).1 = (t.expire key seconds).1 ∧
      (s.expire key seconds).2.counters key = (t.expire key seconds).2.counters key := by
  have hfind : s.find key = t.find key := by
    unfold find
    rw [hkey, hnow]
  unfold expire
  rw [hfind]
  split
  · exact ⟨rfl, hkey⟩
  · simp [hnow]

end Commands

end Sentinel
