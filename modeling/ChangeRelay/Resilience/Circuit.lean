import ChangeRelay.Time.Duration

/-!
# The publish circuit breaker

A breaker stops calls to a failing endpoint for a while. It is closed at first and lets every
call run, keeping the outcomes of the last calls in a ring. A ring of `n` slots says nothing for
its first `n` outcomes; from then on it reports how many of the last `n` failed. When at least
half failed, the breaker opens until the recovery time has passed: calls in the meantime are
rejected without running. The first call after that runs half-open, over a fresh ring of
probes: when at most half of a full ring failed the breaker closes again, when at least half did
it opens again.

Time here is the breaker's own clock in nanoseconds, given with each call; a call runs past an
open breaker only strictly after the instant it was opened until.
-/

namespace ChangeRelay

/-- The last outcomes of calls, `true` for a failure. -/
structure Ring where
  /-- One slot per call kept, oldest first; empty slots count as successes. -/
  window : List Bool
  /-- How many outcomes were recorded, up to the slot count. -/
  filled : Nat
  deriving Repr

namespace Ring

/-- A ring of `n` empty slots. -/
def fresh (n : Nat) : Ring := ⟨List.replicate n false, 0⟩

/-- The failures in the ring. -/
def failures (r : Ring) : Nat := r.window.count true

/-- Records an outcome over the oldest; the failures among the last calls once the ring has
been full before. -/
def record (r : Ring) (failed : Bool) : Option Nat × Ring :=
  let window := if r.window.isEmpty then [] else r.window.drop 1 ++ [failed]
  if r.filled = r.window.length then (some (window.count true), ⟨window, r.filled⟩)
  else (none, ⟨window, r.filled + 1⟩)

theorem length_record (r : Ring) (failed : Bool) :
    (r.record failed).2.window.length = r.window.length := by
  unfold record
  cases h : r.window with
  | nil => simp only [List.isEmpty_nil, if_true]; split <;> rfl
  | cons a as =>
    simp only [List.isEmpty_cons, Bool.false_eq_true, if_false]
    split <;> simp

end Ring

/-- How a breaker trips and recovers. -/
structure CircuitSettings where
  /-- The calls a closed breaker weighs. -/
  failureThreshold : Nat := 5
  /-- The probes a half-open breaker weighs. -/
  successThreshold : Nat := 2
  /-- How long the breaker stays open. -/
  recoveryTimeout : Duration := .ofSecs 30
  deriving Repr

/-- Where a breaker stands. -/
inductive CircuitState where
  | closed (ring : Ring)
  | opened (untilNs : Nat)
  | halfOpen (ring : Ring)
  deriving Repr

/-- A breaker with its call accounting. -/
structure Circuit where
  name : String
  settings : CircuitSettings
  state : CircuitState
  callsTotal : Nat := 0
  failures : Nat := 0
  rejections : Nat := 0
  deriving Repr

/-- What became of a call through the breaker. -/
inductive CallOutcome (ε α : Type) where
  | ran (result : Except ε α)
  | rejected

namespace Circuit

/-- A closed breaker. -/
def new (name : String) (settings : CircuitSettings) : Circuit :=
  { name, settings, state := .closed (Ring.fresh settings.failureThreshold) }

/-- Whether `k` failures of `n` reach half. -/
def atLeastHalf (k n : Nat) : Bool := n ≤ 2 * k

/-- Whether `k` failures of `n` stay within half. -/
def atMostHalf (k n : Nat) : Bool := 2 * k ≤ n

/-- Opens the breaker at `now`. -/
def trip (c : Circuit) (now : Nat) : Circuit :=
  { c with state := .opened (now + c.settings.recoveryTimeout.nanos) }

/-- Lets a call in at `now`, or says it is rejected: an open breaker whose time is up turns
half-open. -/
def permit (c : Circuit) (now : Nat) : Option Circuit :=
  match c.state with
  | .closed _ | .halfOpen _ => some c
  | .opened untilNs =>
    if untilNs < now then some { c with state := .halfOpen (Ring.fresh c.settings.successThreshold) }
    else none

/-- Records the outcome of a call that ran at `now`. -/
def settle (c : Circuit) (now : Nat) (failed : Bool) : Circuit :=
  match c.state with
  | .closed ring =>
    let (rate, ring) := ring.record failed
    match rate with
    | some k => if atLeastHalf k ring.window.length then c.trip now else { c with state := .closed ring }
    | none => { c with state := .closed ring }
  | .halfOpen ring =>
    let (rate, ring) := ring.record failed
    match rate with
    | some k =>
      if failed then
        if atLeastHalf k ring.window.length then c.trip now else { c with state := .halfOpen ring }
      else if atMostHalf k ring.window.length then
        { c with state := .closed (Ring.fresh c.settings.failureThreshold) }
      else { c with state := .halfOpen ring }
    | none => { c with state := .halfOpen ring }
  | .opened _ => c

/-- Runs a call whose result is `result` through the breaker at `now`: a rejected call does not
run. -/
def call (c : Circuit) (now : Nat) (result : Except ε α) : CallOutcome ε α × Circuit :=
  let c := { c with callsTotal := c.callsTotal + 1 }
  match c.permit now with
  | none => (.rejected, { c with rejections := c.rejections + 1 })
  | some c =>
    match result with
    | .ok a => (.ran (.ok a), c.settle now false)
    | .error e => (.ran (.error e), { c.settle now true with failures := c.failures + 1 })

theorem settle_callsTotal (c : Circuit) (now : Nat) (failed : Bool) :
    (c.settle now failed).callsTotal = c.callsTotal := by
  unfold settle trip
  repeat' split
  all_goals rfl

theorem permit_callsTotal {c c' : Circuit} {now : Nat} (h : c.permit now = some c') :
    c'.callsTotal = c.callsTotal := by
  unfold permit at h
  cases hs : c.state with
  | closed r => simp only [hs, Option.some.injEq] at h; rw [← h]
  | halfOpen r => simp only [hs, Option.some.injEq] at h; rw [← h]
  | opened u =>
    simp only [hs] at h
    split at h
    · simp only [Option.some.injEq] at h; rw [← h]
    · cases h

theorem call_callsTotal (c : Circuit) (now : Nat) (result : Except ε α) :
    (c.call now result).2.callsTotal = c.callsTotal + 1 := by
  unfold call
  dsimp only
  cases h : permit { c with callsTotal := c.callsTotal + 1 } now with
  | none => rfl
  | some c' =>
    have := permit_callsTotal h
    cases result <;> simp only [settle_callsTotal, this]

end Circuit

end ChangeRelay
