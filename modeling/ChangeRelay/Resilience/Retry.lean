import ChangeRelay.Time.Seconds

/-!
# Retry schedules

A worker retries a failed pull or publish forever, waiting longer each time: the first retry
waits the initial delay and each further one `factor` times the one before, up to a ceiling.
`RetryPolicy.delayFor` computes the wait before retry `n` in seconds as doubles, so a factor
below one shrinks the waits and a huge one jumps straight to the ceiling; the exponent stops
growing at 64. Converting a negative wait back to a duration is a fault (`Except String`).

A `Backoff` counts consecutive failures; a success resets it.
-/

namespace ChangeRelay

/-- An exponential backoff schedule. -/
structure RetryPolicy where
  initialDelay : Duration
  /-- The ceiling of the waits. -/
  maxDelay : Duration
  /-- The growth per retry. -/
  factor : Float

namespace RetryPolicy

/-- One second, doubling, up to five minutes. -/
def standard : RetryPolicy := ⟨.ofSecs 1, .ofSecs 300, 2.0⟩

/-- The wait before retry `attempt`; attempt zero waits the initial delay. -/
def delayFor (p : RetryPolicy) (attempt : Nat) : Except String Duration :=
  if attempt = 0 then .ok p.initialDelay
  else
    let d := p.initialDelay.toSecsFloat * floatPow p.factor (min (attempt - 1) 64)
    if !d.isFinite || d ≥ p.maxDelay.toSecsFloat then .ok p.maxDelay
    else Duration.ofSecsFloat d

theorem delayFor_zero (p : RetryPolicy) : p.delayFor 0 = .ok p.initialDelay := rfl

end RetryPolicy

/-- A count of consecutive failures over a schedule. -/
structure Backoff where
  policy : RetryPolicy
  attempts : Nat := 0

namespace Backoff

/-- A counter that has seen no failure. -/
def new (policy : RetryPolicy) : Backoff := ⟨policy, 0⟩

/-- The counter capped at the largest 64-bit count. -/
def saturate (n : Nat) : Nat := min n (Nat.pow 2 64 - 1)

/-- Records a failure: the wait before retrying, and the counter after. -/
def next (b : Backoff) : Except String Duration × Backoff :=
  let attempts := saturate (b.attempts + 1)
  (b.policy.delayFor attempts, { b with attempts })

/-- Forgets the failures, after a success. -/
def reset (b : Backoff) : Backoff := { b with attempts := 0 }

theorem reset_attempts (b : Backoff) : b.reset.attempts = 0 := rfl

end Backoff

end ChangeRelay
