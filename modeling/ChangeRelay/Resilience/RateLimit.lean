import ChangeRelay.Time.Duration

/-!
# Rate limiting pulls

Workers that share a source share one token bucket: it holds up to `burstSize` tokens, gains
`refillRate` tokens a second, and each pull takes one. A rate or burst of zero counts as one.

The bucket is kept as a theoretical arrival time (`Limiter.tat`): the instant at which the
bucket would be empty were every token taken as fast as they come. A token may be taken at `now`
when that instant, less the time the whole burst takes to refill, is not after `now`; taking
it pushes the instant one interval past the later of itself and `now`. A fresh bucket starts
one interval ahead, so exactly `burstSize` tokens are there at first. (A rate above a billion a
second has an interval of zero; the burst then refills at a token a nanosecond.)
-/

namespace ChangeRelay

/-- A bucket's size and refill rate. -/
structure RateLimit where
  burstSize : Nat := 10
  /-- Tokens a second. -/
  refillRate : Nat := 100
  deriving Repr

/-- A token bucket in time. -/
structure Limiter where
  /-- Nanoseconds between two tokens. -/
  interval : Nat
  /-- The tokens a full bucket holds. -/
  burst : Nat
  /-- The theoretical arrival time, once a token was taken. -/
  tat : Option Nat
  deriving Repr

namespace Limiter

/-- An untouched bucket of the given size and rate. -/
def new (r : RateLimit) : Limiter :=
  ⟨Duration.second / max r.refillRate 1, max r.burstSize 1, none⟩

/-- The time a full burst takes to refill (an interval counting at least a nanosecond). -/
def tolerance (l : Limiter) : Nat := max l.interval 1 * l.burst

/-- The earliest instant a token may be taken. -/
def earliest (l : Limiter) (now : Nat) : Nat := (l.tat.getD (now + l.interval)) - l.tolerance

/-- Takes a token at `now` if there is one. -/
def check (l : Limiter) (now : Nat) : Bool × Limiter :=
  let tat := l.tat.getD (now + l.interval)
  if now + l.tolerance < tat then (false, l)
  else (true, { l with tat := some (max tat now + l.interval) })

/-- Takes a token at `now` or as soon after as there is one: when it was taken, and the bucket
after. -/
def acquire (l : Limiter) (now : Nat) : Nat × Limiter :=
  let at_ := max now (l.earliest now)
  (at_, (l.check at_).2)

/-- Takes a token at each of `n` instants equal to `now`. -/
def checkMany (l : Limiter) (now : Nat) : Nat → List Bool × Limiter
  | 0 => ([], l)
  | n + 1 =>
    let (ok, l) := l.check now
    let (rest, l) := l.checkMany now n
    (ok :: rest, l)

theorem check_fresh (r : RateLimit) (now : Nat) : ((new r).check now).1 = true := by
  unfold check new tolerance
  simp only [Option.getD_none]
  have h1 : 1 ≤ max r.burstSize 1 := Nat.le_max_right _ _
  have h2 : max (Duration.second / max r.refillRate 1) 1 * 1 ≤
      max (Duration.second / max r.refillRate 1) 1 * max r.burstSize 1 := Nat.mul_le_mul_left _ h1
  have h3 : Duration.second / max r.refillRate 1 ≤ max (Duration.second / max r.refillRate 1) 1 :=
    Nat.le_max_left _ _
  rw [Nat.mul_one] at h2
  simp only [show ¬(now + max (Duration.second / max r.refillRate 1) 1 * max r.burstSize 1 <
    now + Duration.second / max r.refillRate 1) by omega, if_false]

end Limiter

end ChangeRelay
