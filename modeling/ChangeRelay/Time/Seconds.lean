import ChangeRelay.Time.Duration
import ChangeRelay.Decimal.Rounding

/-!
# Durations as seconds in a double

`Duration.toSecsFloat` is the whole seconds as the nearest double plus the nanoseconds over a
billion. `Duration.ofSecsFloat` goes back: the duration nearest the double's exact value, a tie
going to the even number of nanoseconds. A negative double has no duration, nor has a double
whose whole seconds do not fit 64 bits, an infinity or a NaN; the faults are worded as the
callers report them.

`floatPow` raises a double to a whole power by repeated squaring, multiplying in the factor
for each set bit from the lowest, which fixes where every rounding falls.
-/

namespace ChangeRelay

namespace Duration

/-- The duration in seconds, as a double. -/
def toSecsFloat (d : Duration) : Float :=
  Decimal.natToFloat d.secs + d.subsecNanos.toUInt64.toFloat / 1000000000.0

/-- `num / 2 ^ k` rounded to the nearest whole number, a tie going to the even one. -/
def roundShift (num k : Nat) : Nat :=
  if k = 0 then num
  else
    let q := num / Nat.pow 2 k
    let r := num % Nat.pow 2 k
    let half := Nat.pow 2 (k - 1)
    if r > half ∨ (r = half ∧ q % 2 = 1) then q + 1 else q

/-- The fault of a negative number of seconds. -/
def negativeSeconds : String := "cannot convert float seconds to Duration: value is negative"

/-- The fault of seconds too many for a duration. -/
def tooManySeconds : String :=
  "cannot convert float seconds to Duration: value is either too big or NaN"

/-- The duration nearest `x` seconds. -/
def ofSecsFloat (x : Float) : Except String Duration :=
  if x < 0 then .error negativeSeconds
  else
    let bits := x.toBits.toNat
    let mantissa := bits % Nat.pow 2 52 + Nat.pow 2 52
    let field := (bits / Nat.pow 2 52) % Nat.pow 2 11
    -- The value is `mantissa * 2 ^ (field - 1075)`.
    if field + 31 < 1023 then .ok ⟨0⟩
    else if field ≥ 1023 + 64 then .error tooManySeconds
    else if field ≥ 1075 then .ok ⟨mantissa * Nat.pow 2 (field - 1075) * second⟩
    else .ok ⟨roundShift (mantissa * second) (1075 - field)⟩

end Duration

/-- `a` to the power `b`, by squaring. -/
def floatPow (a : Float) (b : Nat) : Float := go a 1 b
where
  /-- Multiplies `r` by `a ^ b`. -/
  go (a r : Float) (b : Nat) : Float :=
    let r := if b % 2 = 1 then r * a else r
    if h : b / 2 = 0 then r else go (a * a) r (b / 2)
  termination_by b
  decreasing_by omega

end ChangeRelay
