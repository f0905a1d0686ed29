import ChangeRelay.Json.Basic

/-!
# Durations

A duration is a whole number of nanoseconds. It is written as whole seconds and the nanoseconds
left over, `{secs, nanos}`, with `nanos` below a second.
-/

namespace ChangeRelay

/-- A span of time, in nanoseconds. -/
structure Duration where
  nanos : Nat
  deriving DecidableEq, Repr, Inhabited

namespace Duration

/-- Nanoseconds in a second. -/
def second : Nat := 1000000000

/-- A duration of whole seconds. -/
def ofSecs (s : Nat) : Duration := ⟨s * second⟩

/-- A duration of whole milliseconds. -/
def ofMillis (ms : Nat) : Duration := ⟨ms * 1000000⟩

/-- The whole seconds. -/
def secs (d : Duration) : Nat := d.nanos / second

/-- The nanoseconds past the whole seconds. -/
def subsecNanos (d : Duration) : Nat := d.nanos % second

/-- Whether the duration is empty. -/
def isZero (d : Duration) : Bool := d.nanos == 0

instance : LE Duration := ⟨fun a b => a.nanos ≤ b.nanos⟩

instance (a b : Duration) : Decidable (a ≤ b) := inferInstanceAs (Decidable (a.nanos ≤ b.nanos))

/-- The duration as `{secs, nanos}`. -/
def toJson (d : Duration) : Json :=
  Json.mkObj [("secs", Json.ofNat d.secs), ("nanos", Json.ofNat d.subsecNanos)]

/-- Whole milliseconds, rounded up: the resolution of timers. -/
def ceilMillis (d : Duration) : Nat := (d.nanos + 999999) / 1000000

theorem secs_mul_add (d : Duration) : d.secs * second + d.subsecNanos = d.nanos := by
  unfold secs subsecNanos
  exact Nat.div_add_mod' d.nanos second

end Duration

end ChangeRelay
