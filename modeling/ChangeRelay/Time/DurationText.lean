import ChangeRelay.Time.Duration
import ChangeRelay.Text.Blank

/-!
# Durations written for people

`Duration.ofText` reads a duration such as `1h 30m`, `2.5min` or `10 mins 5 secs`: terms of a
number and a unit, added up. A number is digits with at most one point; blanks may stand before
it, among its digits and before its unit. A unit is a run of letters, ended by a blank, a digit
(which starts the next term) or the end. The units are

| unit | names |
|---|---|
| nanosecond | `nanos`, `nsec`, `ns` |
| microsecond | `usec`, `us`, `µs` |
| millisecond | `millis`, `msec`, `ms` |
| second | `seconds`, `second`, `secs`, `sec`, `s` |
| minute | `minutes`, `minute`, `min`, `mins`, `m` |
| hour | `hours`, `hour`, `hr`, `hrs`, `h` |
| day | `days`, `day`, `d` |
| week | `weeks`, `week`, `wk`, `wks`, `w` |
| month (30.44 days) | `months`, `month`, `M` |
| year (365.25 days) | `years`, `year`, `yr`, `yrs`, `y` |

A fraction must come out in whole nanoseconds (whole seconds from hours up); a nanosecond count
takes no fraction. Empty text, a number without a unit, an unknown unit, any other character,
and a count that leaves 64 bits are no duration.
-/

namespace ChangeRelay

namespace Duration

/-- Below 2^64. -/
def fits (n : Nat) : Bool := n < Nat.pow 2 64

/-- How a unit counts: in nanoseconds (for the units up to minutes) or in seconds. -/
inductive Scale where
  | nanos (perUnit : Nat)
  | secs (perUnit : Nat)

/-- The unit of a name. -/
def unitScale : String → Option Scale
  | "nanos" | "nsec" | "ns" => some (.nanos 1)
  | "usec" | "us" | "µs" => some (.nanos 1000)
  | "millis" | "msec" | "ms" => some (.nanos 1000000)
  | "seconds" | "second" | "secs" | "sec" | "s" => some (.secs 1)
  | "minutes" | "minute" | "min" | "mins" | "m" => some (.secs 60)
  | "hours" | "hour" | "hr" | "hrs" | "h" => some (.secs 3600)
  | "days" | "day" | "d" => some (.secs 86400)
  | "weeks" | "week" | "wk" | "wks" | "w" => some (.secs 604800)
  | "months" | "month" | "M" => some (.secs 2630016)
  | "years" | "year" | "yr" | "yrs" | "y" => some (.secs 31557600)
  | _ => none

/-- A number read so far: whole part, fraction digits and their scale. -/
structure Numeral where
  whole : Nat
  fraction : Nat
  scale : Nat
  pointSeen : Bool

/-- A running total: whole seconds and nanoseconds. -/
structure Total where
  secs : Nat
  nanos : Nat

/-- Adds one term to the total. -/
def Total.add (t : Total) (n : Numeral) (unit : String) : Option Total := do
  let scale ← unitScale unit
  let (s, ns) ← match scale with
    | .nanos per =>
      let whole := n.whole * per
      if !fits whole then none
      if n.fraction != 0 && per == 1 then none
      let fracNs := n.fraction * per
      if !fits fracNs || fracNs % n.scale != 0 then none
      some (0, whole + fracNs / n.scale)
    | .secs per =>
      let whole := n.whole * per
      if !fits whole then none
      if per < 3600 then
        let unitNs := per * 1000000000
        let fracNs := n.fraction * unitNs
        if !fits fracNs || fracNs % n.scale != 0 then none
        some (whole, fracNs / n.scale)
      else
        let fracS := n.fraction * per
        if !fits fracS || fracS % n.scale != 0 then none
        some (whole + fracS / n.scale, 0)
  let nanos := t.nanos + ns
  let (carry, nanos) := if nanos > 1000000000 then (nanos / 1000000000, nanos % 1000000000)
    else (0, nanos)
  let secs := t.secs + s + carry
  if !fits secs || !fits nanos then none
  return ⟨secs, nanos⟩

/-- Whether a character may be part of a unit. -/
def isUnitChar (c : Char) : Bool := c.isAlpha || c == 'µ'

/-- Where reading stands. -/
inductive Phase where
  /-- Before the first number. -/
  | start
  /-- Inside a number. -/
  | number (n : Numeral)
  /-- Inside the unit of a number. -/
  | unit (n : Numeral) (name : List Char)
  /-- After a unit and a blank. -/
  | between

/-- A number of one digit. -/
def Numeral.digit (c : Char) : Numeral := ⟨c.toNat - 48, 0, 1, false⟩

/-- A number with one more digit, if it still fits. -/
def Numeral.push (n : Numeral) (c : Char) : Option Numeral :=
  let d := c.toNat - 48
  let n := if n.pointSeen then { n with fraction := n.fraction * 10 + d, scale := n.scale * 10 }
    else { n with whole := n.whole * 10 + d }
  if fits n.whole && fits n.fraction && fits n.scale then some n else none

/-- Reads the text from a phase, adding the terms to the total. -/
def run : List Char → Phase → Total → Option Total
  | [], .start, _ => none
  | [], .number _, _ => none
  | [], .unit n u, t => t.add n (String.ofList u)
  | [], .between, t => some t
  | c :: cs, .start, t =>
    if Text.isBlank c then run cs .start t
    else if c.isDigit then run cs (.number (.digit c)) t
    else none
  | c :: cs, .between, t =>
    if Text.isBlank c then run cs .between t
    else if c.isDigit then run cs (.number (.digit c)) t
    else none
  | c :: cs, .number n, t =>
    if c.isDigit then (n.push c).bind fun n => run cs (.number n) t
    else if Text.isBlank c then run cs (.number n) t
    else if c == '.' && !n.pointSeen then run cs (.number { n with pointSeen := true }) t
    else if isUnitChar c then run cs (.unit n [c]) t
    else none
  | c :: cs, .unit n u, t =>
    if isUnitChar c then run cs (.unit n (u ++ [c])) t
    else if c.isDigit then (t.add n (String.ofList u)).bind (run cs (.number (.digit c)))
    else if Text.isBlank c then (t.add n (String.ofList u)).bind (run cs .between)
    else none

/-- The duration a text writes, if it writes one. -/
def ofText (s : String) : Option Duration :=
  (run s.toList .start ⟨0, 0⟩).map fun t => ⟨t.secs * 1000000000 + t.nanos⟩

/-- The duration a text writes, or `dflt` when it writes none. -/
def ofTextOr (s : String) (dflt : Duration) : Duration := (ofText s).getD dflt

end Duration

end ChangeRelay
