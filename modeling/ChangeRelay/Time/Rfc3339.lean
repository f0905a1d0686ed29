/-!
# RFC 3339 timestamps

`epochMillis` reads an RFC 3339 date-time, `YYYY-MM-DDTHH:MM:SS[.fraction](Z|±HH:MM)`, and gives
the milliseconds since 1970-01-01T00:00:00Z, below zero for earlier instants. The separator may
be `T`, `t` or a blank and the zone `Z` or `z`; the fraction may have any number of digits, of
which the first nine count; the offset is at most 23:59 either way, with `-` or the minus sign
U+2212 before a negative one. A second of 60 is a leap second and ends at the next minute. The
date must exist in the proleptic Gregorian calendar. Anything else is no timestamp.
-/

namespace ChangeRelay.Time

/-- Whether a year of the proleptic Gregorian calendar is a leap year. -/
def isLeapYear (y : Nat) : Bool := (y % 4 == 0 && y % 100 != 0) || y % 400 == 0

/-- The number of days of a month. -/
def daysInMonth (y m : Nat) : Nat :=
  if m == 2 then (if isLeapYear y then 29 else 28)
  else if m == 4 || m == 6 || m == 9 || m == 11 then 30
  else 31

/-- Days from 1970-01-01 to a date of the proleptic Gregorian calendar. -/
def daysFromCivil (y m d : Nat) : Int :=
  let y : Int := if m ≤ 2 then (y : Int) - 1 else y
  let era := (if y ≥ 0 then y else y - 399) / 400
  let yoe := y - era * 400
  let mp : Int := if m > 2 then (m : Int) - 3 else (m : Int) + 9
  let doy := (153 * mp + 2) / 5 + (d : Int) - 1
  let doe := yoe * 365 + yoe / 4 - yoe / 100 + doy
  era * 146097 + doe - 719468

/-- Reads exactly `n` ASCII digits. -/
def digitsN : Nat → List Char → Option (Nat × List Char)
  | 0, cs => some (0, cs)
  | n + 1, cs =>
    match cs with
    | c :: rest =>
      if c.isDigit then
        (digitsN n rest).map fun (v, r) => ((c.toNat - 48) * Nat.pow 10 n + v, r)
      else none
    | [] => none

/-- Reads one to nine digits of a fraction as nanoseconds, skipping any further digits. -/
def fractionNanos (cs : List Char) : Option (Nat × List Char) :=
  let ds := cs.takeWhile Char.isDigit
  if ds.isEmpty then none
  else
    let kept := ds.take 9
    let v := kept.foldl (fun a c => a * 10 + (c.toNat - 48)) 0
    some (v * Nat.pow 10 (9 - kept.length), cs.dropWhile Char.isDigit)

/-- Reads the zone: `Z`, or a signed `HH:MM` offset in seconds east. -/
def zoneOffset (cs : List Char) : Option (Int × List Char) :=
  match cs with
  | 'Z' :: rest | 'z' :: rest => some (0, rest)
  | c :: rest =>
    let sign : Option Int :=
      if c = '+' then some 1 else if c = '-' || c.toNat == 0x2212 then some (-1) else none
    sign.bind fun sg =>
      (digitsN 2 rest).bind fun (h, rest) =>
        match rest with
        | ':' :: rest =>
          match rest with
          | m1 :: m2 :: rest =>
            if m1.isDigit && m2.isDigit && m1.toNat ≤ 53 then
              let m := (m1.toNat - 48) * 10 + (m2.toNat - 48)
              some (sg * ((h * 3600 + m * 60 : Nat) : Int), rest)
            else none
          | _ => none
        | _ => none
  | [] => none

/-- Milliseconds since the epoch of an RFC 3339 date-time, if the text is one. -/
def epochMillis (s : String) : Option Int := do
  let cs := s.toList
  let (y, cs) ← digitsN 4 cs
  let cs ← match cs with | '-' :: r => some r | _ => none
  let (mo, cs) ← digitsN 2 cs
  let cs ← match cs with | '-' :: r => some r | _ => none
  let (d, cs) ← digitsN 2 cs
  let cs ← match cs with | 'T' :: r | 't' :: r | ' ' :: r => some r | _ => none
  let (h, cs) ← digitsN 2 cs
  let cs ← match cs with | ':' :: r => some r | _ => none
  let (mi, cs) ← digitsN 2 cs
  let cs ← match cs with | ':' :: r => some r | _ => none
  let (sec, cs) ← digitsN 2 cs
  let (nanos, cs) ← match cs with
    | '.' :: r => fractionNanos r
    | _ => some (0, cs)
  let (off, cs) ← zoneOffset cs
  if !cs.isEmpty then none
  if off.natAbs > (23 * 60 + 59) * 60 then none
  if mo < 1 || mo > 12 || d < 1 || d > daysInMonth y mo then none
  if h > 23 || mi > 59 || sec > 60 then none
  let days := daysFromCivil y mo d
  let secs : Int := days * 86400 + (h * 3600 + mi * 60 + sec : Nat) - off
  return secs * 1000 + (nanos / 1000000 : Nat)

end ChangeRelay.Time
