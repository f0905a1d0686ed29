import ChangeRelay.Decimal.Rounding

/-!
# Reading a double from decimal text

`readFloat` reads an optional sign and then `inf`, `infinity` or `nan` in any case, or a decimal
number: digits with at most one point and at least one digit, then optionally `e` or `E`, a
sign and digits. The value is the double nearest the number, computed exactly; an exponent far
beyond the range of doubles gives zero or an infinity without computing the power. Anything
else reads as nothing.
-/

namespace ChangeRelay.Decimal

/-- The digits of a decimal number and the power of ten they are scaled by. -/
structure Scaled where
  digits : Nat
  /-- How many digits were written, leading zeros included. -/
  count : Nat
  exponent : Int

/-- Reads a run of digits into `acc`, counting them. -/
def digitRun : List Char → Nat → Nat → Nat × Nat × List Char
  | c :: cs, acc, n =>
    if c.isDigit then digitRun cs (acc * 10 + (c.toNat - '0'.toNat)) (n + 1) else (acc, n, c :: cs)
  | [], acc, n => (acc, n, [])

/-- Reads the mantissa and exponent of a decimal number; all of the text must be used. -/
def scaledOf (cs : List Char) : Option Scaled := do
  let (whole, wholeCount, rest) := digitRun cs 0 0
  let (digits, fracCount, rest) ← match rest with
    | '.' :: more =>
      let (d, n, rest) := digitRun more whole 0
      some (d, n, rest)
    | _ => some (whole, 0, rest)
  if wholeCount + fracCount == 0 then none
  let exponent ← match rest with
    | [] => some (0 : Int)
    | e :: more =>
      if e != 'e' && e != 'E' then none
      else
        let (negative, ds) := match more with
          | '+' :: ds => (false, ds)
          | '-' :: ds => (true, ds)
          | ds => (false, ds)
        let (v, n, left) := digitRun ds 0 0
        if n == 0 || !left.isEmpty then none
        else some (if negative then -(v : Int) else v)
  pure ⟨digits, wholeCount + fracCount, exponent - fracCount⟩

/-- The double nearest `digits * 10 ^ exponent`. -/
def Scaled.toFloat (s : Scaled) : Float :=
  if s.digits == 0 then 0
  else if s.exponent + s.count > 400 then 1.0 / 0.0
  else if s.exponent + s.count < -400 then 0
  else if 0 ≤ s.exponent then natToFloat (s.digits * Nat.pow 10 s.exponent.toNat)
  else ratioToFloat s.digits (Nat.pow 10 (-s.exponent).toNat)

/-- A double from decimal text. -/
def readFloat (text : String) : Option Float :=
  let (negative, body) := match text.toList with
    | '+' :: cs => (false, cs)
    | '-' :: cs => (true, cs)
    | cs => (false, cs)
  let word := (String.ofList body).toLower
  let value :=
    if word == "inf" || word == "infinity" then some (1.0 / 0.0)
    else if word == "nan" then some (0.0 / 0.0)
    else (scaledOf body).map Scaled.toFloat
  value.map fun x => if negative then -x else x

end ChangeRelay.Decimal
