/-!
# The double nearest a whole number or a fraction

`natToFloat n` is the double nearest `n`, a tie going to the even mantissa, for every `n`
(beyond the largest double it is infinite). Below `2^53` every whole number is a double; above,
the top 53 bits are kept and the rest decides the rounding exactly. `ratioToFloat` does the same
for a fraction, scaling it so that its quotient has the double's significant bits.
-/

namespace ChangeRelay.Decimal

/-- The double nearest a natural number; a tie goes to the even mantissa. -/
def natToFloat (n : Nat) : Float :=
  if n < Nat.pow 2 53 then n.toUInt64.toFloat
  else
    let sh := Nat.log2 n - 52
    let q := n >>> sh
    let r := n % Nat.pow 2 sh
    let half := Nat.pow 2 (sh - 1)
    let q := if r > half || (r == half && q % 2 == 1) then q + 1 else q
    q.toUInt64.toFloat.scaleB sh

/-- The double nearest `10^k`. -/
def tenFloat (k : Nat) : Float := natToFloat (Nat.pow 10 k)

/-- The double nearest an integer. -/
def intToFloat (n : Int) : Float :=
  if 0 ≤ n then natToFloat n.toNat else -(natToFloat n.natAbs)

/-- `⌊log2 (num / den)⌋` for positive `num` and `den`. -/
def ratioLog2 (num den : Nat) : Int :=
  let t : Int := (Nat.log2 num : Int) - Nat.log2 den
  let reaches : Bool :=
    if 0 ≤ t then den * Nat.pow 2 t.toNat ≤ num else den ≤ num * Nat.pow 2 (-t).toNat
  if reaches then t else t - 1

/-- `num * 2 ^ k / den` rounded to the nearest whole number, a tie going to the even one. -/
def roundScaled (num den : Nat) (k : Int) : Nat :=
  let (n, d) := if 0 ≤ k then (num * Nat.pow 2 k.toNat, den) else (num, den * Nat.pow 2 (-k).toNat)
  let q := n / d
  let r := n % d
  if 2 * r > d ∨ (2 * r = d ∧ q % 2 = 1) then q + 1 else q

/-- The double nearest `num / den`, a tie going to the even mantissa: 53 significant bits for a
normal double, fewer below the normal range, infinite above the largest. -/
def ratioToFloat (num den : Nat) : Float :=
  if num = 0 ∨ den = 0 then 0
  else
    let e := ratioLog2 num den
    let k : Int := if e ≥ -1022 then 52 - e else 1074
    let q := roundScaled num den k
    q.toUInt64.toFloat.scaleB (-k)

end ChangeRelay.Decimal
