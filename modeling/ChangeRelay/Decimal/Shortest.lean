/-!
# Shortest decimal digits of a double

A finite positive double is `m · 2^q`. The reals that round to it form an interval around it,
whose ends lie halfway to the neighbouring doubles and belong to it exactly when `m` is even
(a tie rounds to the even mantissa). `Binary.shortest` finds the decimal with the fewest
significant digits inside that interval: for `1, 2, …, 17` digits it takes the two points of that
decimal grid next to the value and keeps the first grid that holds one of them, the nearer of two
and the even one of an exact tie. Seventeen digits always suffice, so the search ends there.

All arithmetic is exact, on natural numbers.
-/

namespace ChangeRelay.Decimal

/-- A finite positive double as `mantissa · 2^exponent`. `narrowBelow` says the double below is
half as far as the one above, which happens at the lowest mantissa of a binade. -/
structure Binary where
  mantissa : Nat
  exponent : Int
  narrowBelow : Bool
  deriving Repr

/-- A decimal `digits · 10^exponent`. -/
structure Decimal where
  digits : Nat
  exponent : Int
  deriving Repr, DecidableEq

/-- `x · 2^e` as a fraction of natural numbers. -/
def binaryFraction (x : Nat) (e : Int) : Nat × Nat :=
  if 0 ≤ e then (x * Nat.pow 2 e.toNat, 1) else (x, Nat.pow 2 (-e).toNat)

/-- `10^e` as a fraction of natural numbers. -/
def tenPower (e : Int) : Nat × Nat :=
  if 0 ≤ e then (Nat.pow 10 e.toNat, 1) else (1, Nat.pow 10 (-e).toNat)

/-- The number of decimal digits of `n`, with one for zero. -/
def digitCount (n : Nat) : Nat :=
  if h : n < 10 then 1 else digitCount (n / 10) + 1
termination_by n
decreasing_by omega

/-- The decimal exponent `k` with `10^k ≤ x · 2^e < 10^(k+1)`, for `x > 0`. -/
def decimalExponent (x : Nat) (e : Int) : Int :=
  let (num, den) := binaryFraction x e
  if den ≤ num then (digitCount (num / den) : Int) - 1
  else
    -- below one: the least `j` with `num · 10^j ≥ den` is one past the digits of `⌈den/num⌉ - 1`
    let c := (den + num - 1) / num
    Int.neg (digitCount (c - 1))

namespace Binary

/-- Whether `c · 10^s` lies in the interval of reals that round to the double. -/
def holds (b : Binary) (c : Nat) (s : Int) : Bool :=
  let (pn, pd) := tenPower s
  let (tn, td) := binaryFraction 1 (b.exponent - 2)
  let low := if b.narrowBelow then 4 * b.mantissa - 1 else 4 * b.mantissa - 2
  let high := 4 * b.mantissa + 2
  let cand := c * pn * td
  let closed := b.mantissa % 2 == 0
  let aboveLow := if closed then low * tn * pd ≤ cand else low * tn * pd < cand
  let belowHigh := if closed then cand ≤ high * tn * pd else cand < high * tn * pd
  aboveLow && belowHigh

/-- The decimal of `n` significant digits that is in the interval and nearest the value, if the
grid of `n` digits has a point in the interval. -/
def withDigits (b : Binary) (k : Int) (n : Nat) : Option Decimal :=
  let s := k - (n : Int) + 1
  let (vn, vd) := binaryFraction b.mantissa b.exponent
  let (pn, pd) := tenPower s
  let num := vn * pd
  let den := vd * pn
  let lo := num / den
  if num % den == 0 then some ⟨lo, s⟩
  else
    let hi := lo + 1
    match b.holds lo s, b.holds hi s with
    | true, true =>
      if 2 * num < (2 * lo + 1) * den then some ⟨lo, s⟩
      else if 2 * num > (2 * lo + 1) * den then some ⟨hi, s⟩
      else if lo % 2 == 0 then some ⟨lo, s⟩ else some ⟨hi, s⟩
    | true, false => some ⟨lo, s⟩
    | false, true => some ⟨hi, s⟩
    | false, false => none

/-- The decimal of seventeen digits nearest the value, which always reads back. -/
def nearest17 (b : Binary) (k : Int) : Decimal :=
  let s := k - 17 + 1
  let (vn, vd) := binaryFraction b.mantissa b.exponent
  let (pn, pd) := tenPower s
  let num := vn * pd
  let den := vd * pn
  let lo := num / den
  if 2 * num < (2 * lo + 1) * den then ⟨lo, s⟩ else ⟨lo + 1, s⟩

end Binary

/-- Drops trailing zero digits into the exponent. -/
def Decimal.normalize (d : Decimal) : Decimal :=
  if h : d.digits ≠ 0 ∧ d.digits % 10 = 0 then
    Decimal.normalize ⟨d.digits / 10, d.exponent + 1⟩
  else d
termination_by d.digits
decreasing_by omega

/-- The shortest decimal that reads back as the double, the nearest one of that length. -/
def Binary.shortest (b : Binary) : Decimal :=
  let k := decimalExponent b.mantissa b.exponent
  let found := (List.range 17).findSome? (fun i => b.withDigits k (i + 1))
  (found.getD (b.nearest17 k)).normalize

/-- A double split into sign and magnitude: `none` for a NaN or an infinity, and a magnitude of
`none` for a zero. -/
def ofBits (bits : UInt64) : Option (Bool × Option Binary) :=
  let n : Nat := bits.toNat
  let negative : Bool := n / Nat.pow 2 63 % 2 == 1
  let e : Nat := n / Nat.pow 2 52 % Nat.pow 2 11
  let f : Nat := n % Nat.pow 2 52
  if e == 2047 then none
  else if e == 0 then
    if f == 0 then some (negative, none)
    else some (negative, some ⟨f, -1074, false⟩)
  else some (negative, some ⟨f + Nat.pow 2 52, (e : Int) - 1075, f == 0 && e > 1⟩)

end ChangeRelay.Decimal
