import ChangeRelay.Decimal.Shortest

/-!
# Writing a double as text

A double is written with its shortest digits (`Binary.shortest`); where the decimal point goes
is a `Notation` decision. Two notations are in use: `Notation.json`, the form numbers take in
JSON text and in identifiers made from numbers (positional for a decimal exponent from -5 to 15,
always with a fraction, otherwise scientific with a signed exponent), and `Notation.positional`,
which never uses an exponent and writes no fraction for a whole number.
-/

namespace ChangeRelay.Decimal

/-- Where the point goes and how an exponent looks. -/
structure Notation where
  /-- The least decimal exponent written positionally; `none` for no bound. -/
  fixedFrom : Option Int
  /-- The greatest decimal exponent written positionally; `none` for no bound. -/
  fixedTo : Option Int
  /-- A whole number written positionally ends in `.0`. -/
  wholeFraction : Bool
  /-- A positive exponent carries `+`. -/
  plusExponent : Bool

/-- Numbers in JSON text: positional from `1e-5` to below `1e16`, with a fraction, and past
those scientific with a signed exponent (`1e+16`, `1.5e-7`). -/
def Notation.json : Notation := ⟨some (-5), some 15, true, true⟩

/-- Every digit in place, no exponent, a whole number without fraction. -/
def Notation.positional : Notation := ⟨none, none, false, false⟩

/-- `n` zeros. -/
def zeros (n : Nat) : String := String.ofList (List.replicate n '0')

/-- Writes a decimal, digits first, in a notation. -/
def Decimal.render (nt : Notation) (d : Decimal) : String :=
  let ds := toString d.digits
  let n := ds.length
  -- the value is `0.ds · 10^point`
  let point : Int := (n : Int) + d.exponent
  let sciExp := point - 1
  let fixed := (nt.fixedFrom.all (· ≤ sciExp)) && (nt.fixedTo.all (sciExp ≤ ·))
  if fixed then
    if 0 ≤ d.exponent then
      ds ++ zeros d.exponent.toNat ++ (if nt.wholeFraction then ".0" else "")
    else if 0 < point then
      let cs := ds.toList
      String.ofList (cs.take point.toNat) ++ "." ++ String.ofList (cs.drop point.toNat)
    else "0." ++ zeros (-point).toNat ++ ds
  else
    let cs := ds.toList
    let mant := match cs with
      | c :: rest@(_ :: _) => String.ofList [c] ++ "." ++ String.ofList rest
      | _ => ds
    let sign := if sciExp < 0 then "-" else if nt.plusExponent then "+" else ""
    mant ++ "e" ++ sign ++ toString sciExp.natAbs

/-- A finite double in a notation; `none` for a NaN or an infinity. -/
def renderFloat (nt : Notation) (x : Float) : Option String :=
  match ofBits x.toBits with
  | none => none
  | some (neg, mag) =>
    let sign := if neg then "-" else ""
    match mag with
    | none => some (sign ++ (if nt.wholeFraction then "0.0" else "0"))
    | some b => some (sign ++ b.shortest.render nt)

/-- A double as JSON writes it; `null` for a NaN or an infinity, which JSON cannot hold. -/
def jsonText (x : Float) : String := (renderFloat Notation.json x).getD "null"

/-- A double with every digit in place and a fraction always present (`1.0`, `1e20` as
`100000000000000000000.0`), as messages about unexpected values show it. -/
def pointedText (x : Float) : String :=
  match renderFloat Notation.positional x with
  | some s => if s.contains '.' then s else s ++ ".0"
  | none => if x.isNaN then "NaN" else if x < 0 then "-inf" else "inf"

end ChangeRelay.Decimal
