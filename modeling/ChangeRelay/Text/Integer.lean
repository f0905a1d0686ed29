/-!
# Integers written as text

`unsignedOfText radix s` reads an optional `+` and then a non-empty run of digits of `radix`
(letters of either case stand for digits past nine); `signedOfText` also takes a `-`. A lone sign,
an empty text or any other character reads as nothing. Range checks are the caller's: the value
is exact.

`readUnsigned bits s` is the strict reader of a fixed width, with its three faults: an empty text,
a character that is not a digit (a lone sign counts as one, and so does `-`), and a value too
large for the width. Digits are read from the left and the first fault met wins, so an overflow
hides a bad character after it.
-/

namespace ChangeRelay.Text

/-- The value of a character as a digit of `radix`, if it is one. -/
def digitValue (radix : Nat) (c : Char) : Option Nat :=
  let v :=
    if '0' ≤ c ∧ c ≤ '9' then c.toNat - '0'.toNat
    else if 'a' ≤ c ∧ c ≤ 'z' then c.toNat - 'a'.toNat + 10
    else if 'A' ≤ c ∧ c ≤ 'Z' then c.toNat - 'A'.toNat + 10
    else radix
  if v < radix then some v else none

/-- The value of a run of digits of `radix`, read from the most significant; none when the run
is empty or holds a character that is no digit. -/
def digitsValue (radix : Nat) : List Char → Option Nat
  | [] => none
  | c :: cs => cs.foldl (fun acc d => acc.bind fun a => (digitValue radix d).map (a * radix + ·))
      (digitValue radix c)

/-- An unsigned number: an optional `+`, then digits. -/
def unsignedOfText (radix : Nat) (s : String) : Option Nat :=
  match s.toList with
  | '+' :: ds => digitsValue radix ds
  | ds => digitsValue radix ds

/-- A signed number: an optional `+` or `-`, then digits. -/
def signedOfText (radix : Nat) (s : String) : Option Int :=
  match s.toList with
  | '+' :: ds => (digitsValue radix ds).map Int.ofNat
  | '-' :: ds => (digitsValue radix ds).map fun n => -(Int.ofNat n)
  | ds => (digitsValue radix ds).map Int.ofNat

/-- An unsigned number below `2 ^ bits`. -/
def boundedOfText (bits : Nat) (s : String) : Option Nat :=
  (unsignedOfText 10 s).filter (· < Nat.pow 2 bits)

/-- Why a text is not an unsigned number of a width. -/
inductive NumberFault where
  | empty
  | invalidDigit
  | tooLarge
  deriving DecidableEq, Repr

/-- The fault in words. -/
def NumberFault.message : NumberFault → String
  | .empty => "cannot parse integer from empty string"
  | .invalidDigit => "invalid digit found in string"
  | .tooLarge => "number too large to fit in target type"

/-- Reads decimal digits onto `acc`, failing at the first character that is no digit or at the
first digit that takes the value to `2 ^ bits` or past. -/
def accumulate (bits : Nat) (acc : Nat) : List Char → Except NumberFault Nat
  | [] => .ok acc
  | c :: cs =>
    match digitValue 10 c with
    | none => .error .invalidDigit
    | some d =>
      let v := acc * 10 + d
      if v < Nat.pow 2 bits then accumulate bits v cs else .error .tooLarge

/-- An unsigned decimal number below `2 ^ bits`, read strictly: an optional `+`, then digits. -/
def readUnsigned (bits : Nat) (s : String) : Except NumberFault Nat :=
  match s.toList with
  | [] => .error .empty
  | ['+'] | ['-'] => .error .invalidDigit
  | '+' :: ds => accumulate bits 0 ds
  | ds => accumulate bits 0 ds

theorem digitsValue_nil (radix : Nat) : digitsValue radix [] = none := rfl

theorem unsignedOfText_plus_empty : unsignedOfText 10 "+" = none := by decide

end ChangeRelay.Text
