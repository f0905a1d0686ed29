import ChangeRelay.Decode.Basic

/-!
# Document kinds

A configuration is read the same way from any kind of document: records by a `Form`, and in
them strings, booleans, bounded integers, optional values, lists and enums without data. What
differs between kinds is what a node is (`ν`), what a fault carries (`ε`: a place in the text,
say) and how loosely a value is taken (a YAML scalar is a string whatever it looks like). A
`Document ν ε` supplies the readers of one kind; `Json` with plain faults is one.
-/

namespace ChangeRelay.Decode

/-- The readers of a kind of document with nodes `ν` and faults `ε`. -/
class Document (ν : Type) (ε : outParam Type) extends FaultLike ε where
  /-- A string. -/
  string : ν → Except ε String
  /-- A boolean. -/
  bool : ν → Except ε Bool
  /-- An unsigned integer below `2 ^ bits`, named `name` in messages. -/
  unsigned : Nat → String → ν → Except ε Nat
  /-- A value that may be empty. -/
  option {α : Type} : (ν → Except ε α) → ν → Except ε (Option α)
  /-- A sequence of values. -/
  list {α : Type} : (ν → Except ε α) → ν → Except ε (List α)
  /-- A record, named as in `struct Name`. -/
  record {α : Type} : Form ν ε α → String → ν → Except ε α
  /-- An enum without data, by variant name. -/
  unitVariant {α : Type} : List (String × α) → ν → Except ε α

instance : Document Json Fault where
  string := string
  bool := bool
  unsigned := unsigned
  option := option
  list := list
  record := Form.decode
  unitVariant := unitVariant

end ChangeRelay.Decode
