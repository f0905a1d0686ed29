import ChangeRelay.Decode.Basic
import ChangeRelay.Decimal.Parse
import ChangeRelay.Text.Integer
import ChangeRelay.Yaml.Basic

/-!
# What a YAML scalar stands for

A plain scalar without a tag is read by the YAML 1.2 core schema: empty, `~` and `null` (also
`Null`, `NULL`) are null; `true` and `false` in three cases are booleans; integers are decimal,
or hexadecimal, octal or binary after `0x`, `0o` or `0b`, with an optional sign; floats are
decimal numbers, `.inf` and `.nan`. A number with a leading zero and only digits after it is a
string (`007`), as the core schema has no such integer. A quoted or block scalar is a string.

The standard tags `!!bool`, `!!int`, `!!float` and `!!null` ask for a kind; a scalar that is not
of it is an invalid value of the kind. A local tag (`!name`) leaves a plain scalar read as if
untagged; any other tag makes it a string.

These are needed only to say what was found where a value of another type was wanted
(`scalarMismatch`), and for the types that read plain scalars themselves.
-/

namespace ChangeRelay.Yaml

open Decode

/-- Whether a scalar is one of the words for null. -/
def isNullText (v : String) : Bool := v == "null" || v == "Null" || v == "NULL" || v == "~"

/-- A boolean word. -/
def boolOfText (v : String) : Option Bool :=
  if v == "true" || v == "True" || v == "TRUE" then some true
  else if v == "false" || v == "False" || v == "FALSE" then some false
  else none

/-- Whether a sign is the first character. -/
def startsWithSign (v : String) : Bool := v.startsWith "+" || v.startsWith "-"

/-- Digits with a leading zero, after an optional sign: a string, not a number. -/
def leadingZeroDigits (v : String) : Bool :=
  let body := match v.toList with
    | '+' :: cs | '-' :: cs => cs
    | cs => cs
  match body with
  | '0' :: d :: ds => (d :: ds).all Char.isDigit
  | _ => false

/-- The radix prefixes of integers. -/
def radixPrefixes : List (String × Nat) := [("0x", 16), ("0o", 8), ("0b", 2)]

/-- A non-negative integer below `2 ^ bits`. -/
def unsignedOfScalar (bits : Nat) (v : String) : Option Nat :=
  let unpositive := if v.startsWith "+" then v.drop 1 else v.toSlice
  let inRange (n : Nat) : Option Nat := if n < Nat.pow 2 bits then some n else none
  let radixed := radixPrefixes.findSome? fun (pre, radix) =>
    if unpositive.startsWith pre then
      let rest := (unpositive.drop 2).copy
      if startsWithSign rest then some none
      else ((Text.unsignedOfText radix rest).bind inRange).map some
    else none
  match radixed with
  | some r => r
  | none =>
    if startsWithSign unpositive.copy || leadingZeroDigits v then none
    else (Text.unsignedOfText 10 unpositive.copy).bind inRange

/-- A signed integer of `bits` bits, as a negative one is written. -/
def signedOfScalar (bits : Nat) (v : String) : Option Int :=
  let inRange (n : Int) : Option Int :=
    if -Int.pow 2 (bits - 1) ≤ n ∧ n < Int.pow 2 (bits - 1) then some n else none
  let radixed := radixPrefixes.findSome? fun (pre, radix) =>
    if v.startsWith ("-" ++ pre) then
      (Text.signedOfText radix ("-" ++ (v.drop 3).copy)).bind inRange
    else none
  match radixed with
  | some n => some n
  | none => if leadingZeroDigits v then none else (Text.signedOfText 10 v).bind inRange

/-- A finite double, or an infinity or NaN in YAML's words. -/
def floatOfScalar (v : String) : Option Float :=
  let unpositive :=
    if v.startsWith "+" then
      let rest := (v.drop 1).copy
      if startsWithSign rest then none else some rest
    else some v
  unpositive.bind fun u =>
    if u == ".inf" || u == ".Inf" || u == ".INF" then some (1.0 / 0.0)
    else if v == "-.inf" || v == "-.Inf" || v == "-.INF" then some (-1.0 / 0.0)
    else if v == ".nan" || v == ".NaN" || v == ".NAN" then some (0.0 / 0.0)
    else (Decimal.readFloat u).filter fun x => !x.isNaN && !x.isInf

/-- An integer of any width, for messages. -/
def integerFound (v : String) : Option Found :=
  match unsignedOfScalar 64 v with
  | some n => some (.unsigned n)
  | none =>
    match signedOfScalar 64 v with
    | some n => some (.signed n)
    | none =>
      match unsignedOfScalar 128 v with
      | some n => some (.other ("integer `" ++ toString n ++ "` as u128"))
      | none => (signedOfScalar 128 v).map fun n => .other ("integer `" ++ toString n ++ "` as i128")

/-- What an untagged plain scalar is. -/
def plainFound (v : String) : Found :=
  if v.isEmpty || isNullText v then .unit
  else match boolOfText v with
    | some b => .bool b
    | none =>
      match integerFound v with
      | some f => f
      | none =>
        if leadingZeroDigits v then .str v
        else match floatOfScalar v with
          | some x => .float x
          | none => .str v

/-- The standard tag of a kind. -/
def standardTag (kind : String) : String := "tag:yaml.org,2002:" ++ kind

/-- The fault of a scalar where a value described as `wanted` was wanted. -/
def scalarMismatch (text : String) (style : ScalarStyle) (tag : Option String) (wanted : String) :
    Fault :=
  match tag with
  | some t =>
    if t == standardTag "bool" then
      match boolOfText text with
      | some b => .invalidType (.bool b) wanted
      | none => .invalidValue (.str text) "a boolean"
    else if t == standardTag "int" then
      match integerFound text with
      | some f => .invalidType f wanted
      | none => .invalidValue (.str text) "an integer"
    else if t == standardTag "float" then
      match floatOfScalar text with
      | some x => .invalidType (.float x) wanted
      | none => .invalidValue (.str text) "a float"
    else if t == standardTag "null" then
      if isNullText text then .invalidType .unit wanted else .invalidValue (.str text) "null"
    else if t.startsWith "!" && style == .plain then .invalidType (plainFound text) wanted
    else .invalidType (.str text) wanted
  | none =>
    if style == .plain then .invalidType (plainFound text) wanted
    else .invalidType (.str text) wanted

theorem plainFound_empty : plainFound "" = .unit := rfl

end ChangeRelay.Yaml
