import ChangeRelay.Json.Basic
import ChangeRelay.Decimal.Text
import ChangeRelay.Decimal.Rounding
import ChangeRelay.Text.Quoted

/-!
# Decoding typed values from JSON values

A `Decoder α` reads an `α` out of a `Json` value or says why it cannot, as a `Fault`. The faults
are by cause (a value of the wrong kind, a value out of range, a missing member, an unknown
variant name) and `Fault.message` words them; a `Wording` fixes how a document kind names an
empty value and writes a double.

Records are read by a `Shape`, built field by field with `<*>`. An object's members are checked
in key order, so of two faulty members the first key's fault is reported; a required member that
is missing is reported after that, the first in field order. Members of no field are ignored. A
record can also be read from an array, its fields in order.
-/

namespace ChangeRelay.Decode

/-- What was found where something else was wanted. -/
inductive Found where
  | bool (b : Bool)
  | unsigned (n : Nat)
  | signed (n : Int)
  | float (x : Float)
  | str (s : String)
  | unit
  | seq
  | map
  | other (what : String)

/-- How a document kind names what it holds in messages. -/
structure Wording where
  /-- The name of an empty value. -/
  unit : String
  /-- How a double is written. -/
  float : Float → String

/-- Messages about JSON values: an empty value is `null`, a double is written as in JSON. -/
def Wording.json : Wording := ⟨"null", Decimal.jsonText⟩

/-- Messages about other documents: an empty value is a `unit value`, a double is written with
every digit in place. -/
def Wording.plain : Wording := ⟨"unit value", Decimal.pointedText⟩

/-- What was found, in words. -/
def Found.text (w : Wording) : Found → String
  | .bool b => "boolean `" ++ (if b then "true" else "false") ++ "`"
  | .unsigned n => "integer `" ++ toString n ++ "`"
  | .signed n => "integer `" ++ toString n ++ "`"
  | .float x => "floating point `" ++ w.float x ++ "`"
  | .str s => "string " ++ Text.quoted s
  | .unit => w.unit
  | .seq => "sequence"
  | .map => "map"
  | .other s => s

/-- Why a value could not be decoded. -/
inductive Fault where
  /-- A value of another kind than the one wanted. -/
  | invalidType (found : Found) (wanted : String)
  /-- A value of the right kind that is out of range. -/
  | invalidValue (found : Found) (wanted : String)
  /-- A sequence of the wrong length. -/
  | invalidLength (n : Nat) (wanted : String)
  | missingField (name : String)
  | duplicateField (name : String)
  /-- A variant name that is none of `known`. -/
  | unknownVariant (name : String) (known : List String)
  /-- No variant of an enum without tag accepted the value. -/
  | noVariantMatched (enumName : String)
  | custom (text : String)

/-- The variant names a message offers. -/
def expectedOneOf (known : List String) : String :=
  let tick (k : String) := "`" ++ k ++ "`"
  match known with
  | [] => "there are no variants"
  | [a] => "expected " ++ tick a
  | [a, b] => "expected " ++ tick a ++ " or " ++ tick b
  | _ => "expected one of " ++ ", ".intercalate (known.map tick)

/-- A fault in words. -/
def Fault.message (w : Wording) : Fault → String
  | .invalidType f x => "invalid type: " ++ f.text w ++ ", expected " ++ x
  | .invalidValue f x => "invalid value: " ++ f.text w ++ ", expected " ++ x
  | .invalidLength n x => "invalid length " ++ toString n ++ ", expected " ++ x
  | .missingField n => "missing field `" ++ n ++ "`"
  | .duplicateField n => "duplicate field `" ++ n ++ "`"
  | .unknownVariant n ks => "unknown variant `" ++ n ++ "`, " ++ expectedOneOf ks
  | .noVariantMatched e => "data did not match any variant of untagged enum " ++ e
  | .custom t => t

/-- Reads an `α` from a JSON value. -/
abbrev Decoder (α : Type) := Json → Except Fault α

/-- What a JSON value is, for messages. -/
def found : Json → Found
  | .null => .unit
  | .bool b => .bool b
  | .num (.nat n) => .unsigned n
  | .num (.negInt n) => .signed n
  | .num (.float x) => .float x
  | .str s => .str s
  | .arr _ => .seq
  | .obj _ => .map

/-- A value of the wrong kind. -/
def mismatch (wanted : String) (j : Json) : Except Fault α := .error (.invalidType (found j) wanted)

/-- A string. -/
def string : Decoder String
  | .str s => .ok s
  | j => mismatch "a string" j

/-- An unsigned integer below `2^bits`, named `name` in messages. -/
def unsigned (bits : Nat) (name : String) : Decoder Nat
  | .num (.nat n) => if n < Nat.pow 2 bits then .ok n else .error (.invalidValue (.unsigned n) name)
  | .num (.negInt n) => .error (.invalidValue (.signed n) name)
  | j => mismatch name j

/-- An unsigned 64-bit integer. -/
def u64 : Decoder Nat := unsigned 64 "u64"

/-- An unsigned 32-bit integer. -/
def u32 : Decoder Nat := unsigned 32 "u32"

/-- An unsigned 16-bit integer. -/
def u16 : Decoder Nat := unsigned 16 "u16"

/-- A signed 64-bit integer. -/
def i64 : Decoder Int
  | .num (.nat n) => if n < Nat.pow 2 63 then .ok n else .error (.invalidValue (.unsigned n) "i64")
  | .num (.negInt n) => .ok n
  | j => mismatch "i64" j

/-- A boolean. -/
def bool : Decoder Bool
  | .bool b => .ok b
  | j => mismatch "a boolean" j

/-- A double; an integer is taken as the double nearest it. -/
def float : Decoder Float
  | .num (.nat n) => .ok (Decimal.natToFloat n)
  | .num (.negInt n) => .ok (Decimal.intToFloat n)
  | .num (.float x) => .ok x
  | j => mismatch "f64" j

/-- The members of an object. -/
def object : Decoder Json.Fields
  | .obj fs => .ok fs
  | j => mismatch "a map" j

/-- Any value, as it is. -/
def value : Decoder Json := .ok

/-- Each element of an array; the first faulty element is reported. -/
def list (d : Decoder α) : Decoder (List α)
  | .arr xs => xs.mapM d
  | j => mismatch "a sequence" j

/-- `null` as absent, anything else through `d`. -/
def option (d : Decoder α) : Decoder (Option α)
  | .null => .ok none
  | j => some <$> d j

/-- A variant by name. -/
def variantNamed (variants : List (String × α)) (name : String) : Except Fault α :=
  match variants.find? (·.1 == name) with
  | some (_, a) => .ok a
  | none => .error (.unknownVariant name (variants.map (·.1)))

/-- A variant without data: its name as a string, or an object of that one name over `null`. -/
def unitVariant (variants : List (String × α)) : Decoder α
  | .str s => variantNamed variants s
  | .obj [(k, v)] => do
    let a ← variantNamed variants k
    match v with
    | .null => pure a
    | other => mismatch "unit variant" other
  | .obj _ => .error (.invalidValue .map "map with a single key")
  | j => mismatch "string or map" j

/-- Documents whose decoding faults can stand for a plain `Fault`. -/
class FaultLike (ε : Type) where
  ofFault : Fault → ε

instance : FaultLike Fault := ⟨id⟩

/-- A record read field by field from members of nodes `ν`, failing with `ε`; see the module
note. -/
structure Form (ν ε α : Type) where
  /-- The member names read, each with a check of its value. -/
  checks : List (String × (ν → Option ε))
  /-- The record from a mapping's members, fields in order. -/
  ofMembers : List (String × ν) → Except ε α
  /-- The record from sequence elements from index `i` on, with what is left; `wanted` names the
  record for a length fault. -/
  ofElements : String → Nat → List ν → Except ε (α × Nat × List ν)

/-- A record read from a JSON object. -/
abbrev Shape := Form Json Fault

namespace Form

variable {ν ε : Type}

instance : Functor (Form ν ε) where
  map f s := ⟨s.checks, fun fs => f <$> s.ofMembers fs,
    fun w i xs => (fun (a, j, rest) => (f a, j, rest)) <$> s.ofElements w i xs⟩

/-- A record with no fields. -/
def just (a : α) : Form ν ε α := ⟨[], fun _ => .ok a, fun _ i xs => .ok (a, i, xs)⟩

instance : Applicative (Form ν ε) where
  pure := just
  seq f x :=
    let x := x ()
    ⟨f.checks ++ x.checks,
      fun fs => do
        let g ← f.ofMembers fs
        let a ← x.ofMembers fs
        pure (g a),
      fun w i xs => do
        let (g, i, xs) ← f.ofElements w i xs
        let (a, i, xs) ← x.ofElements w i xs
        pure (g a, i, xs)⟩

/-- The check of one member's value. -/
def checkOf (d : ν → Except ε α) (j : ν) : Option ε :=
  match d j with
  | .error e => some e
  | .ok _ => none

/-- The first member of a name. -/
def lookup (name : String) (fs : List (String × ν)) : Option ν :=
  (fs.find? (·.1 == name)).map (·.2)

variable [FaultLike ε]

/-- A member that must be present. -/
def required (name : String) (d : ν → Except ε α) : Form ν ε α :=
  ⟨[(name, checkOf d)],
    fun fs => match lookup name fs with
      | some j => d j
      | none => .error (FaultLike.ofFault (.missingField name)),
    fun w i xs => match xs with
      | [] => .error (FaultLike.ofFault (.invalidLength i w))
      | x :: rest => (fun a => (a, i + 1, rest)) <$> d x⟩

/-- A member that may be absent, then `dflt`. -/
def withDefault (name : String) (d : ν → Except ε α) (dflt : α) : Form ν ε α :=
  ⟨[(name, checkOf d)],
    fun fs => match lookup name fs with
      | some j => d j
      | none => .ok dflt,
    fun _ i xs => match xs with
      | [] => .ok (dflt, i, [])
      | x :: rest => (fun a => (a, i + 1, rest)) <$> d x⟩

/-- An optional member read by `d` (which reads an empty value as `none`): absent is `none`,
but a sequence must still hold it. -/
def orNone (name : String) (d : ν → Except ε (Option α)) : Form ν ε (Option α) :=
  ⟨[(name, checkOf d)],
    fun fs => match lookup name fs with
      | some j => d j
      | none => .ok none,
    fun w i xs => match xs with
      | [] => .error (FaultLike.ofFault (.invalidLength i w))
      | x :: rest => (fun a => (a, i + 1, rest)) <$> d x⟩

/-- The first fault among members that are fields, in member order. -/
def firstFault (checks : List (String × (ν → Option ε))) (fs : List (String × ν)) :
    Option ε :=
  fs.findSome? fun (k, v) => (checks.find? (·.1 == k)).bind fun (_, c) => c v

end Form

namespace Form

/-- An optional member of a JSON object: absent or `null` is `none`. -/
def optional (name : String) (d : Decoder α) : Shape (Option α) := Form.orNone name (option d)

/-- Reads the record named `name` (as in `struct Name`) from a JSON object or array. -/
def decode (s : Shape α) (name : String) : Decoder α
  | .obj fs =>
    match Form.firstFault s.checks fs with
    | some e => .error e
    | none => s.ofMembers fs
  | .arr xs => do
    let wanted := name ++ " with " ++ toString s.checks.length ++ " elements"
    let (a, _, rest) ← s.ofElements wanted 0 xs
    if rest.isEmpty then pure a
    else .error (.invalidLength xs.length "fewer elements in array")
  | j => mismatch name j

end Form

/-- The variant name of a tagged value. -/
def variantName : Decoder String
  | .str s => .ok s
  | j => mismatch "variant identifier" j

/-- An enum whose variant is named by member `tag` of an object (or by the first element of an
array); the other members go to the variant's decoder. -/
def tagged (tag enumName : String) (variants : List (String × Decoder α)) : Decoder α
  | .obj fs => do
    let name ← match Json.Fields.get? tag fs with
      | some t => variantName t
      | none => .error (.missingField tag)
    let d ← variantNamed variants name
    d (.obj (Json.Fields.erase tag fs))
  | .arr xs =>
    match xs with
    | [] => .error (.missingField tag)
    | t :: rest => do
      let name ← variantName t
      let d ← variantNamed variants name
      d (.arr rest)
  | j => mismatch ("internally tagged enum " ++ enumName) j

end ChangeRelay.Decode
