import ChangeRelay.Yaml.Compose
import ChangeRelay.Yaml.Resolve
import ChangeRelay.Decode.Document

/-!
# Reading typed values from a YAML document

A node is read where it stands (`At`): with its path from the root, for messages, and the
document's anchors, to follow an alias. The path of a member is its key after its mapping's
path and a dot, of an element its index in brackets after its sequence's; the root is `.`, and
a member whose key is not a plain scalar node is `?`. A fault of a value is placed at the
innermost node that was being read when it arose, as `path: message at line L column C`; a fault
that arose in reading a record's members as a whole (a missing or repeated field) is placed at
the record's mapping.

How each type takes a node (`Document At Failure`):
* a string is the text of any scalar, however written;
* a boolean or an unsigned integer must be a plain scalar, as the core schema reads them;
* an optional value is absent for a plain empty or null scalar (or one tagged `!!null`);
* a sequence or a record may also be written as an empty plain scalar, for none of either;
* a record's mapping is read member by member in order: a field given twice is a fault, a
  member of no field is skipped whole, and the fields not given are missing (or take their
  defaults) once every member was read;
* an enum without data is its variant's name, or a local tag `!name` on an empty scalar.

A fault that cut the document counts where reading meets it (`Node.broken`); if the value was
read before it, the fault still fails the whole text, as does a second document after the
first (`readText`).
-/

namespace ChangeRelay.Yaml

open Decode

/-- Where a node lies in its document. -/
inductive Path where
  | root
  | seq (parent : Path) (index : Nat)
  | map (parent : Path) (key : String)
  /-- The node an alias stands for, read in the alias's place. -/
  | aliasRef (parent : Path)
  /-- A member whose key is not a plain scalar node. -/
  | unknown (parent : Path)

/-- What comes before a member of the node at `p` written `t`: nothing at the root. -/
def Path.lead : Path → String → String
  | .root, _ => ""
  | _, t => t ++ "."

/-- The path in words. -/
def Path.text : Path → String
  | .root => "."
  | .seq p i => p.text ++ "[" ++ toString i ++ "]"
  | .map p k => p.lead p.text ++ k
  | .aliasRef p => p.text
  | .unknown p => p.lead p.text ++ "?"

/-- Why a YAML text could not be read as a value. -/
inductive Failure where
  /-- A fault of a value, placed once at the innermost node being read. -/
  | value (text : String) (place : Option (Mark × String))
  /-- The fault that cut the document. -/
  | broken (b : Break)
  /-- A value wanted from the empty stream. -/
  | endOfStream
  | moreThanOneDocument

/-- Where a document was cut short, in words. -/
def Break.message : Break → String
  | .problem p => p.message
  | .unknownAnchor m => "unknown anchor" ++ (if m.isStart then "" else " at " ++ m.text)

/-- The failure in words. -/
def Failure.message : Failure → String
  | .value t none => t
  | .value t (some (m, path)) =>
    (if path == "." then "" else path ++ ": ") ++ t ++ (if m.isStart then "" else " at " ++ m.text)
  | .broken b => b.message
  | .endOfStream => "EOF while parsing a value"
  | .moreThanOneDocument =>
    "deserializing from YAML containing more than one document is not supported"

/-- Places a fault of a value that has no place yet. -/
def Failure.place (m : Mark) (p : Path) : Failure → Failure
  | .value t none => .value t (some (m, p.text))
  | f => f

/-- A fault of a value, not yet placed. -/
def Failure.ofFault (f : Fault) : Failure := .value (f.message .plain) none

/-- A node where it stands in its document. -/
structure At where
  node : Node
  path : Path
  anchors : Anchors

namespace At

/-- The node an alias stands for, in the alias's place; any other node as it is. -/
def resolve (a : At) : At :=
  match a.node with
  | .aliasRef id _ => { a with node := a.anchors.find id, path := .aliasRef a.path }
  | _ => a

/-- Another node of the same document. -/
def child (a : At) (node : Node) (path : Path) : At := { a with node, path }

/-- Places the faults of reading `a`. -/
def placed (a : At) (r : Except Failure α) : Except Failure α :=
  r.mapError (·.place a.node.mark a.path)

end At

/-- The fault of a node where a value described as `wanted` was wanted. -/
def mismatch (wanted : String) : Node → Failure
  | .scalar text style tag _ => .ofFault (scalarMismatch text style tag wanted)
  | .seq .. => .ofFault (.invalidType .seq wanted)
  | .map .. => .ofFault (.invalidType .map wanted)
  | .aliasRef .. => .ofFault (.invalidType (.other "alias") wanted)
  | .void _ => .endOfStream
  | .broken b => .broken b

mutual

/-- The first fault met in reading the node through. -/
def Node.firstBreak : Node → Option Break
  | .broken b => some b
  | .seq items tail _ _ => (firstBreakOfItems items).or tail
  | .map entries tail _ _ => (firstBreakOfEntries entries).or tail
  | _ => none

/-- The first fault met in reading the nodes through. -/
def firstBreakOfItems : List Node → Option Break
  | [] => none
  | n :: ns => n.firstBreak.or (firstBreakOfItems ns)

/-- The first fault met in reading the entries through, each key before its value. -/
def firstBreakOfEntries : List (Node × Node) → Option Break
  | [] => none
  | (k, v) :: es => k.firstBreak.or (v.firstBreak.or (firstBreakOfEntries es))

end

/-- A string: the text of any scalar. -/
def readString (a : At) : Except Failure String :=
  let a := a.resolve
  a.placed <| match a.node with
    | .scalar text .. => .ok text
    | n => .error (mismatch "a string" n)

/-- A boolean: a plain scalar `true` or `false`. -/
def readBool (a : At) : Except Failure Bool :=
  let a := a.resolve
  a.placed <| match a.node with
    | .scalar text .plain _ _ =>
      match boolOfText text with
      | some b => .ok b
      | none => .error (mismatch "a boolean" a.node)
    | n => .error (mismatch "a boolean" n)

/-- An unsigned integer below `2 ^ bits`, named `name`: a plain scalar. -/
def readUnsigned (bits : Nat) (name : String) (a : At) : Except Failure Nat :=
  let a := a.resolve
  a.placed <| match a.node with
    | .scalar text .plain _ _ =>
      match unsignedOfScalar 64 text with
      | some n => if n < Nat.pow 2 bits then .ok n else .error (.ofFault (.invalidValue (.unsigned n) name))
      | none => .error (mismatch name a.node)
    | n => .error (mismatch name n)

/-- An optional value: absent for an empty or null plain scalar and for the empty stream. A
scalar tagged `!!null` must be null; that fault is placed by the enclosing record. -/
def readOption (d : At → Except Failure α) (a : At) : Except Failure (Option α) :=
  let a := a.resolve
  match a.node with
  | .scalar text style tag _ =>
    if style != .plain then some <$> d a
    else match tag with
      | some t =>
        if t == standardTag "null" then
          if isNullText text then .ok none else .error (.ofFault (.invalidValue (.str text) "null"))
        else some <$> d a
      | none => if text.isEmpty || isNullText text then .ok none else some <$> d a
  | .void _ => .ok none
  | .broken b => .error (.broken b)
  | _ => some <$> d a

/-- The elements of a sequence from index `i` on. -/
def readItems (d : At → Except Failure α) (a : At) : Nat → List Node → Except Failure (List α)
  | _, [] => .ok []
  | i, n :: ns => do
    let x ← d (a.child n (.seq a.path i))
    let xs ← readItems d a (i + 1) ns
    pure (x :: xs)

/-- A sequence, or an empty plain scalar for none. -/
def readList (d : At → Except Failure α) (a : At) : Except Failure (List α) :=
  let a := a.resolve
  a.placed <| match a.node with
    | .seq items tail _ _ => do
      let xs ← readItems d a 0 items
      match tail with
      | some b => .error (.broken b)
      | none => pure xs
    | .scalar "" .plain _ _ | .void _ => .ok []
    | n => .error (mismatch "a sequence" n)

/-- The name of a record's member: the text of its key. -/
def fieldName (a : At) : Except Failure String :=
  let a := a.resolve
  a.placed <| match a.node with
    | .scalar text .. => .ok text
    | n => .error (mismatch "field identifier" n)

/-- The members of a record's mapping that are fields, each checked, in order. -/
def readMembers (checks : List (String × (At → Option Failure))) (a : At) :
    List (Node × Node) → List (String × At) → Except Failure (List (String × At))
  | [], acc => .ok acc.reverse
  | (k, v) :: rest, acc => do
    let key ← fieldName (a.child k a.path)
    match checks.find? (·.1 == key) with
    | some (_, check) =>
      if acc.any (·.1 == key) then throw (.ofFault (.duplicateField key))
      let path := match k with
        | .scalar .. => Path.map a.path key
        | _ => Path.unknown a.path
      let member := a.child v path
      match check member with
      | some e => throw e
      | none => readMembers checks a rest ((key, member) :: acc)
    | none =>
      match v.firstBreak with
      | some b => throw (.broken b)
      | none => readMembers checks a rest acc

/-- A record read by `form`, named `name` (as in `struct Name`): a mapping, or an empty plain
scalar for no members. -/
def readRecord (form : Form At Failure α) (name : String) (a : At) : Except Failure α :=
  let a := a.resolve
  a.placed <| match a.node with
    | .map entries tail _ _ => do
      let members ← readMembers form.checks a entries []
      if let some b := tail then throw (.broken b)
      form.ofMembers members
    | .scalar "" .plain _ _ | .void _ => form.ofMembers []
    | n => .error (mismatch name n)

/-- An enum without data: a scalar naming the variant, or a local tag `!name` on an empty or
null plain scalar. -/
def readUnitVariant (variants : List (String × α)) (a : At) : Except Failure α :=
  let a := a.resolve
  let named (name : String) := (variantNamed variants name).mapError Failure.ofFault
  let wanted := "a YAML tag starting with '!'"
  a.placed <| match a.node with
    | .scalar text style tag _ =>
      match tag with
      | some t =>
        if t.startsWith "!" then do
          let v ← named (t.drop 1).copy
          if style == .plain && (text.isEmpty || isNullText text) then pure v
          else throw (.ofFault (.invalidValue (.str text) "null"))
        else named text
      | none => named text
    | .seq .. => .error (.ofFault (.invalidType .seq wanted))
    | .map .. => .error (.ofFault (.invalidType .map wanted))
    | n => .error (mismatch wanted n)

instance : Decode.Document At Failure where
  ofFault := Failure.ofFault
  string := readString
  bool := readBool
  unsigned := readUnsigned
  option := readOption
  list := readList
  record := readRecord
  unitVariant := readUnitVariant

/-- The byte offset of the first character a YAML text may not hold. -/
def controlCharacter (text : String) : Option Nat :=
  let step (acc : Nat × Option Nat) (c : Char) : Nat × Option Nat :=
    match acc with
    | (_, some at_) => (0, some at_)
    | (offset, none) => if allowedChar c then (offset + c.utf8Size, none) else (offset, some offset)
  (text.toList.foldl step (0, none)).2

/-- Reads the single document of `text` by `read`. -/
def readText (read : At → Except Failure α) (text : String) : Except Failure α :=
  match controlCharacter text with
  | some offset =>
    .error (.broken (.problem { problem := "control characters are not allowed", mark := {}, offset }))
  | none =>
    let doc := firstDocument text
    match read ⟨doc.root, .root, doc.anchors⟩ with
    | .error f => .error f
    | .ok v =>
      match doc.fault with
      | some b => .error (.broken b)
      | none => if doc.more then .error .moreThanOneDocument else .ok v

end ChangeRelay.Yaml
