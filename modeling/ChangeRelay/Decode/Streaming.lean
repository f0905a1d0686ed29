import ChangeRelay.Decode.Basic
import ChangeRelay.Json.Reader

/-!
# Decoding while reading

A record can be decoded straight from its text, member by member, instead of from a JSON value
read first. The first fault in the order of the text wins: a member of the wrong type is
reported even when the text goes wrong further on. A `ReadFault` says whether the text is not
JSON (`malformed`) or the JSON does not fit the type (`data`), names the path to where it arose
(`nodeLabels[0]`), and gives the line and column where reading stood.

Positions follow the reading. A scalar of the wrong type is reported after it, a bracket of the
wrong type before it, a missing member after the record's closing brace, and a repeated member
after its key. A fault in reading a key has no name on its path.

A record may also be written as an array of its members in order; members that may be left out
can be missing at the end. A member of no field is skipped, and skipping checks less than
reading: a comma before a closing bracket is a missing value, numbers are not checked for range,
escapes are not decoded and a control character is reported where it stands.
-/

namespace ChangeRelay.Decode

open Json (Reader SyntaxCode SyntaxError)

/-- A step on the path to a fault. -/
inductive Segment where
  | member (key : String)
  | element (index : Nat)
  /-- A step without a name, such as a key that could not be read. -/
  | unknown
  deriving DecidableEq, Repr

/-- A step as text. -/
def Segment.text : Segment → String
  | .member k => k
  | .element i => "[" ++ toString i ++ "]"
  | .unknown => "?"

/-- A path as text: members joined by dots, an element index right after what holds it. -/
def pathText (path : List Segment) : String :=
  (path.foldl (fun (acc : String × String) s => match s with
    | .element _ => (acc.1 ++ s.text, ".")
    | _ => (acc.1 ++ acc.2 ++ s.text, ".")) ("", "")).1

/-- What went wrong. -/
inductive Problem where
  | malformed (code : SyntaxCode)
  | data (fault : Fault)

/-- A fault of decoding text: where it arose, what went wrong, and where reading stood. -/
structure ReadFault where
  path : List Segment
  problem : Problem
  line : Nat
  column : Nat

namespace ReadFault

/-- Whether the text is not JSON, rather than JSON of another type. -/
def isMalformed (f : ReadFault) : Bool :=
  match f.problem with
  | .malformed _ => true
  | .data _ => false

/-- The fault as text: its path unless the path names nothing, what went wrong, and where. -/
def message (f : ReadFault) : String :=
  let lead := if f.path.all (· == .unknown) then "" else pathText f.path ++ ": "
  let what := match f.problem with
    | .malformed c => c.text
    | .data d => d.message Wording.json
  lead ++ what ++ " at line " ++ toString f.line ++ " column " ++ toString f.column

end ReadFault

/-- Result of a reading step: a value and where reading goes on, or the first fault. -/
abbrev Read (α : Type) := Except ReadFault (α × Nat)

/-- A syntax fault of the reader, on a path. -/
def onPath (path : List Segment) (e : SyntaxError) : ReadFault := ⟨path, .malformed e.code, e.line, e.column⟩

/-- A data fault on a path, with reading standing at byte `i`. -/
def dataAt (r : Reader) (path : List Segment) (fault : Fault) (i : Nat) : ReadFault :=
  let (line, column) := r.position i
  ⟨path, .data fault, line, column⟩

/-- A syntax fault on a path at the byte just looked at. -/
def peekAt (r : Reader) (path : List Segment) (code : SyntaxCode) (i : Nat) : ReadFault :=
  onPath path (r.peekFault code i)

/-- The fault of a value of the wrong type starting at byte `i`: a scalar is read first and
reported after it, a bracket is reported before it, and text that is no value says why. -/
def mismatchAt (r : Reader) (path : List Segment) (wanted : String) (i : Nat) : ReadFault :=
  let typed (found : Found) (j : Nat) : ReadFault := dataAt r path (.invalidType found wanted) j
  let scalar {α : Type} (step : Reader.Step α) (f : α → Found) : ReadFault :=
    match step with
    | .ok (a, j) => typed (f a) j
    | .error e => onPath path e
  match r.at? i with
  | some 110 => scalar (r.ident [117, 108, 108] (i + 1)) fun _ => .unit
  | some 116 => scalar (r.ident [114, 117, 101] (i + 1)) fun _ => .bool true
  | some 102 => scalar (r.ident [97, 108, 115, 101] (i + 1)) fun _ => .bool false
  | some 45 => scalar (r.number false (i + 1)) fun n => found (.num n)
  | some 34 => scalar (r.string (i + 1)) .str
  | some 91 => typed .seq i
  | some 123 => typed .map i
  | some c =>
    if Reader.isDigit c then scalar (r.number true i) fun n => found (.num n)
    else peekAt r path .expectedValue i
  | none => peekAt r path .eofValue i

/-- Reads a string. -/
def readString (r : Reader) (path : List Segment) (i : Nat) : Read String :=
  let i := r.skipBlanks i
  match r.at? i with
  | none => .error (peekAt r path .eofValue i)
  | some 34 =>
    match r.string (i + 1) with
    | .ok v => .ok v
    | .error e => .error (onPath path e)
  | some _ => .error (mismatchAt r path "a string" i)

/-- Reads the elements of an array from `i` (after its bracket) up to and past the closing
bracket, each with `item` and the path to it; `n` elements are read already. -/
def elementsFrom {α : Type} (r : Reader) (item : List Segment → Nat → Read α)
    (path : List Segment) : Nat → Nat → List α → Nat → Read (List α)
  | 0, _, _, i => .error (onPath path (r.fault .recursionLimit i))
  | fuel + 1, n, acc, i =>
    let here := path ++ [.element n]
    let i := r.skipBlanks i
    match r.at? i with
    | none => .error (peekAt r here .eofList i)
    | some 93 => .ok (acc.reverse, i + 1)
    | some c =>
      let next (k : Nat) : Read (List α) :=
        match item here k with
        | .ok (v, j) => elementsFrom r item path fuel (n + 1) (v :: acc) j
        | .error e => .error e
      if n == 0 then next i
      else if c == 44 then
        let k := r.skipBlanks (i + 1)
        match r.at? k with
        | some 93 => .error (peekAt r here .trailingComma k)
        | none => .error (peekAt r here .eofValue k)
        | some _ => next k
      else .error (peekAt r here .expectedListCommaOrEnd i)

/-- Reads an array, each element with `item`. -/
def readArray {α : Type} (r : Reader) (item : List Segment → Nat → Read α) (path : List Segment)
    (i : Nat) : Read (List α) :=
  let i := r.skipBlanks i
  match r.at? i with
  | none => .error (peekAt r path .eofValue i)
  | some 91 => elementsFrom r item path r.fuel 0 [] (i + 1)
  | some _ => .error (mismatchAt r path "a sequence" i)

/-! ## Skipping a value -/

/-- Skips the digits of an exponent from `i` (after its letter). -/
def skipExponent (r : Reader) (path : List Segment) (i : Nat) : Read Unit :=
  let j := match r.at? i with
    | some 43 | some 45 => i + 1
    | _ => i
  match r.at? j with
  | some c => if Reader.isDigit c then .ok ((), r.skipDigits (j + 1))
    else .error (onPath path (r.fault .invalidNumber (j + 1)))
  | none => .error (onPath path (r.fault .invalidNumber j))

/-- Skips what follows a number's integer digits at `i`. -/
def skipAfterDigits (r : Reader) (path : List Segment) (i : Nat) : Read Unit :=
  match r.at? i with
  | some 46 =>
    let k := r.skipDigits (i + 1)
    if k == i + 1 then .error (peekAt r path .invalidNumber k)
    else
      match r.at? k with
      | some 101 | some 69 => skipExponent r path (k + 1)
      | _ => .ok ((), k)
  | some 101 | some 69 => skipExponent r path (i + 1)
  | _ => .ok ((), i)

/-- Skips a number from `i` (after any minus sign). -/
def skipNumber (r : Reader) (path : List Segment) (i : Nat) : Read Unit :=
  match r.at? i with
  | some 48 =>
    match r.at? (i + 1) with
    | some c => if Reader.isDigit c then .error (peekAt r path .invalidNumber (i + 1))
      else skipAfterDigits r path (i + 1)
    | none => skipAfterDigits r path (i + 1)
  | some c =>
    if Reader.isDigit c then skipAfterDigits r path (r.skipDigits (i + 1))
    else .error (onPath path (r.fault .invalidNumber (i + 1)))
  | none => .error (onPath path (r.fault .invalidNumber i))

/-- Skips the rest of a string from `i` (after its quote), checking escapes only for form. -/
def skipString (r : Reader) (path : List Segment) (i : Nat) : Read Unit :=
  if h : i < r.bytes.size then
    let c := r.bytes[i]
    if c == 34 then .ok ((), i + 1)
    else if c == 92 then
      match r.at? (i + 1) with
      | none => .error (onPath path (r.fault .eofString r.bytes.size))
      | some e =>
        if e == 117 then
          if i + 6 ≤ r.bytes.size then
            if ((List.range 4).all fun k => (Reader.hexValue ((r.at? (i + 2 + k)).getD 0)).isSome) then
              skipString r path (i + 6)
            else .error (onPath path (r.fault .invalidEscape (i + 6)))
          else .error (onPath path (r.fault .eofString r.bytes.size))
        else if [34, 92, 47, 98, 102, 110, 114, 116].contains e then skipString r path (i + 2)
        else .error (onPath path (r.fault .invalidEscape (i + 2)))
    else if c < 32 then .error (onPath path (r.fault .controlCharacter i))
    else skipString r path (i + 1)
  else .error (onPath path (r.fault .eofString i))
termination_by r.bytes.size - i

mutual

/-- Skips a value from `i`. -/
def skipValue (r : Reader) (path : List Segment) : Nat → Nat → Read Unit
  | 0, i => .error (onPath path (r.fault .recursionLimit i))
  | fuel + 1, i =>
    let i := r.skipBlanks i
    match r.at? i with
    | none => .error (peekAt r path .eofValue i)
    | some 110 => (r.ident [117, 108, 108] (i + 1)).mapError (onPath path)
    | some 116 => (r.ident [114, 117, 101] (i + 1)).mapError (onPath path)
    | some 102 => (r.ident [97, 108, 115, 101] (i + 1)).mapError (onPath path)
    | some 45 => skipNumber r path (i + 1)
    | some 34 => skipString r path (i + 1)
    | some 91 => skipElements r path fuel true (i + 1)
    | some 123 => skipMembers r path fuel true (i + 1)
    | some c =>
      if Reader.isDigit c then skipNumber r path i else .error (peekAt r path .expectedValue i)

/-- Skips array elements from `i` up to and past the closing bracket. -/
def skipElements (r : Reader) (path : List Segment) : Nat → Bool → Nat → Read Unit
  | 0, _, i => .error (onPath path (r.fault .recursionLimit i))
  | fuel + 1, first, i =>
    let i := r.skipBlanks i
    match r.at? i with
    | none => .error (peekAt r path .eofList i)
    | some 93 => .ok ((), i + 1)
    | some c =>
      if first then
        match skipValue r path fuel i with
        | .ok ((), j) => skipElements r path fuel false j
        | .error e => .error e
      else if c == 44 then
        match skipValue r path fuel (i + 1) with
        | .ok ((), j) => skipElements r path fuel false j
        | .error e => .error e
      else .error (peekAt r path .expectedListCommaOrEnd i)

/-- Skips object members from `i` up to and past the closing brace. -/
def skipMembers (r : Reader) (path : List Segment) : Nat → Bool → Nat → Read Unit
  | 0, _, i => .error (onPath path (r.fault .recursionLimit i))
  | fuel + 1, first, i =>
    let i := r.skipBlanks i
    match r.at? i with
    | none => .error (peekAt r path .eofObject i)
    | some 125 => .ok ((), i + 1)
    | some c =>
      if first then skipMember r path fuel i
      else if c == 44 then skipMember r path fuel (i + 1)
      else .error (peekAt r path .expectedObjectCommaOrEnd i)

/-- Skips one member from `i` (before its key), then the members after it. -/
def skipMember (r : Reader) (path : List Segment) : Nat → Nat → Read Unit
  | 0, i => .error (onPath path (r.fault .recursionLimit i))
  | fuel + 1, i =>
    let i := r.skipBlanks i
    match r.at? i with
    | none => .error (peekAt r path .eofObject i)
    | some 34 =>
      match skipString r path (i + 1) with
      | .error e => .error e
      | .ok ((), j) =>
        let k := r.skipBlanks j
        match r.at? k with
        | some 58 =>
          match skipValue r path fuel (k + 1) with
          | .ok ((), j) => skipMembers r path fuel false j
          | .error e => .error e
        | some _ => .error (peekAt r path .expectedColon k)
        | none => .error (peekAt r path .eofObject k)
    | some _ => .error (peekAt r path .keyMustBeString i)

end

/-! ## Records -/

/-- The kinds of member a record read from text may have. -/
inductive Kind where
  | string
  /-- An array of strings. -/
  | strings
  deriving DecidableEq

/-- A member of a record. -/
structure Member where
  name : String
  kind : Kind
  /-- Whether the member may be left out. -/
  optional : Bool

/-- Reads a value of a kind, as JSON. -/
def Kind.read (r : Reader) (path : List Segment) (i : Nat) : Kind → Read Json
  | .string => (readString r path i).map fun (s, j) => (.str s, j)
  | .strings =>
    (readArray r (fun p k => readString r p k) path i).map fun (xs, j) => (.arr (xs.map .str), j)

/-- Where reading stands after a record's closing brace is looked for at `i`. -/
def pastBrace (r : Reader) (i : Nat) : Nat :=
  let p := r.skipBlanks i
  if r.at? p == some 125 then p + 1 else p

/-- Reads the members of a record from `i` (after its brace) up to and past the closing brace:
the members of the record's fields, in the order read. -/
def membersFrom (r : Reader) (members : List Member) :
    Nat → Bool → List (String × Json) → Nat → Read (List (String × Json))
  | 0, _, _, i => .error (onPath [] (r.fault .recursionLimit i))
  | fuel + 1, first, got, i =>
    let keyless := [Segment.unknown]
    let i := r.skipBlanks i
    let member (k : Nat) : Read (List (String × Json)) :=
      match r.string k with
      | .error e => .error (onPath keyless e)
      | .ok (key, j) =>
        let here := [Segment.member key]
        let known := members.find? (·.name == key)
        if known.isSome && (got.lookup key).isSome then
          .error (dataAt r [] (.duplicateField key) (pastBrace r j))
        else
          let p := r.skipBlanks j
          match r.at? p with
          | some 58 =>
            match known with
            | some m =>
              match m.kind.read r here (p + 1) with
              | .ok (v, k) => membersFrom r members fuel false (got ++ [(key, v)]) k
              | .error e => .error e
            | none =>
              match skipValue r here r.fuel (p + 1) with
              | .ok ((), k) => membersFrom r members fuel false got k
              | .error e => .error e
          | some _ => .error (peekAt r here .expectedColon p)
          | none => .error (peekAt r here .eofObject p)
    match r.at? i with
    | none => .error (peekAt r keyless .eofObject i)
    | some 125 =>
      match members.find? fun m => !m.optional && (got.lookup m.name).isNone with
      | some m => .error (dataAt r [] (.missingField m.name) (i + 1))
      | none => .ok (got, i + 1)
    | some c =>
      if first then
        if c == 34 then member (i + 1) else .error (peekAt r keyless .keyMustBeString i)
      else if c == 44 then
        let k := r.skipBlanks (i + 1)
        match r.at? k with
        | some 34 => member (k + 1)
        | some 125 => .error (peekAt r keyless .trailingComma k)
        | none => .error (peekAt r keyless .eofValue k)
        | some _ => .error (peekAt r keyless .keyMustBeString k)
      else .error (peekAt r keyless .expectedObjectCommaOrEnd i)

/-- Where reading stands after an array's closing bracket is looked for at `i`. -/
def pastBracket (r : Reader) (i : Nat) : Nat :=
  let p := r.skipBlanks i
  match r.at? p with
  | some 93 => p + 1
  | some 44 => r.skipBlanks (p + 1)
  | _ => p

/-- Reads a record written as an array from `i` (after its bracket), the remaining `members`
in order, the `n`-th next; the `expected` text names the record for a short array. -/
def positionalFrom (r : Reader) (expected : String) :
    List Member → Nat → List (String × Json) → Nat → Read (List (String × Json))
  | [], _, got, i => .ok (got, i)
  | m :: rest, n, got, i =>
    let here := [Segment.element n]
    let p := r.skipBlanks i
    let read (k : Nat) : Read (List (String × Json)) :=
      match m.kind.read r here k with
      | .ok (v, j) => positionalFrom r expected rest (n + 1) (got ++ [(m.name, v)]) j
      | .error e => .error e
    match r.at? p with
    | none => .error (peekAt r here .eofList p)
    | some 93 =>
      if m.optional then positionalFrom r expected rest (n + 1) got p
      else .error (dataAt r [] (.invalidLength got.length expected) (pastBracket r p))
    | some c =>
      if got.isEmpty then read p
      else if c == 44 then
        let k := r.skipBlanks (p + 1)
        match r.at? k with
        | some 93 => .error (peekAt r here .trailingComma k)
        | none => .error (peekAt r here .eofValue k)
        | some _ => read k
      else .error (peekAt r here .expectedListCommaOrEnd p)

/-- Closes a record written as an array at `i`: only its closing bracket may follow. -/
def closeArray (r : Reader) (i : Nat) : Read Unit :=
  let p := r.skipBlanks i
  match r.at? p with
  | some 93 => .ok ((), p + 1)
  | some 44 =>
    let q := r.skipBlanks (p + 1)
    if r.at? q == some 93 then .error (peekAt r [] .trailingComma q)
    else .error (peekAt r [] .trailingCharacters q)
  | some _ => .error (peekAt r [] .trailingCharacters p)
  | none => .error (peekAt r [] .eofList p)

/-- Reads the record `name` with `members` from text, with only blanks after it: the members
read, in the order read. -/
def readRecord (name : String) (members : List Member) (text : String) :
    Except ReadFault (List (String × Json)) :=
  let r : Reader := ⟨text.toUTF8⟩
  let i := r.skipBlanks 0
  let body : Read (List (String × Json)) := match r.at? i with
    | none => .error (peekAt r [] .eofValue i)
    | some 123 => membersFrom r members r.fuel true [] (i + 1)
    | some 91 =>
      let expected := "struct " ++ name ++ " with " ++ toString members.length ++ " elements"
      match positionalFrom r expected members 0 [] (i + 1) with
      | .ok (got, j) => (closeArray r j).map fun (_, k) => (got, k)
      | .error e => .error e
    | some _ => .error (mismatchAt r [] ("struct " ++ name) i)
  match body with
  | .error e => .error e
  | .ok (got, j) =>
    let k := r.skipBlanks j
    if k < r.bytes.size then .error (peekAt r [] .trailingCharacters k) else .ok got

end ChangeRelay.Decode
