import ChangeRelay.Json.Basic
import ChangeRelay.Decimal.Rounding

/-!
# Reading JSON text

`Json.parse` reads one JSON value from text, with blanks (space, tab, line feed, carriage return)
around it, and reports the first fault as a `SyntaxError`: what was wrong and the line and
column (in bytes from the line's start) where reading stopped.

Numbers are read as they will be used. An integer that fits stays an integer (`Number.nat`, or
`Number.negInt` below zero); `-0` and an integer beyond the 64-bit ranges become doubles, and so
does every number with a fraction or an exponent. A double is computed from at most nineteen
significant digits `d` and a decimal exponent `e` as `d` times or divided by the double nearest
`10^|e|`, after dividing by `1e308` while `|e|` exceeds 308; digits beyond the nineteenth only
move the exponent. A result that overflows is refused as out of range.

Objects keep the last value given for a key. Nesting deeper than 127 brackets is refused.
-/

namespace ChangeRelay.Json

open ChangeRelay.Decimal (natToFloat tenFloat)

/-- What stopped a reading. -/
inductive SyntaxCode where
  | eofValue
  | eofList
  | eofObject
  | eofString
  | expectedColon
  | expectedListCommaOrEnd
  | expectedObjectCommaOrEnd
  | expectedIdent
  | expectedValue
  | invalidEscape
  | invalidNumber
  | numberOutOfRange
  | controlCharacter
  | keyMustBeString
  | loneLeadingSurrogate
  | trailingComma
  | trailingCharacters
  | unexpectedEndOfHexEscape
  | recursionLimit
  deriving DecidableEq, Repr

/-- The words for each fault. -/
def SyntaxCode.text : SyntaxCode → String
  | .eofValue => "EOF while parsing a value"
  | .eofList => "EOF while parsing a list"
  | .eofObject => "EOF while parsing an object"
  | .eofString => "EOF while parsing a string"
  | .expectedColon => "expected `:`"
  | .expectedListCommaOrEnd => "expected `,` or `]`"
  | .expectedObjectCommaOrEnd => "expected `,` or `\x7d`"
  | .expectedIdent => "expected ident"
  | .expectedValue => "expected value"
  | .invalidEscape => "invalid escape"
  | .invalidNumber => "invalid number"
  | .numberOutOfRange => "number out of range"
  | .controlCharacter => "control character (\\u0000-\\u001F) found while parsing a string"
  | .keyMustBeString => "key must be a string"
  | .loneLeadingSurrogate => "lone leading surrogate in hex escape"
  | .trailingComma => "trailing comma"
  | .trailingCharacters => "trailing characters"
  | .unexpectedEndOfHexEscape => "unexpected end of hex escape"
  | .recursionLimit => "recursion limit exceeded"

/-- A fault and where reading stopped: a line from 1 and a byte column from 0. -/
structure SyntaxError where
  code : SyntaxCode
  line : Nat
  column : Nat
  deriving Repr

/-- `<fault> at line L column C`. -/
def SyntaxError.message (e : SyntaxError) : String :=
  e.code.text ++ " at line " ++ toString e.line ++ " column " ++ toString e.column

/-- The largest unsigned 64-bit integer. -/
def u64Max : Nat := Nat.pow 2 64 - 1

/-- The largest signed 32-bit integer, the bound of an exponent's digits. -/
def i32Max : Nat := Nat.pow 2 31 - 1

/-- Divides by `1e308` until the exponent is in reach of one power, or the value is zero. -/
def scaleDown (f : Float) (e : Int) : Float :=
  if h : e < -308 then
    if f == 0 then f else scaleDown (f / tenFloat 308) (e + 308)
  else f / tenFloat e.natAbs
termination_by e.natAbs
decreasing_by omega

/-- Text being read, as bytes. -/
structure Reader where
  bytes : ByteArray

namespace Reader

variable (r : Reader)

/-- The byte at `i`. -/
def at? (i : Nat) : Option UInt8 := r.bytes[i]?

/-- Line (from 1) and column (from 0) of byte `i`. -/
def position (i : Nat) : Nat × Nat :=
  let (line, start) := (List.range (min i r.bytes.size)).foldl
    (fun (acc : Nat × Nat) j => if r.at? j == some 10 then (acc.1 + 1, j + 1) else acc) (1, 0)
  (line, i - start)

/-- A fault where reading stands. -/
def fault (code : SyntaxCode) (i : Nat) : SyntaxError :=
  let (l, c) := r.position i
  ⟨code, l, c⟩

/-- A fault at the byte just looked at, one past where reading stands. -/
def peekFault (code : SyntaxCode) (i : Nat) : SyntaxError :=
  r.fault code (min r.bytes.size (i + 1))

/-- Whether a byte is a blank between tokens. -/
def isBlank (c : UInt8) : Bool := c == 32 || c == 10 || c == 9 || c == 13

/-- Whether a byte is an ASCII digit. -/
def isDigit (c : UInt8) : Bool := 48 ≤ c && c ≤ 57

/-- Skips blanks from `i`. -/
def skipBlanks (i : Nat) : Nat :=
  if h : i < r.bytes.size then
    if isBlank r.bytes[i] then skipBlanks (i + 1) else i
  else i
termination_by r.bytes.size - i

/-- Skips digits from `i`. -/
def skipDigits (i : Nat) : Nat :=
  if h : i < r.bytes.size then
    if isDigit r.bytes[i] then skipDigits (i + 1) else i
  else i
termination_by r.bytes.size - i

/-- The digits from `i` to `stop` as numbers. -/
def digitsBetween (i stop : Nat) : List Nat :=
  (List.range (stop - i)).map (fun k => ((r.at? (i + k)).getD 48 - 48).toNat)

/-- Result of a reading step: a value and where reading goes on. -/
abbrev Step (α : Type) := Except SyntaxError (α × Nat)

/-- Reads the letters `word` from `i`, the first letter already read. -/
def ident (word : List UInt8) (i : Nat) : Step Unit :=
  match word with
  | [] => .ok ((), i)
  | w :: ws =>
    match r.at? i with
    | none => .error (r.fault .eofValue i)
    | some c => if c == w then ident ws (i + 1) else .error (r.fault .expectedIdent (i + 1))

/-- The double `±d · 10^e`, refused as out of range when it overflows. `i` is where reading
stands, for the fault. -/
def floatOf (positive : Bool) (d : Nat) (e : Int) (i : Nat) : Except SyntaxError Float :=
  let f := natToFloat d
  let sign (x : Float) := if positive then x else -x
  if 0 ≤ e then
    if e ≤ 308 then
      let g := f * tenFloat e.toNat
      if g.isInf then .error (r.fault .numberOutOfRange i) else .ok (sign g)
    else if f == 0 then .ok (sign f)
    else .error (r.fault .numberOutOfRange i)
  else .ok (sign (scaleDown f e))

/-- Reads an exponent at `i` (on the `e`) of a number with digits `d` and exponent `e0`. -/
def exponentPart (positive : Bool) (d : Nat) (e0 : Int) (i : Nat) : Step Float :=
  let j := i + 1
  let (up, j) :=
    match r.at? j with
    | some 43 => (true, j + 1)
    | some 45 => (false, j + 1)
    | _ => (true, j)
  match r.at? j with
  | none => .error (r.fault .eofValue j)
  | some c =>
    if !isDigit c then .error (r.fault .invalidNumber (j + 1))
    else
      let stop := r.skipDigits (j + 1)
      -- the exponent's digits, up to the first that would pass the 32-bit bound
      let digits := r.digitsBetween j stop
      let grown := digits.foldl (fun (acc : Option Nat) x =>
        acc.bind (fun a => if a * 10 + x > i32Max then none else some (a * 10 + x))) (some 0)
      match digits with
      | [] => .error (r.fault .invalidNumber (j + 1))
      | _ :: _ =>
        match grown with
        | some n =>
          let e := if up then e0 + n else e0 - n
          -- the exponent saturates at the 32-bit bounds
          let e := max (-Int.pow 2 31) (min (Int.pow 2 31 - 1) e)
          match r.floatOf positive d e stop with
          | .ok f => .ok (f, stop)
          | .error err => .error err
        | none =>
          -- `grow` stopped at the digit that overflows, which was already read
          let overflowAt := ((List.range digits.length).find? (fun k =>
            ((digits.take (k + 1)).foldl (fun a x => a * 10 + x) 0) > i32Max)).getD 0
          if d != 0 && up then .error (r.fault .numberOutOfRange (j + overflowAt + 1))
          else .ok ((if positive then 0.0 else -0.0), stop)

/-- Reads the fraction at `i` (on the point) of a number with digits `d` and exponent `e0`. -/
def fractionPart (positive : Bool) (d : Nat) (e0 : Int) (i : Nat) : Step Float :=
  let j := i + 1
  let stop := r.skipDigits j
  if stop == j then
    match r.at? j with
    | some _ => .error (r.peekFault .invalidNumber j)
    | none => .error (r.peekFault .eofValue j)
  else
    -- digits are taken while the significand stays below 2^64; later ones are dropped
    let (d, taken, _) := (r.digitsBetween j stop).foldl (fun (acc : Nat × Nat × Bool) x =>
      let (v, n, taking) := acc
      if taking && v * 10 + x ≤ u64Max then (v * 10 + x, n + 1, true) else (v, n, false))
      (d, 0, true)
    let e := e0 - taken
    match r.at? stop with
    | some 101 | some 69 => r.exponentPart positive d e stop
    | _ =>
      match r.floatOf positive d e stop with
      | .ok f => .ok (f, stop)
      | .error err => .error err

/-- Goes on after an integer part `d · 10^extra` that ends at `j`. -/
def afterDigits (positive : Bool) (d extra : Nat) (j : Nat) : Step Number :=
  match r.at? j with
  | some 46 =>
    match r.fractionPart positive d extra j with
    | .ok (f, k) => .ok (.float f, k)
    | .error e => .error e
  | some 101 | some 69 =>
    match r.exponentPart positive d extra j with
    | .ok (f, k) => .ok (.float f, k)
    | .error e => .error e
  | _ =>
    if extra > 0 then
      match r.floatOf positive d extra j with
      | .ok f => .ok (.float f, j)
      | .error e => .error e
    else if positive then .ok (.nat d, j)
    else if d == 0 then .ok (.float (-0.0), j)
    else if d ≤ Nat.pow 2 63 then .ok (.negInt (-(d : Int)), j)
    else .ok (.float (-(natToFloat d)), j)

/-- Reads a number's digits at `i` (after any minus sign). -/
def number (positive : Bool) (i : Nat) : Step Number :=
  match r.at? i with
  | none => .error (r.fault .eofValue i)
  | some c =>
    if c == 48 then
      match r.at? (i + 1) with
      | some c2 =>
        if isDigit c2 then .error (r.peekFault .invalidNumber (i + 1))
        else r.afterDigits positive 0 0 (i + 1)
      | none => r.afterDigits positive 0 0 (i + 1)
    else if isDigit c then
      let stop := r.skipDigits i
      -- digits are taken while the significand stays below 2^64; later ones scale it
      let (d, extra, _) := (r.digitsBetween i stop).foldl (fun (acc : Nat × Nat × Bool) x =>
        let (v, n, taking) := acc
        if taking && v * 10 + x ≤ u64Max then (v * 10 + x, n, true) else (v, n + 1, false))
        (0, 0, true)
      r.afterDigits positive d extra stop
    else .error (r.fault .invalidNumber (i + 1))

/-- The value of one hex digit. -/
def hexValue (c : UInt8) : Option Nat :=
  if 48 ≤ c && c ≤ 57 then some (c - 48).toNat
  else if 97 ≤ c && c ≤ 102 then some (c - 87).toNat
  else if 65 ≤ c && c ≤ 70 then some (c - 55).toNat
  else none

/-- Reads four hex digits at `i`. -/
def hex4 (i : Nat) : Step Nat :=
  if i + 4 ≤ r.bytes.size then
    let vals := (List.range 4).map (fun k => (r.at? (i + k)).bind hexValue)
    match vals with
    | [some a, some b, some c, some d] => .ok (((a * 16 + b) * 16 + c) * 16 + d, i + 4)
    | _ => .error (r.fault .invalidEscape (i + 4))
  else .error (r.fault .eofString r.bytes.size)

/-- Appends the UTF-8 bytes of a code point. -/
def pushCode (acc : ByteArray) (n : Nat) : ByteArray :=
  acc ++ (String.singleton (Char.ofNat n)).toUTF8

/-- Reads a `\u` escape at `i` (after the `u`): a character, or a surrogate pair. -/
def unicodeEscape (acc : ByteArray) (i : Nat) : Except SyntaxError (ByteArray × Nat) := do
  let (n, j) ← r.hex4 i
  if 0xDC00 ≤ n && n ≤ 0xDFFF then throw (r.fault .loneLeadingSurrogate j)
  if n < 0xD800 || n > 0xDBFF then return (pushCode acc n, j)
  match r.at? j with
  | none => throw (r.fault .eofString j)
  | some c =>
    if c != 92 then throw (r.fault .unexpectedEndOfHexEscape (j + 1))
    match r.at? (j + 1) with
    | none => throw (r.fault .eofString (j + 1))
    | some c =>
      if c != 117 then throw (r.fault .unexpectedEndOfHexEscape (j + 2))
      let (n2, k) ← r.hex4 (j + 2)
      if n2 < 0xDC00 || n2 > 0xDFFF then throw (r.fault .loneLeadingSurrogate k)
      return (pushCode acc ((((n - 0xD800) <<< 10) ||| (n2 - 0xDC00)) + 0x10000), k)

/-- Reads the rest of a string from `i` (after the opening quote) into `acc`. -/
def stringFrom (acc : ByteArray) (i : Nat) : Step ByteArray :=
  if h : i < r.bytes.size then
    let c := r.bytes[i]
    if c == 34 then .ok (acc, i + 1)
    else if c == 92 then
      match r.at? (i + 1) with
      | none => .error (r.fault .eofString r.bytes.size)
      | some e =>
        let simple (b : UInt8) := stringFrom (acc.push b) (i + 2)
        if e == 34 then simple 34
        else if e == 92 then simple 92
        else if e == 47 then simple 47
        else if e == 98 then simple 8
        else if e == 102 then simple 12
        else if e == 110 then simple 10
        else if e == 114 then simple 13
        else if e == 116 then simple 9
        else if e == 117 then
          match r.unicodeEscape acc (i + 2) with
          | .ok (acc', j) =>
            if i < j then stringFrom acc' j else .error (r.fault .eofString j)
          | .error err => .error err
        else .error (r.fault .invalidEscape (i + 2))
    else if c < 32 then .error (r.fault .controlCharacter (i + 1))
    else stringFrom (acc.push c) (i + 1)
  else .error (r.fault .eofString i)
termination_by r.bytes.size - i
decreasing_by all_goals omega

/-- Reads a string from `i` (after the opening quote). -/
def string (i : Nat) : Step String :=
  match r.stringFrom ByteArray.empty i with
  | .ok (bs, j) => .ok ((String.fromUTF8? bs).getD "", j)
  | .error e => .error e

/-- The nesting allowed: 127 brackets. -/
def depthLimit : Nat := 128

mutual

/-- Reads a value from `i`, with `fuel` bounding the steps and `depth` the brackets still
allowed. -/
def value (fuel depth : Nat) (i : Nat) : Step Json :=
  match fuel with
  | 0 => .error (r.fault .recursionLimit i)
  | fuel + 1 =>
    let i := r.skipBlanks i
    match r.at? i with
    | none => .error (r.peekFault .eofValue i)
    | some c =>
      if c == 110 then (r.ident [117, 108, 108] (i + 1)).map (fun (_, j) => (.null, j))
      else if c == 116 then (r.ident [114, 117, 101] (i + 1)).map (fun (_, j) => (.bool true, j))
      else if c == 102 then
        (r.ident [97, 108, 115, 101] (i + 1)).map (fun (_, j) => (.bool false, j))
      else if c == 45 then (r.number false (i + 1)).map (fun (n, j) => (.num n, j))
      else if isDigit c then (r.number true i).map (fun (n, j) => (.num n, j))
      else if c == 34 then (r.string (i + 1)).map (fun (s, j) => (.str s, j))
      else if c == 91 then
        if depth ≤ 1 then .error (r.peekFault .recursionLimit i)
        else (elements fuel (depth - 1) true [] (i + 1)).map (fun (xs, j) => (.arr xs, j))
      else if c == 123 then
        if depth ≤ 1 then .error (r.peekFault .recursionLimit i)
        else (members fuel (depth - 1) true [] (i + 1)).map (fun (fs, j) => (.obj fs, j))
      else .error (r.peekFault .expectedValue i)

/-- Reads array elements from `i` up to and past the closing bracket. -/
def elements (fuel depth : Nat) (first : Bool) (acc : List Json) (i : Nat) : Step (List Json) :=
  match fuel with
  | 0 => .error (r.fault .recursionLimit i)
  | fuel + 1 =>
    let i := r.skipBlanks i
    match r.at? i with
    | none => .error (r.peekFault .eofList i)
    | some c =>
      if c == 93 then .ok (acc.reverse, i + 1)
      else if first then
        match value fuel depth i with
        | .ok (v, j) => elements fuel depth false (v :: acc) j
        | .error e => .error e
      else if c == 44 then
        let k := r.skipBlanks (i + 1)
        match r.at? k with
        | some 93 => .error (r.peekFault .trailingComma k)
        | none => .error (r.peekFault .eofValue k)
        | some _ =>
          match value fuel depth k with
          | .ok (v, j) => elements fuel depth false (v :: acc) j
          | .error e => .error e
      else .error (r.peekFault .expectedListCommaOrEnd i)

/-- Reads object members from `i` up to and past the closing brace. -/
def members (fuel depth : Nat) (first : Bool) (acc : Fields) (i : Nat) : Step Fields :=
  match fuel with
  | 0 => .error (r.fault .recursionLimit i)
  | fuel + 1 =>
    let i := r.skipBlanks i
    match r.at? i with
    | none => .error (r.peekFault .eofObject i)
    | some c =>
      if c == 125 then .ok (acc, i + 1)
      else if first then
        if c == 34 then member fuel depth acc (i + 1)
        else .error (r.peekFault .keyMustBeString i)
      else if c == 44 then
        let k := r.skipBlanks (i + 1)
        match r.at? k with
        | some 34 => member fuel depth acc (k + 1)
        | some 125 => .error (r.peekFault .trailingComma k)
        | none => .error (r.peekFault .eofValue k)
        | some _ => .error (r.peekFault .keyMustBeString k)
      else .error (r.peekFault .expectedObjectCommaOrEnd i)

/-- Reads one member from `i` (after its key's opening quote), then the members after it. -/
def member (fuel depth : Nat) (acc : Fields) (i : Nat) : Step Fields :=
  match fuel with
  | 0 => .error (r.fault .recursionLimit i)
  | fuel + 1 =>
    match r.string i with
    | .error e => .error e
    | .ok (key, j) =>
      let j := r.skipBlanks j
      match r.at? j with
      | none => .error (r.peekFault .eofObject j)
      | some c =>
        if c != 58 then .error (r.peekFault .expectedColon j)
        else
          match value fuel depth (j + 1) with
          | .ok (v, k) => members fuel depth false (Fields.insert key v acc) k
          | .error e => .error e

end

/-- Enough steps to read the whole text. -/
def fuel : Nat := 3 * r.bytes.size + 3

end Reader

/-- Reads one JSON value, with only blanks after it. -/
def parse (text : String) : Except SyntaxError Json :=
  let r : Reader := ⟨text.toUTF8⟩
  match r.value r.fuel Reader.depthLimit 0 with
  | .error e => .error e
  | .ok (v, j) =>
    let k := r.skipBlanks j
    if k < r.bytes.size then .error (r.peekFault .trailingCharacters k) else .ok v

end ChangeRelay.Json
