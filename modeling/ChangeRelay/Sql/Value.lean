import ChangeRelay.Decimal.Parse
import ChangeRelay.Decimal.Shortest
import ChangeRelay.Text.Integer

/-!
# SQL values, affinities and collations

A value is of one storage class: `NULL`, a 64-bit integer, a double, text or a blob. A column's
declared type gives it an affinity, which decides how a value is stored in it: a column of
numeric affinity stores text that reads as a number as that number (an integer when it is one),
a text column stores numbers as their text. Comparisons order the classes as null, numbers
(integers and doubles by value), text (by collation), blobs (bytewise); before comparing, an
operand of numeric affinity makes the other numeric, and one of text affinity makes an operand
without affinity text.

Text used as a number reads its longest numeric prefix (`Value.toNumber`); a value is true when
that number is not zero.
-/

namespace ChangeRelay.Sql

/-- A value of the database. -/
inductive Value where
  | null
  | integer (i : Int)
  | real (x : Float)
  | text (s : String)
  | blob (bytes : List UInt8)
  deriving Inhabited

/-- How a column converts values stored in it. -/
inductive Affinity where
  | text
  | numeric
  | integer
  | real
  /-- No conversion: columns declared `BLOB` or without a type, and expressions. -/
  | blob
  deriving DecidableEq, Inhabited, Repr

/-- How text is compared. -/
inductive Collation where
  /-- Byte by byte. -/
  | binary
  /-- ASCII letters without case. -/
  | nocase
  /-- Trailing spaces ignored. -/
  | rtrim
  deriving DecidableEq, Inhabited, Repr

/-- The affinity of a declared type, by the words it contains. -/
def affinityOfType (declared : String) : Affinity :=
  let t := declared.toUpper
  let has (w : String) := (t.splitOn w).length > 1
  if has "INT" then .integer
  else if has "CHAR" || has "CLOB" || has "TEXT" then .text
  else if has "BLOB" || t.trimAscii.isEmpty then .blob
  else if has "REAL" || has "FLOA" || has "DOUB" then .real
  else .numeric

/-- A collation by name. -/
def collationOf (name : String) : Option Collation :=
  match name.toUpper with
  | "BINARY" => some .binary
  | "NOCASE" => some .nocase
  | "RTRIM" => some .rtrim
  | _ => none

/-- The least and greatest 64-bit integers. -/
def minInteger : Int := -Int.pow 2 63

/-- The greatest 64-bit integer. -/
def maxInteger : Int := Int.pow 2 63 - 1

/-- Whether an integer fits in 64 bits. -/
def fitsInteger (i : Int) : Bool := minInteger ≤ i && i ≤ maxInteger

/-- The integer a double equals exactly, when it is one that fits. -/
def exactInteger (x : Float) : Option Int :=
  if x.isNaN || x.isInf then none
  else
    let f := x.floor
    if f != x || x < -9.223372036854775808e18 || x ≥ 9.223372036854775808e18 then none
    else
      let i : Int := if x < 0 then -((-x).toUInt64.toNat : Int) else (x.toUInt64.toNat : Int)
      some i

/-- Whether a character is SQL white space. -/
def isSpace (c : Char) : Bool := c == ' ' || c == '\t' || c == '\n' || c == '\r' || c == '\x0c'

/-- The text without white space at either end. -/
def trimSpace (s : String) : String :=
  String.ofList ((s.toList.dropWhile isSpace).reverse.dropWhile isSpace).reverse

/-- A decimal integer: an optional sign and digits. -/
def integerLiteral (s : String) : Option Int := Text.signedOfText 10 s

/-- The length of the longest prefix of `cs` that reads as a decimal number, and whether it
holds a point or an exponent. -/
def numericPrefix (cs : List Char) : Nat × Bool :=
  let sign := match cs with
    | '+' :: _ | '-' :: _ => 1
    | _ => 0
  let rest := cs.drop sign
  let whole := (rest.takeWhile Char.isDigit).length
  let afterWhole := rest.drop whole
  let (frac, hasPoint) := match afterWhole with
    | '.' :: more => ((more.takeWhile Char.isDigit).length, true)
    | _ => (0, false)
  if whole + frac == 0 then (0, false)
  else
    let mantissa := sign + whole + (if hasPoint then 1 + frac else 0)
    let afterMantissa := cs.drop mantissa
    let expLen := match afterMantissa with
      | e :: more =>
        if e == 'e' || e == 'E' then
          let s := match more with
            | '+' :: _ | '-' :: _ => 1
            | _ => 0
          let ds := ((more.drop s).takeWhile Char.isDigit).length
          if ds == 0 then 0 else 1 + s + ds
        else 0
      | [] => 0
    (mantissa + expLen, hasPoint || expLen > 0)

/-- The number a whole text reads as, white space around it allowed: an integer when it is an
integer literal that fits, else a double. -/
def numberOfText (s : String) : Option Value :=
  let t := trimSpace s
  let cs := t.toList
  let (n, isReal) := numericPrefix cs
  if n == 0 || n != cs.length then none
  else if !isReal then
    match integerLiteral t with
    | some i => if fitsInteger i then some (.integer i) else (Decimal.readFloat t).map .real
    | none => none
  else (Decimal.readFloat t).map .real

namespace Value

/-- The name of the value's storage class. -/
def className : Value → String
  | .null => "NULL"
  | .integer _ => "INTEGER"
  | .real _ => "REAL"
  | .text _ => "TEXT"
  | .blob _ => "BLOB"

/-- The name `typeof` gives. -/
def typeName (v : Value) : String := v.className.toLower

/-- The digits of a double with fifteen significant digits, and its decimal exponent. -/
def realDigits (x : Float) : String × Int :=
  match Decimal.ofBits x.toBits with
  | some (_, some b) =>
    let (num, den) := Decimal.binaryFraction b.mantissa b.exponent
    let exp10 := Decimal.decimalExponent b.mantissa b.exponent
    let shift : Int := 14 - exp10
    let (n, d) :=
      if 0 ≤ shift then (num * Nat.pow 10 shift.toNat, den)
      else (num, den * Nat.pow 10 (-shift).toNat)
    let q := n / d
    let r := n % d
    let q := if 2 * r ≥ d then q + 1 else q
    if q ≥ Nat.pow 10 15 then (toString (q / 10), exp10 + 1) else (toString q, exp10)
  | _ => ("0", 0)

/-- A double as text: fifteen significant digits, at least one after the point. -/
def realText (x : Float) : String :=
  if x.isNaN then "NaN"
  else if x.isInf then (if x < 0 then "-Inf" else "Inf")
  else
    let sign := if x < 0 then "-" else ""
    let (digits, exp) := realDigits (if x < 0 then -x else x)
    let ds := (digits.toList.reverse.dropWhile (· == '0')).reverse
    let ds := if ds.isEmpty then ['0'] else ds
    if digits == "0" then sign ++ "0.0"
    else if exp < -4 || exp ≥ 15 then
      let mant := match ds with
        | [d] => String.ofList [d, '.', '0']
        | d :: more => String.ofList (d :: '.' :: more)
        | [] => "0.0"
      let e := if exp < 0 then "-" else "+"
      let a := exp.natAbs
      sign ++ mant ++ "e" ++ e ++ (if a < 10 then "0" else "") ++ toString a
    else if exp < 0 then
      sign ++ "0." ++ String.ofList (List.replicate ((-exp).toNat - 1) '0') ++ String.ofList ds
    else
      let whole := exp.toNat + 1
      let intPart := (ds.take whole) ++ List.replicate (whole - min whole ds.length) '0'
      let fracPart := ds.drop whole
      sign ++ String.ofList intPart ++ "." ++ (if fracPart.isEmpty then "0" else String.ofList fracPart)

/-- The value as text, as `CAST(v AS TEXT)` gives it; `NULL` has none. -/
def asText : Value → Option String
  | .null => none
  | .integer i => some (toString i)
  | .real x => some (realText x)
  | .text s => some s
  | .blob b => some (String.fromUTF8? (ByteArray.mk b.toArray) |>.getD "")

/-- The number a value reads as in arithmetic: text by its numeric prefix, zero when it has
none. -/
def toNumber : Value → Value
  | .null => .null
  | .integer i => .integer i
  | .real x => .real x
  | .text s =>
    let t := String.ofList (s.toList.dropWhile isSpace)
    let cs := t.toList
    let (n, isReal) := numericPrefix cs
    let p := String.ofList (cs.take n)
    if n == 0 then .integer 0
    else if !isReal then
      match integerLiteral p with
      | some i => if fitsInteger i then .integer i else .real ((Decimal.readFloat p).getD 0)
      | none => .integer 0
    else .real ((Decimal.readFloat p).getD 0)
  | .blob b => toNumber (.text (String.fromUTF8? (ByteArray.mk b.toArray) |>.getD ""))
termination_by v => match v with
  | .blob _ => 1
  | _ => 0

/-- Whether a value counts as true; `NULL` is neither. -/
def truth (v : Value) : Option Bool :=
  match v.toNumber with
  | .null => none
  | .integer i => some (i != 0)
  | .real x => some (x != 0)
  | _ => some false

/-- Text of numeric look stored by a column of numeric affinity. -/
def numerify (v : Value) : Value :=
  match v with
  | .text s =>
    match numberOfText s with
    | some (.real x) =>
      match exactInteger x with
      | some i => .integer i
      | none => .real x
    | some n => n
    | none => v
  | .real x =>
    match exactInteger x with
    | some i => .integer i
    | none => v
  | _ => v

/-- The value as a column of affinity `a` stores it. -/
def withAffinity (a : Affinity) (v : Value) : Value :=
  match a with
  | .blob => v
  | .text =>
    match v with
    | .integer _ | .real _ => .text (v.asText.getD "")
    | _ => v
  | .numeric | .integer => numerify v
  | .real =>
    match numerify v with
    | .integer i => .real (Decimal.intToFloat i)
    | w => w

/-- The rank of a storage class in comparisons. -/
def rank : Value → Nat
  | .null => 0
  | .integer _ | .real _ => 1
  | .text _ => 2
  | .blob _ => 3

/-- Compares two lists of bytes. -/
def compareBytes : List UInt8 → List UInt8 → Ordering
  | [], [] => .eq
  | [], _ => .lt
  | _, [] => .gt
  | a :: as, b :: bs => if a < b then .lt else if b < a then .gt else compareBytes as bs

/-- Text as a collation sees it. -/
def collated (c : Collation) (s : String) : List UInt8 :=
  let s := match c with
    | .binary => s
    | .nocase => String.ofList (s.toList.map Char.toLower)
    | .rtrim => String.ofList (s.toList.reverse.dropWhile (· == ' ')).reverse
  s.toUTF8.toList

/-- Compares two numbers. -/
def compareNumbers : Value → Value → Ordering
  | .integer a, .integer b => compare a b
  | .real a, .real b => if a < b then .lt else if b < a then .gt else .eq
  | .integer a, .real b =>
    let x := Decimal.intToFloat a
    if x < b then .lt else if b < x then .gt
    else match exactInteger b with
      | some j => compare a j
      | none => .eq
  | .real a, .integer b =>
    let y := Decimal.intToFloat b
    if a < y then .lt else if y < a then .gt
    else match exactInteger a with
      | some i => compare i b
      | none => .eq
  | _, _ => .eq

/-- Orders two values: null, numbers, text by collation `c`, blobs. -/
def compareWith (c : Collation) (a b : Value) : Ordering :=
  if a.rank != b.rank then compare a.rank b.rank
  else match a, b with
    | .text s, .text t => compareBytes (collated c s) (collated c t)
    | .blob x, .blob y => compareBytes x y
    | .null, .null => .eq
    | _, _ => compareNumbers a b

/-- Whether a value is `NULL`. -/
def isNull : Value → Bool
  | .null => true
  | _ => false

end Value

/-- Converts the operands of a comparison by their affinities. -/
def comparisonOperands (a : Value) (aa : Affinity) (b : Value) (ba : Affinity) : Value × Value :=
  let numericAff (x : Affinity) := x == .integer || x == .real || x == .numeric
  if numericAff aa && !numericAff ba then (a, b.withAffinity .numeric)
  else if numericAff ba && !numericAff aa then (a.withAffinity .numeric, b)
  else if aa == .text && ba == .blob then (a, b.withAffinity .text)
  else if ba == .text && aa == .blob then (a.withAffinity .text, b)
  else (a, b)

theorem compareBytes_refl (b : List UInt8) : Value.compareBytes b b = .eq := by
  induction b with
  | nil => rfl
  | cons x xs ih => simp [Value.compareBytes, ih]

end ChangeRelay.Sql
