import ChangeRelay.Sql.Syntax

/-!
# Evaluating SQL expressions

An expression is evaluated over the rows in scope (`Env`): the row of the table a statement
works on, and in a trigger the rows `NEW` and `OLD`; an upsert adds `excluded`. A name is looked
up by qualifier when it has one, else in the first row that has such a column (never in `NEW`,
`OLD` or `excluded`). A double-quoted name that names no column is a string.

Operators follow SQLite: `NULL` makes comparisons and arithmetic `NULL`; `AND` and `OR` are
three-valued; comparisons convert their operands by affinity and compare text by collation;
integer arithmetic that leaves 64 bits turns into double arithmetic; division by zero is `NULL`.
`RAISE` in a trigger stops the statement (`Signal`): `IGNORE` skips the row, the others fail
with the message given.
-/

namespace ChangeRelay.Sql

/-- Why a statement stopped. -/
inductive Signal where
  /-- A fault: the extended result code and message, and whether the changes the statement made
  before it stay (as for `FAIL`) or are undone (as for `ABORT`). -/
  | fault (code : Nat) (message : String) (keep : Bool := false)
  /-- `RAISE(IGNORE)`: the row is skipped. -/
  | ignore
  deriving Inhabited

/-- The columns of one row in scope. -/
structure Scope where
  /-- The table name or alias, or `new`, `old` or `excluded`, in lower case. -/
  qualifier : String
  columns : List (String × Affinity × Collation)
  values : List Value
  rowid : Option Int := none
  deriving Inhabited

/-- What an expression is evaluated over. -/
structure Env where
  scopes : List Scope := []
  params : List Value := []
  /-- Whether the expression is part of a trigger, where `RAISE` may be used. -/
  inTrigger : Bool := false
  deriving Inhabited

/-- The qualifiers of rows an unqualified name never refers to. -/
def hiddenQualifiers : List String := ["new", "old", "excluded"]

/-- A column of a scope by name, with its affinity and collation. -/
def Scope.find (sc : Scope) (n : String) : Option (Value × Affinity × Collation) :=
  let ln := n.toLower
  match (sc.columns.zip sc.values).find? (fun ((c, _), _) => c.toLower == ln) with
  | some ((_, a, c), v) => some (v, a, c)
  | none =>
    if ln == "rowid" || ln == "oid" || ln == "_rowid_" then
      sc.rowid.map fun r => (.integer r, .integer, .binary)
    else none

/-- A column in scope. -/
def Env.lookup (env : Env) (q : Option String) (n : String) : Option (Value × Affinity × Collation) :=
  match q with
  | some q => (env.scopes.find? (·.qualifier == q.toLower)).bind (·.find n)
  | none => (env.scopes.filter (fun s => !hiddenQualifiers.contains s.qualifier)).findSome? (·.find n)

/-- The fault of a name that is no column. -/
def noSuchColumn (q : Option String) (n : String) : Signal :=
  .fault 1 ("no such column: " ++ (match q with
    | some q => q ++ "." ++ n
    | none => n))

/-- The affinity an expression brings to a comparison. -/
def exprAffinity (env : Env) : Expr → Affinity
  | .column q n => ((env.lookup q n).map (·.2.1)).getD .blob
  | .quoted n => ((env.lookup none n).map (·.2.1)).getD .blob
  | .cast _ t => affinityOfType t
  | .collate e _ => exprAffinity env e
  | _ => .blob

/-- A collation written with `COLLATE` on an expression. -/
def explicitCollation : Expr → Option Collation
  | .collate _ n => collationOf n
  | _ => none

/-- The collation of a column expression. -/
def columnCollation (env : Env) : Expr → Option Collation
  | .column q n => (env.lookup q n).map (·.2.2)
  | .quoted n => (env.lookup none n).map (·.2.2)
  | _ => none

/-- The collation a comparison of `a` and `b` uses. -/
def binaryCollation (env : Env) (a b : Expr) : Collation :=
  (explicitCollation a).or (explicitCollation b) |>.or (columnCollation env a)
    |>.or (columnCollation env b) |>.getD .binary

/-- A truth value as a value: 1, 0 or `NULL`. -/
def ofTruth : Option Bool → Value
  | some true => .integer 1
  | some false => .integer 0
  | none => .null

/-- An integer result, or its double when it leaves 64 bits. -/
def intResult (i : Int) : Value :=
  if fitsInteger i then .integer i else .real (Decimal.intToFloat i)

/-- A value as a double. -/
def Value.toReal (v : Value) : Float :=
  match v.toNumber with
  | .integer i => Decimal.intToFloat i
  | .real x => x
  | _ => 0

/-- A value as an integer: doubles truncated toward zero, saturated at the 64-bit ends. -/
def Value.toInteger (v : Value) : Int :=
  match v.toNumber with
  | .integer i => i
  | .real x =>
    if x.isNaN then 0
    else if x ≥ 9.223372036854775807e18 then maxInteger
    else if x ≤ -9.223372036854775808e18 then minInteger
    else if x < 0 then -((-x).toUInt64.toNat : Int) else (x.toUInt64.toNat : Int)
  | _ => 0

/-- An integer as 64 bits. -/
def toBits (i : Int) : Nat := (i % Int.pow 2 64).toNat

/-- 64 bits as an integer. -/
def ofBits (n : Nat) : Int := if n ≥ Nat.pow 2 63 then (n : Int) - Int.pow 2 64 else n

/-- The arithmetic and bit operators. -/
def arith (op : BinOp) (a b : Value) : Value :=
  let x := a.toNumber
  let y := b.toNumber
  if x.isNull || y.isNull then .null
  else match op with
    | .bitAnd => .integer (ofBits (Nat.land (toBits x.toInteger) (toBits y.toInteger)))
    | .bitOr => .integer (ofBits (Nat.lor (toBits x.toInteger) (toBits y.toInteger)))
    | .shl | .shr =>
      let n := y.toInteger
      let left := if op == .shl then n ≥ 0 else n < 0
      let k := n.natAbs
      let v := x.toInteger
      if left then .integer (if k ≥ 64 then 0 else ofBits (toBits v * Nat.pow 2 k % Nat.pow 2 64))
      else .integer (if k ≥ 64 then (if v < 0 then -1 else 0) else v / Int.pow 2 k)
    | .mod =>
      let d := y.toInteger
      if d == 0 then .null else .integer (x.toInteger.tmod d)
    | _ =>
      match x, y with
      | .integer i, .integer j =>
        match op with
        | .add => intResult (i + j)
        | .sub => intResult (i - j)
        | .mul => intResult (i * j)
        | .div => if j == 0 then .null else intResult (i.tdiv j)
        | _ => .null
      | _, _ =>
        let p := x.toReal
        let q := y.toReal
        match op with
        | .add => .real (p + q)
        | .sub => .real (p - q)
        | .mul => .real (p * q)
        | .div => if q == 0 then .null else .real (p / q)
        | _ => .null

/-- A unary operator. -/
def unaryOp (op : UnaryOp) (v : Value) : Value :=
  match op with
  | .not => ofTruth ((v.truth).map (!·))
  | .plus => v
  | .neg =>
    match v.toNumber with
    | .integer i => intResult (-i)
    | .real x => .real (-x)
    | _ => .null
  | .bitNot =>
    match v.toNumber with
    | .null => .null
    | w => .integer (-w.toInteger - 1)

/-- A value cast to a declared type. -/
def castTo (type : String) (v : Value) : Value :=
  match v with
  | .null => .null
  | _ =>
    match affinityOfType type with
    | .text => .text (v.asText.getD "")
    | .blob =>
      match v with
      | .blob _ => v
      | _ => .blob (v.asText.getD "").toUTF8.toList
    | .integer => .integer v.toInteger
    | .real => .real v.toReal
    | .numeric =>
      match v with
      | .text s =>
        match numberOfText s with
        | some n => n.numerify
        | none => v.toNumber.numerify
      | _ => v.toNumber.numerify

/-- `LIKE`: `%` any run, `_` any character, letters of ASCII without case, `esc` quoting the next
pattern character. -/
def likeMatch (esc : Option Char) : List Char → List Char → Nat → Bool
  | _, _, 0 => false
  | [], txt, _ => txt.isEmpty
  | p :: ps, txt, fuel + 1 =>
    if some p == esc then
      match ps, txt with
      | q :: qs, t :: ts => q.toLower == t.toLower && likeMatch esc qs ts fuel
      | _, _ => false
    else if p == '%' then (List.range (txt.length + 1)).any fun k => likeMatch esc ps (txt.drop k) fuel
    else if p == '_' then
      match txt with
      | _ :: ts => likeMatch esc ps ts fuel
      | [] => false
    else
      match txt with
      | t :: ts => p.toLower == t.toLower && likeMatch esc ps ts fuel
      | [] => false

/-- A `GLOB` character class `[...]` at the head of `ps` (after the `[`): whether `c` is in it,
and the pattern after it. -/
def globClass (ps : List Char) (c : Char) : Option (Bool × List Char) :=
  let (negated, body) := match ps with
    | '^' :: rest => (true, rest)
    | rest => (false, rest)
  let (first, body) := match body with
    | ']' :: rest => ([']'], rest)
    | rest => ([], rest)
  match body.findIdx? (· == ']') with
  | none => none
  | some i =>
    let members := first ++ body.take i
    let rest := body.drop (i + 1)
    let rec inClass : List Char → Bool
      | a :: '-' :: b :: more => (a ≤ c && c ≤ b) || inClass more
      | a :: more => a == c || inClass more
      | [] => false
    some (inClass members != negated, rest)

/-- `GLOB`: `*` any run, `?` any character, classes in brackets, case kept. -/
def globMatch : List Char → List Char → Nat → Bool
  | _, _, 0 => false
  | [], txt, _ => txt.isEmpty
  | p :: ps, txt, fuel + 1 =>
    if p == '*' then (List.range (txt.length + 1)).any fun k => globMatch ps (txt.drop k) fuel
    else if p == '?' then
      match txt with
      | _ :: ts => globMatch ps ts fuel
      | [] => false
    else if p == '[' then
      match txt with
      | t :: ts =>
        match globClass ps t with
        | some (true, rest) => globMatch rest ts fuel
        | _ => false
      | [] => false
    else
      match txt with
      | t :: ts => p == t && globMatch ps ts fuel
      | [] => false

/-- Whether `txt` matches `pat` by `LIKE` (or `GLOB`). -/
def patternMatch (glob : Bool) (pat txt : String) (esc : Option Char) : Bool :=
  let p := pat.toList
  let t := txt.toList
  let fuel := (p.length + 1) * (t.length + 2) + 1
  if glob then globMatch p t fuel else likeMatch esc p t fuel

/-- The characters of a value's text. -/
def Value.chars (v : Value) : List Char := (v.asText.getD "").toList

/-- `substr(x, start, length)` over a list of characters or bytes. -/
def substrOf (xs : List α) (start : Int) (len : Option Int) : List α :=
  let n : Int := xs.length
  let (p2, neg) := match len with
    | some l => if l < 0 then (-l, true) else (l, false)
    | none => (n + 1, false)
  let (p1, p2) :=
    if start < 0 then
      let p1 := start + n
      if p1 < 0 then (0, max 0 (p2 + p1)) else (p1, p2)
    else if start > 0 then (start - 1, p2)
    else if p2 > 0 then (0, p2 - 1) else (0, p2)
  let (p1, p2) := if neg then
      let q := p1 - p2
      if q < 0 then (0, p2 + q) else (q, p2)
    else (p1, p2)
  (xs.drop p1.toNat).take p2.toNat

/-- Text without the characters of `set` at the chosen ends. -/
def trimChars (s : String) (set : List Char) (left right : Bool) : String :=
  let cs := s.toList
  let cs := if left then cs.dropWhile set.contains else cs
  let cs := if right then (cs.reverse.dropWhile set.contains).reverse else cs
  String.ofList cs

/-- The hexadecimal digits of a byte. -/
def hexByte (b : UInt8) : String :=
  let digit (n : Nat) : Char := if n < 10 then Char.ofNat (48 + n) else Char.ofNat (55 + n)
  String.ofList [digit (b.toNat / 16), digit (b.toNat % 16)]

/-- A value written as an SQL literal. -/
def quoteValue : Value → String
  | .null => "NULL"
  | .integer i => toString i
  | .real x => Value.realText x
  | .text s => "'" ++ String.intercalate "''" (s.splitOn "'") ++ "'"
  | .blob b => "X'" ++ String.join (b.map hexByte) ++ "'"

/-- The fault of a call with the wrong number of arguments. -/
def wrongArgs (name : String) : Signal :=
  .fault 1 ("wrong number of arguments to function " ++ name ++ "()")

/-- Text replaced: every `from` in `s` by `to`. -/
def replaceAll (s pat rep : String) : String :=
  if pat.isEmpty then s else String.intercalate rep (s.splitOn pat)

/-- The 1-based place of `needle` in `hay`, 0 if absent. -/
def instrOf (hay needle : List Char) : Nat :=
  match (List.range (hay.length + 1)).find? (fun k => (hay.drop k).take needle.length == needle) with
  | some k => if k + needle.length ≤ hay.length then k + 1 else 0
  | none => 0

/-- The largest (or least) of values by comparison. -/
def extreme (largest : Bool) : List Value → Value
  | [] => .null
  | v :: vs => vs.foldl (fun acc w =>
      let c := Value.compareWith .binary w acc
      if (largest && c == .gt) || (!largest && c == .lt) then w else acc) v

/-- A function of the database by name, on evaluated arguments. -/
def callFunction (name : String) (args : List Value) : Except Signal Value :=
  let n := name.toLower
  let arity (k : Nat) : Except Signal Unit := if args.length == k then pure () else throw (wrongArgs name)
  let arg (i : Nat) : Value := args.getD i .null
  match n with
  | "length" | "octet_length" => do
    arity 1
    match arg 0 with
    | .null => pure .null
    | .blob b => pure (.integer b.length)
    | v => pure (.integer (if n == "length" then v.chars.length else (v.asText.getD "").utf8ByteSize))
  | "upper" | "lower" => do
    arity 1
    match arg 0 with
    | .null => pure .null
    | v =>
      let f : Char → Char := if n == "upper" then Char.toUpper else Char.toLower
      pure (.text (String.ofList (v.chars.map f)))
  | "substr" | "substring" => do
    if args.length != 2 && args.length != 3 then throw (wrongArgs name)
    match arg 0, arg 1 with
    | .null, _ | _, .null => pure .null
    | v, s =>
      let len := if args.length == 3 then some (arg 2).toInteger else none
      if args.length == 3 && (arg 2).isNull then pure .null
      else match v with
        | .blob b => pure (.blob (substrOf b s.toInteger len))
        | _ => pure (.text (String.ofList (substrOf v.chars s.toInteger len)))
  | "trim" | "ltrim" | "rtrim" => do
    if args.length != 1 && args.length != 2 then throw (wrongArgs name)
    match arg 0 with
    | .null => pure .null
    | v =>
      if args.length == 2 && (arg 1).isNull then pure .null
      else
        let set := if args.length == 2 then (arg 1).chars else [' ']
        pure (.text (trimChars (v.asText.getD "") set (n != "rtrim") (n != "ltrim")))
  | "replace" => do
    arity 3
    if (arg 0).isNull || (arg 1).isNull || (arg 2).isNull then pure .null
    else pure (.text (replaceAll ((arg 0).asText.getD "") ((arg 1).asText.getD "") ((arg 2).asText.getD "")))
  | "instr" => do
    arity 2
    if (arg 0).isNull || (arg 1).isNull then pure .null
    else pure (.integer (instrOf (arg 0).chars (arg 1).chars))
  | "coalesce" => do
    if args.length < 2 then throw (wrongArgs name)
    pure ((args.find? (!·.isNull)).getD .null)
  | "ifnull" => do
    arity 2
    pure ((args.find? (!·.isNull)).getD .null)
  | "nullif" => do
    arity 2
    pure (if Value.compareWith .binary (arg 0) (arg 1) == .eq && !(arg 0).isNull then .null else arg 0)
  | "iif" | "if" => do
    arity 3
    pure (if (arg 0).truth == some true then arg 1 else arg 2)
  | "typeof" => do arity 1; pure (.text (arg 0).typeName)
  | "abs" => do
    arity 1
    match (arg 0).toNumber with
    | .integer i => if i == minInteger then throw (.fault 1 "integer overflow") else pure (.integer i.natAbs)
    | .real x => pure (.real x.abs)
    | _ => pure .null
  | "sign" => do
    arity 1
    match (arg 0) with
    | .null => pure .null
    | v =>
      let x := v.toReal
      pure (.integer (if x > 0 then 1 else if x < 0 then -1 else 0))
  | "hex" => do
    arity 1
    match arg 0 with
    | .blob b => pure (.text (String.join (b.map hexByte)))
    | v => pure (.text (String.join ((v.asText.getD "").toUTF8.toList.map hexByte)))
  | "quote" => do arity 1; pure (.text (quoteValue (arg 0)))
  | "unicode" => do
    arity 1
    match (arg 0).chars with
    | c :: _ => pure (.integer c.toNat)
    | [] => pure .null
  | "char" => pure (.text (String.ofList (args.map fun v => Char.ofNat v.toInteger.toNat)))
  | "max" | "min" => do
    if args.isEmpty then throw (wrongArgs name)
    if args.length == 1 then throw (.fault 1 ("misuse of aggregate function " ++ name ++ "()"))
    if args.any (·.isNull) then pure .null else pure (extreme (n == "max") args)
  | "concat" => pure (.text (String.join (args.filterMap Value.asText)))
  | "concat_ws" => do
    if args.length < 2 then throw (wrongArgs name)
    match arg 0 with
    | .null => pure .null
    | sep => pure (.text (String.intercalate (sep.asText.getD "") ((args.drop 1).filterMap Value.asText)))
  | "like" | "glob" => do
    if args.length != 2 && args.length != 3 then throw (wrongArgs name)
    if (arg 0).isNull || (arg 1).isNull then pure .null
    else
      let esc := if args.length == 3 then (arg 2).chars.head? else none
      pure (ofTruth (some (patternMatch (n == "glob") ((arg 0).asText.getD "") ((arg 1).asText.getD "") esc)))
  | "zeroblob" => do arity 1; pure (.blob (List.replicate (arg 0).toInteger.toNat 0))
  | "round" => do
    if args.length != 1 && args.length != 2 then throw (wrongArgs name)
    match (arg 0) with
    | .null => pure .null
    | v =>
      let digits := if args.length == 2 then (arg 1).toInteger.toNat else 0
      let x := v.toReal
      let scale := Decimal.tenFloat digits
      let r := (x * scale).round / scale
      pure (.real r)
  | "changes" | "total_changes" | "last_insert_rowid" => do arity 0; pure (.integer 0)
  | "count" | "sum" | "total" | "avg" | "group_concat" =>
    throw (.fault 1 ("misuse of aggregate function " ++ name ++ "()"))
  | _ => throw (.fault 1 ("no such function: " ++ name))

/-- Compares two evaluated operands of a comparison operator. -/
def compareValues (env : Env) (op : BinOp) (a b : Expr) (va vb : Value) : Value :=
  let (x, y) := comparisonOperands va (exprAffinity env a) vb (exprAffinity env b)
  let c := Value.compareWith (binaryCollation env a b) x y
  match op with
  | .is => ofTruth (some (if va.isNull || vb.isNull then va.isNull && vb.isNull else c == .eq))
  | .isNot => ofTruth (some (if va.isNull || vb.isNull then !(va.isNull && vb.isNull) else c != .eq))
  | _ =>
    if va.isNull || vb.isNull then .null
    else ofTruth (some (match op with
      | .eq => c == .eq
      | .ne => c != .eq
      | .lt => c == .lt
      | .le => c != .gt
      | .gt => c == .gt
      | .ge => c != .lt
      | _ => false))

/-- Whether an operator compares. -/
def BinOp.compares (op : BinOp) : Bool :=
  op == .eq || op == .ne || op == .lt || op == .le || op == .gt || op == .ge || op == .is ||
    op == .isNot

mutual

/-- The value of an expression. -/
def eval (env : Env) : Expr → Except Signal Value
  | .lit v => pure v
  | .param i => pure (env.params.getD i .null)
  | .column q n =>
    match env.lookup q n with
    | some (v, _, _) => pure v
    | none => throw (noSuchColumn q n)
  | .quoted n =>
    match env.lookup none n with
    | some (v, _, _) => pure v
    | none => pure (.text n)
  | .unary op e => do pure (unaryOp op (← eval env e))
  | .binary .and a b => do
    let x := (← eval env a).truth
    if x == some false then return .integer 0
    let y := (← eval env b).truth
    pure (match x, y with
      | _, some false => .integer 0
      | some true, some true => .integer 1
      | _, _ => .null)
  | .binary .or a b => do
    let x := (← eval env a).truth
    if x == some true then return .integer 1
    let y := (← eval env b).truth
    pure (match x, y with
      | _, some true => .integer 1
      | some false, some false => .integer 0
      | _, _ => .null)
  | .binary .concat a b => do
    let x ← eval env a
    let y ← eval env b
    match x.asText, y.asText with
    | some s, some t => pure (.text (s ++ t))
    | _, _ => pure .null
  | .binary op a b => do
    let x ← eval env a
    let y ← eval env b
    if op.compares then pure (compareValues env op a b x y) else pure (arith op x y)
  | .isNull e negated => do
    let v ← eval env e
    pure (ofTruth (some (v.isNull != negated)))
  | .like e pat esc glob negated => do
    let v ← eval env e
    let p ← eval env pat
    let escChar ← match esc with
      | some x => do pure ((← eval env x).chars.head?)
      | none => pure none
    if v.isNull || p.isNull then return .null
    let m := patternMatch glob (p.asText.getD "") (v.asText.getD "") escChar
    pure (ofTruth (some (m != negated)))
  | .inList e items negated => do
    let v ← eval env e
    let vs ← evalList env items
    if v.isNull then return (if items.isEmpty then ofTruth (some negated) else .null)
    let hits := (items.zip vs).map fun (x, w) =>
      if w.isNull then none else some ((compareValues env .eq e x v w).truth == some true)
    if hits.any (· == some true) then pure (ofTruth (some !negated))
    else if hits.any (· == none) then pure .null
    else pure (ofTruth (some negated))
  | .between e low high negated => do
    let v ← eval env e
    let lo ← eval env low
    let hi ← eval env high
    let a := (compareValues env .ge e low v lo).truth
    let b := (compareValues env .le e high v hi).truth
    let r := match a, b with
      | some false, _ | _, some false => some false
      | some true, some true => some true
      | _, _ => none
    pure (ofTruth (if negated then r.map (!·) else r))
  | .call name args => do callFunction name (← evalList env args)
  | .cast e t => do pure (castTo t (← eval env e))
  | .collate e _ => eval env e
  | .caseWhen operand arms otherwise => do
    match operand with
    | some o => do
      let v ← eval env o
      evalArms env (some (o, v)) arms otherwise
    | none => evalArms env none arms otherwise
  | .raise action message =>
    if !env.inTrigger then throw (.fault 1 "RAISE() may only be used within a trigger-program")
    else match action with
      | .ignore => throw .ignore
      | .fail => throw (.fault 1811 message true)
      | _ => throw (.fault 1811 message)
termination_by e => sizeOf e

/-- The values of a list of expressions. -/
def evalList (env : Env) : List Expr → Except Signal (List Value)
  | [] => pure []
  | e :: es => do
    let v ← eval env e
    pure (v :: (← evalList env es))
termination_by es => sizeOf es

/-- The value of `CASE` arms: the first arm whose condition holds (or equals the operand). -/
def evalArms (env : Env) (operand : Option (Expr × Value)) :
    List (Expr × Expr) → Option Expr → Except Signal Value
  | [], otherwise =>
    match otherwise with
    | some e => eval env e
    | none => pure .null
  | (c, r) :: rest, otherwise => do
    let w ← eval env c
    let hit := match operand with
      | some (o, v) => (compareValues env .eq o c v w).truth == some true
      | none => w.truth == some true
    if hit then eval env r else evalArms env operand rest otherwise
termination_by arms otherwise => sizeOf arms + sizeOf otherwise

end

end ChangeRelay.Sql
