import ChangeRelay.Sql.Lexer
import ChangeRelay.Sql.Syntax

/-!
# Parsing SQL scripts

A recursive descent over the tokens. Expressions are read by precedence, loosest first: `OR`,
`AND`, `NOT`, the equality family (`=`, `<>`, `IS`, `IN`, `LIKE`, `GLOB`, `BETWEEN`, `ISNULL`),
the orderings, the bit operators, `+ -`, `* / %`, `||`, and last the prefix operators and
`COLLATE`. Every function of the descent takes fuel that each call spends; a script gets more
than its tokens can use, so fuel never runs out on a script that parses.

A fault is worded `near "TOKEN": syntax error`, or says what the model does not support.
-/

namespace ChangeRelay.Sql

/-- The tokens of a script and its characters. -/
structure Source where
  toks : Array Lexeme
  chars : Array Char

/-- The parser's computations: the index of the current token over faults. -/
abbrev ParseM := ReaderT Source (StateT Nat (Except String))

namespace Parse

/-- The current token. -/
def cur : ParseM Lexeme := do
  let s ← read
  pure (s.toks.getD (← get) ⟨.eof, s.chars.size, s.chars.size⟩)

/-- The token after the current one. -/
def ahead : ParseM Tok := do
  let s ← read
  pure (s.toks.getD ((← get) + 1) ⟨.eof, 0, 0⟩).tok

/-- Moves past the current token. -/
def skip : ParseM Unit := modify (· + 1)

/-- The text of the current token, for messages. -/
def nearText : ParseM String := do
  let l ← cur
  let s ← read
  match l.tok with
  | .eof => pure ""
  | _ => pure (String.ofList (s.chars.extract l.start l.stop).toList)

/-- A syntax fault at the current token. -/
def syntaxFault : ParseM α := do
  match (← cur).tok with
  | .eof => throw "incomplete input"
  | _ => throw ("near \"" ++ (← nearText) ++ "\": syntax error")

/-- Whether the current token is the keyword `w`. -/
def atWord (w : String) : ParseM Bool := do pure ((← cur).tok.isWord w)

/-- Takes the keyword `w` if it is next. -/
def eatWord (w : String) : ParseM Bool := do
  if ← atWord w then skip; pure true else pure false

/-- Takes the keyword `w`, which must be next. -/
def expectWord (w : String) : ParseM Unit := do
  if ← eatWord w then pure () else syntaxFault

/-- Whether the current token is the punctuation `p`. -/
def atPunct (p : String) : ParseM Bool := do
  match (← cur).tok with
  | .punct q => pure (q == p)
  | _ => pure false

/-- Takes the punctuation `p` if it is next. -/
def eatPunct (p : String) : ParseM Bool := do
  if ← atPunct p then skip; pure true else pure false

/-- Takes the punctuation `p`, which must be next. -/
def expectPunct (p : String) : ParseM Unit := do
  if ← eatPunct p then pure () else syntaxFault

/-- A name: a word, a quoted name or a string. -/
def name : ParseM String := do
  match (← cur).tok with
  | .word s | .quotedName s | .str s => skip; pure s
  | _ => syntaxFault

/-- A name, after an optional schema: `main.t` is `t`. -/
def qualifiedName : ParseM String := do
  let n ← name
  if ← eatPunct "." then name else pure n

/-- The text of the script between two character positions, without white space around. -/
def textBetween (a b : Nat) : ParseM String := do
  let s ← read
  pure (trimSpace (String.ofList (s.chars.extract a b).toList))

/-- Where the current token starts. -/
def here : ParseM Nat := do pure (← cur).start

/-- Where the previous token stops. -/
def lastStop : ParseM Nat := do
  let s ← read
  let i ← get
  pure (if i = 0 then 0 else (s.toks.getD (i - 1) default).stop)

/-- The value of a numeric literal. -/
def numberValue (text : String) : Value :=
  let cs := text.toList
  match cs with
  | '0' :: x :: hex =>
    if x == 'x' || x == 'X' then
      match Text.unsignedOfText 16 (String.ofList hex) with
      | some n =>
        if n < Nat.pow 2 63 then .integer n
        else if n < Nat.pow 2 64 then .integer (n - Int.pow 2 64)
        else .real 0
      | none => .integer 0
    else if cs.any (fun c => c == '.' || c == 'e' || c == 'E') then .real ((Decimal.readFloat text).getD 0)
    else match Text.unsignedOfText 10 text with
      | some n => if n < Nat.pow 2 63 then .integer n else .real ((Decimal.readFloat text).getD 0)
      | none => .integer 0
  | _ =>
    if cs.any (fun c => c == '.' || c == 'e' || c == 'E') then .real ((Decimal.readFloat text).getD 0)
    else match Text.unsignedOfText 10 text with
      | some n => if n < Nat.pow 2 63 then .integer n else .real ((Decimal.readFloat text).getD 0)
      | none => .integer 0

/-- Keywords after `NOT` that make it part of the equality family. -/
def negatableWords : List String := ["IN", "LIKE", "GLOB", "BETWEEN", "NULL", "MATCH", "REGEXP"]

/-- A binary operator of punctuation at a precedence level. -/
def punctOp (p : String) : Option (Nat × BinOp) :=
  match p with
  | "=" | "==" => some (4, .eq)
  | "!=" | "<>" => some (4, .ne)
  | "<" => some (5, .lt)
  | "<=" => some (5, .le)
  | ">" => some (5, .gt)
  | ">=" => some (5, .ge)
  | "&" => some (6, .bitAnd)
  | "|" => some (6, .bitOr)
  | "<<" => some (6, .shl)
  | ">>" => some (6, .shr)
  | "+" => some (7, .add)
  | "-" => some (7, .sub)
  | "*" => some (8, .mul)
  | "/" => some (8, .div)
  | "%" => some (8, .mod)
  | "||" => some (9, .concat)
  | _ => none

/-- The action of `RAISE`. -/
def raiseAction (w : String) : Option RaiseAction :=
  match w.toUpper with
  | "IGNORE" => some .ignore
  | "ROLLBACK" => some .rollback
  | "ABORT" => some .abort
  | "FAIL" => some .fail
  | _ => none

mutual

/-- An expression. -/
def expr : Nat → ParseM Expr
  | 0 => throw "expression too deep"
  | f + 1 => level f 1

/-- An expression of operators at precedence `lvl` or tighter. -/
def level : Nat → Nat → ParseM Expr
  | 0, _ => throw "expression too deep"
  | f + 1, lvl => do
    let lhs ← negation f lvl
    climb f lvl lhs

/-- A prefix `NOT`, where the level allows it. -/
def negation : Nat → Nat → ParseM Expr
  | 0, _ => throw "expression too deep"
  | f + 1, lvl => do
    if lvl ≤ 3 && (← atWord "NOT") then
      skip
      let e ← level f 3
      pure (.unary .not e)
    else prefixed f

/-- A primary with prefix operators and trailing `COLLATE`s. -/
def prefixed : Nat → ParseM Expr
  | 0 => throw "expression too deep"
  | f + 1 => do
    if ← eatPunct "-" then return .unary .neg (← prefixed f)
    if ← eatPunct "+" then return .unary .plus (← prefixed f)
    if ← eatPunct "~" then return .unary .bitNot (← prefixed f)
    let p ← primary f
    collations f p

/-- Trailing `COLLATE name`s. -/
def collations : Nat → Expr → ParseM Expr
  | 0, e => pure e
  | f + 1, e => do
    if ← eatWord "COLLATE" then collations f (.collate e (← name)) else pure e

/-- Binary and postfix operators of precedence `lvl` or tighter after `lhs`. -/
def climb : Nat → Nat → Expr → ParseM Expr
  | 0, _, e => pure e
  | f + 1, lvl, lhs => do
    let t := (← cur).tok
    let nextTok ← ahead
    if t.isWord "OR" && lvl ≤ 1 then
      skip; climb f lvl (.binary .or lhs (← level f 2))
    else if t.isWord "AND" && lvl ≤ 2 then
      skip; climb f lvl (.binary .and lhs (← level f 3))
    else if lvl ≤ 4 && t.isWord "IS" then
      skip
      let negated ← eatWord "NOT"
      if ← eatWord "DISTINCT" then expectWord "FROM"
      let rhs ← level f 5
      climb f lvl (.binary (if negated then .isNot else .is) lhs rhs)
    else if lvl ≤ 4 && t.isWord "ISNULL" then
      skip; climb f lvl (.isNull lhs false)
    else if lvl ≤ 4 && t.isWord "NOTNULL" then
      skip; climb f lvl (.isNull lhs true)
    else if lvl ≤ 4 && (t.isWord "IN" || t.isWord "LIKE" || t.isWord "GLOB" || t.isWord "BETWEEN"
        || (t.isWord "NOT" && negatableWords.any nextTok.isWord)) then
      let negated ← eatWord "NOT"
      if ← eatWord "NULL" then climb f lvl (.isNull lhs true)
      else if ← eatWord "IN" then
        expectPunct "("
        if ← atWord "SELECT" then throw "subqueries are not supported"
        let items ← if ← atPunct ")" then pure [] else exprList f
        expectPunct ")"
        climb f lvl (.inList lhs items negated)
      else if ← eatWord "BETWEEN" then
        let low ← level f 5
        expectWord "AND"
        let high ← level f 5
        climb f lvl (.between lhs low high negated)
      else
        let glob ← if ← eatWord "GLOB" then pure true else do expectWord "LIKE"; pure false
        let pat ← level f 5
        let esc ← if ← eatWord "ESCAPE" then some <$> level f 5 else pure none
        climb f lvl (.like lhs pat esc glob negated)
    else
      match t with
      | .punct p =>
        match punctOp p with
        | some (prec, op) =>
          if prec < lvl then pure lhs
          else do
            skip
            let rhs ← level f (prec + 1)
            climb f lvl (.binary op lhs rhs)
        | none => pure lhs
      | _ => pure lhs

/-- Expressions separated by commas. -/
def exprList : Nat → ParseM (List Expr)
  | 0 => throw "expression too deep"
  | f + 1 => do
    let e ← expr f
    if ← eatPunct "," then pure (e :: (← exprList f)) else pure [e]

/-- The `WHEN … THEN …` arms of a `CASE`. -/
def caseArms : Nat → ParseM (List (Expr × Expr))
  | 0 => throw "expression too deep"
  | f + 1 => do
    if ← eatWord "WHEN" then
      let c ← expr f
      expectWord "THEN"
      let v ← expr f
      pure ((c, v) :: (← caseArms f))
    else pure []

/-- A literal, a name, a call, a parenthesized expression, `CAST`, `CASE` or `RAISE`. -/
def primary : Nat → ParseM Expr
  | 0 => throw "expression too deep"
  | f + 1 => do
    let l ← cur
    match l.tok with
    | .num t => skip; pure (.lit (numberValue t))
    | .str s => skip; pure (.lit (.text s))
    | .blob b => skip; pure (.lit (.blob b))
    | .param =>
      let s ← read
      let i ← get
      skip
      pure (.param ((s.toks.extract 0 i).toList.filter (fun l => l.tok == .param)).length)
    | .quotedName n =>
      skip
      if ← eatPunct "." then pure (.column (some n) (← name)) else pure (.quoted n)
    | .punct "(" =>
      skip
      if ← atWord "SELECT" then throw "subqueries are not supported"
      let e ← expr f
      if ← atPunct "," then throw "row values are not supported"
      expectPunct ")"
      pure e
    | .word w =>
      match w.toUpper with
      | "NULL" => skip; pure (.lit .null)
      | "TRUE" => skip; pure (.lit (.integer 1))
      | "FALSE" => skip; pure (.lit (.integer 0))
      | "CURRENT_TIMESTAMP" => skip; pure (.lit (.text "2026-01-01 00:00:00"))
      | "CURRENT_DATE" => skip; pure (.lit (.text "2026-01-01"))
      | "CURRENT_TIME" => skip; pure (.lit (.text "00:00:00"))
      | "EXISTS" => throw "subqueries are not supported"
      | "CAST" =>
        skip
        expectPunct "("
        let e ← expr f
        expectWord "AS"
        let start ← here
        let _ ← typeWords f
        let type ← textBetween start (← lastStop)
        expectPunct ")"
        pure (.cast e type)
      | "CASE" =>
        skip
        let operand ← if ← atWord "WHEN" then pure none else some <$> expr f
        let arms ← caseArms f
        if arms.isEmpty then syntaxFault
        let otherwise ← if ← eatWord "ELSE" then some <$> expr f else pure none
        expectWord "END"
        pure (.caseWhen operand arms otherwise)
      | "RAISE" =>
        skip
        expectPunct "("
        let action ← match raiseAction (← name) with
          | some a => pure a
          | none => syntaxFault
        let message ← if action == .ignore then pure "" else do
          expectPunct ","
          match (← cur).tok with
          | .str s => skip; pure s
          | _ => syntaxFault
        expectPunct ")"
        pure (.raise action message)
      | _ =>
        skip
        if ← eatPunct "(" then
          let _ ← eatWord "DISTINCT"
          if ← eatPunct "*" then
            expectPunct ")"
            pure (.call w [])
          else if ← eatPunct ")" then pure (.call w [])
          else
            let args ← exprList f
            expectPunct ")"
            pure (.call w args)
        else if ← eatPunct "." then
          let col ← name
          if ← eatPunct "." then pure (.column (some col) (← name))
          else pure (.column (some w) col)
        else pure (.column none w)
    | _ => syntaxFault

/-- The words of a type name and its optional sizes. -/
def typeWords : Nat → ParseM Unit
  | 0 => pure ()
  | f + 1 => do
    match (← cur).tok with
    | .word w =>
      if ["CONSTRAINT", "PRIMARY", "NOT", "NULL", "UNIQUE", "CHECK", "DEFAULT", "COLLATE",
          "REFERENCES", "GENERATED", "AS"].contains w.toUpper then pure ()
      else skip; typeWords f
    | .quotedName _ => skip; typeWords f
    | .punct "(" =>
      skip
      let _ ← exprList f
      expectPunct ")"
    | _ => pure ()

end

end Parse

end ChangeRelay.Sql
