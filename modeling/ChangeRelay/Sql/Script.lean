import ChangeRelay.Sql.Parser

/-!
# Parsing SQL statements and scripts

Statements are read on top of the expression parser: `CREATE TABLE` (columns with their
constraints, then table constraints), `CREATE VIEW … AS SELECT`, `CREATE TRIGGER … BEGIN … END`,
`CREATE [UNIQUE] INDEX`, `DROP`, and the data statements; transaction statements and pragmas
are read and have no effect. A script is its statements separated by semicolons.
-/

namespace ChangeRelay.Sql

namespace Parse

/-- Words that end a list of result columns or a table name. -/
def clauseWords : List String :=
  ["FROM", "WHERE", "GROUP", "HAVING", "ORDER", "LIMIT", "UNION", "INTERSECT", "EXCEPT", "ON",
    "WINDOW", "VALUES", "SET", "DO"]

/-- An optional alias: `AS name`, or a bare name that is no clause word. -/
def columnAlias : ParseM (Option String) := do
  if ← eatWord "AS" then return some (← name)
  match (← cur).tok with
  | .word w => if clauseWords.contains w.toUpper then pure none else skip; pure (some w)
  | .quotedName n => skip; pure (some n)
  | _ => pure none

/-- Names separated by commas, each with an optional `COLLATE` and order. -/
def nameList : Nat → ParseM (List String)
  | 0 => throw "statement too long"
  | f + 1 => do
    let n ← name
    if ← eatWord "COLLATE" then let _ ← name
    let _ ← eatWord "ASC"
    let _ ← eatWord "DESC"
    if ← eatPunct "," then pure (n :: (← nameList f)) else pure [n]

/-- Result columns separated by commas. -/
def resultColumns : Nat → ParseM (List ResultColumn)
  | 0 => throw "statement too long"
  | f + 1 => do
    let c ← if ← eatPunct "*" then pure ResultColumn.all
      else match (← cur).tok, (← ahead) with
        | .word t, .punct "." =>
          let save ← get
          skip; skip
          if ← eatPunct "*" then pure (ResultColumn.allOf t)
          else do
            set save
            let start ← here
            let e ← expr f
            let text ← textBetween start (← lastStop)
            pure (.expr e (← columnAlias) text)
        | _, _ => do
          let start ← here
          let e ← expr f
          let text ← textBetween start (← lastStop)
          pure (.expr e (← columnAlias) text)
    if ← eatPunct "," then pure (c :: (← resultColumns f)) else pure [c]

/-- Rows of `VALUES`, each a parenthesized list. -/
def valueRows : Nat → ParseM (List (List Expr))
  | 0 => throw "statement too long"
  | f + 1 => do
    expectPunct "("
    let row ← exprList f
    expectPunct ")"
    if ← eatPunct "," then pure (row :: (← valueRows f)) else pure [row]

/-- A `SELECT` or `VALUES` core. -/
def selectCore (f : Nat) : ParseM SelectCore := do
  if ← eatWord "VALUES" then return .values (← valueRows f)
  expectWord "SELECT"
  let _ ← eatWord "DISTINCT"
  let _ ← eatWord "ALL"
  let columns ← resultColumns f
  let source ← if ← eatWord "FROM" then do
      let t ← qualifiedName
      if ← atPunct "," then throw "joins are not supported"
      if (← atWord "JOIN") || (← atWord "LEFT") || (← atWord "INNER") || (← atWord "CROSS") then
        throw "joins are not supported"
      pure (some (t, ← columnAlias))
    else pure none
  let filter ← if ← eatWord "WHERE" then some <$> expr f else pure none
  if (← atWord "GROUP") || (← atWord "HAVING") then throw "grouping is not supported"
  pure (.select columns source filter)

/-- The compound operator next, if any. -/
def compoundOp : ParseM (Option Compound) := do
  if ← eatWord "UNION" then
    if ← eatWord "ALL" then pure (some .unionAll) else pure (some .union)
  else if ← eatWord "INTERSECT" then pure (some .intersect)
  else if ← eatWord "EXCEPT" then pure (some .except)
  else pure none

/-- The cores after the first of a compound select. -/
def compoundRest : Nat → ParseM (List (Compound × SelectCore))
  | 0 => throw "statement too long"
  | f + 1 => do
    match ← compoundOp with
    | some op =>
      let c ← selectCore f
      pure ((op, c) :: (← compoundRest f))
    | none => pure []

/-- `ORDER BY` terms. -/
def orderTerms : Nat → ParseM (List (Expr × Bool))
  | 0 => throw "statement too long"
  | f + 1 => do
    let e ← expr f
    let asc ← if ← eatWord "DESC" then pure false else do let _ ← eatWord "ASC"; pure true
    if ← eatWord "NULLS" then
      if !(← eatWord "FIRST") then expectWord "LAST"
    if ← eatPunct "," then pure ((e, asc) :: (← orderTerms f)) else pure [(e, asc)]

/-- A select statement. -/
def select (f : Nat) : ParseM Select := do
  let first ← selectCore f
  let rest ← compoundRest f
  let orderBy ← if ← eatWord "ORDER" then do expectWord "BY"; orderTerms f else pure []
  let (limit, offset) ← if ← eatWord "LIMIT" then do
      let l ← expr f
      if ← eatWord "OFFSET" then pure (some l, some (← expr f))
      else if ← eatPunct "," then pure (some (← expr f), some l)
      else pure (some l, none)
    else pure (none, none)
  pure { first, rest, orderBy, limit, offset }

/-- A conflict action after `OR` or `ON CONFLICT`. -/
def conflictAction : ParseM Conflict := do
  match (← name).toUpper with
  | "ROLLBACK" => pure .rollback
  | "ABORT" => pure .abort
  | "FAIL" => pure .fail
  | "IGNORE" => pure .ignore
  | "REPLACE" => pure .replace
  | _ => syntaxFault

/-- An optional `ON CONFLICT action` of a constraint. -/
def constraintConflict : ParseM Unit := do
  if ← eatWord "ON" then
    expectWord "CONFLICT"
    let _ ← conflictAction

/-- The text between a parenthesis and its closing one, and the expression in it. -/
def parenthesized (f : Nat) : ParseM (String × Expr) := do
  expectPunct "("
  let start ← here
  let e ← expr f
  let text ← textBetween start (← here)
  expectPunct ")"
  pure (text, e)

/-- Skips the tokens of a foreign key clause up to the next constraint or the list's end. -/
def skipForeignKey : Nat → Nat → ParseM Unit
  | 0, _ => pure ()
  | f + 1, depth => do
    match (← cur).tok with
    | .eof => pure ()
    | .punct "(" => skip; skipForeignKey f (depth + 1)
    | .punct ")" => if depth == 0 then pure () else skip; skipForeignKey f (depth - 1)
    | .punct "," => if depth == 0 then pure () else skip; skipForeignKey f depth
    | .word w =>
      if depth == 0 && ["CONSTRAINT", "PRIMARY", "NOT", "NULL", "UNIQUE", "CHECK", "DEFAULT",
          "COLLATE", "GENERATED", "AS"].contains w.toUpper then pure ()
      else skip; skipForeignKey f depth
    | _ => skip; skipForeignKey f depth

/-- The constraints of a column. -/
def columnConstraints : Nat → ColumnDef → ParseM ColumnDef
  | 0, c => pure c
  | f + 1, c => do
    let cname ← if ← eatWord "CONSTRAINT" then some <$> name else pure none
    if ← eatWord "PRIMARY" then
      expectWord "KEY"
      let _ ← eatWord "ASC"
      let _ ← eatWord "DESC"
      constraintConflict
      let _ ← eatWord "AUTOINCREMENT"
      columnConstraints f { c with primaryKey := true }
    else if ← eatWord "NOT" then
      expectWord "NULL"
      constraintConflict
      columnConstraints f { c with notNull := true }
    else if ← eatWord "NULL" then columnConstraints f c
    else if ← eatWord "UNIQUE" then
      constraintConflict
      columnConstraints f { c with unique := true }
    else if ← eatWord "CHECK" then
      let (text, e) ← parenthesized f
      columnConstraints f { c with checks := c.checks ++ [(cname.getD text, e)] }
    else if ← eatWord "DEFAULT" then
      let d ← if ← atPunct "(" then do
          skip
          let e ← expr f
          expectPunct ")"
          pure e
        else prefixed f
      columnConstraints f { c with default := some d }
    else if ← eatWord "COLLATE" then columnConstraints f { c with collation := some (← name) }
    else if ← eatWord "REFERENCES" then
      skipForeignKey f 0
      columnConstraints f c
    else if (← atWord "GENERATED") || (← atWord "AS") then throw "generated columns are not supported"
    else if cname.isSome then syntaxFault
    else pure c

/-- A table constraint, if one is next. -/
def tableConstraint (f : Nat) : ParseM (Option TableConstraint) := do
  let cname ← if ← eatWord "CONSTRAINT" then some <$> name else pure none
  if ← eatWord "PRIMARY" then
    expectWord "KEY"
    expectPunct "("
    let cols ← nameList f
    expectPunct ")"
    constraintConflict
    pure (some (.primaryKey cols))
  else if ← eatWord "UNIQUE" then
    expectPunct "("
    let cols ← nameList f
    expectPunct ")"
    constraintConflict
    pure (some (.unique cols))
  else if ← eatWord "CHECK" then
    let (text, e) ← parenthesized f
    pure (some (.check (cname.getD text) e))
  else if ← eatWord "FOREIGN" then
    expectWord "KEY"
    skipForeignKey f 0
    pure none
  else if cname.isSome then syntaxFault
  else pure none

/-- The column definitions and table constraints of `CREATE TABLE`. -/
def tableBody : Nat → List ColumnDef → List TableConstraint →
    ParseM (List ColumnDef × List TableConstraint)
  | 0, cs, ks => pure (cs, ks)
  | f + 1, cs, ks => do
    let isConstraint := (← atWord "CONSTRAINT") || (← atWord "PRIMARY") || (← atWord "UNIQUE") ||
      (← atWord "CHECK") || (← atWord "FOREIGN")
    if isConstraint && !cs.isEmpty then
      let k ← tableConstraint f
      let ks := ks ++ k.toList
      if ← eatPunct "," then tableBody f cs ks else pure (cs, ks)
    else
      let n ← name
      let start ← here
      typeWords f
      let type ← if (← here) == start then pure "" else textBetween start (← lastStop)
      let c ← columnConstraints f { name := n, type }
      let cs := cs ++ [c]
      if ← eatPunct "," then tableBody f cs ks else pure (cs, ks)

/-- `SET` assignments. -/
def assignments : Nat → ParseM (List (String × Expr))
  | 0 => throw "statement too long"
  | f + 1 => do
    let n ← name
    expectPunct "="
    let e ← expr f
    if ← eatPunct "," then pure ((n, e) :: (← assignments f)) else pure [(n, e)]

/-- `ON CONFLICT` clauses of an `INSERT`. -/
def upserts : Nat → ParseM (List Upsert)
  | 0 => pure []
  | f + 1 => do
    if !(← atWord "ON") then return []
    skip
    expectWord "CONFLICT"
    let target ← if ← eatPunct "(" then do
        let cols ← nameList f
        expectPunct ")"
        if ← eatWord "WHERE" then let _ ← expr f
        pure (some cols)
      else pure none
    expectWord "DO"
    let action ← if ← eatWord "NOTHING" then pure UpsertAction.nothing else do
      expectWord "UPDATE"
      expectWord "SET"
      let sets ← assignments f
      let filter ← if ← eatWord "WHERE" then some <$> expr f else pure none
      pure (.update sets filter)
    pure ({ target, action } :: (← upserts f))

/-- A data statement. -/
def dml (f : Nat) : ParseM Dml := do
  if (← atWord "INSERT") || (← atWord "REPLACE") then
    let conflict ← if ← eatWord "REPLACE" then pure (some Conflict.replace) else do
      skip
      if ← eatWord "OR" then some <$> conflictAction else pure none
    expectWord "INTO"
    let table ← qualifiedName
    if ← eatWord "AS" then let _ ← name
    let columns ← if ← eatPunct "(" then do
        let cols ← nameList f
        expectPunct ")"
        pure (some cols)
      else pure none
    let source ← if ← eatWord "DEFAULT" then do expectWord "VALUES"; pure InsertSource.defaults
      else if ← eatWord "VALUES" then InsertSource.values <$> valueRows f
      else InsertSource.select <$> select f
    let ups ← upserts f
    pure (.insert conflict table columns source ups)
  else if ← eatWord "UPDATE" then
    let conflict ← if ← eatWord "OR" then some <$> conflictAction else pure none
    let table ← qualifiedName
    expectWord "SET"
    let sets ← assignments f
    let filter ← if ← eatWord "WHERE" then some <$> expr f else pure none
    pure (.update conflict table sets filter)
  else if ← eatWord "DELETE" then
    expectWord "FROM"
    let table ← qualifiedName
    let filter ← if ← eatWord "WHERE" then some <$> expr f else pure none
    pure (.delete table filter)
  else if (← atWord "SELECT") || (← atWord "VALUES") then .select <$> select f
  else syntaxFault

/-- The statements of a trigger's body, up to `END`. -/
def triggerBody : Nat → ParseM (List Dml)
  | 0 => throw "statement too long"
  | f + 1 => do
    if ← eatWord "END" then return []
    let d ← dml f
    expectPunct ";"
    pure (d :: (← triggerBody f))

/-- `IF NOT EXISTS`, if next. -/
def ifNotExists : ParseM Bool := do
  if ← eatWord "IF" then
    expectWord "NOT"
    expectWord "EXISTS"
    pure true
  else pure false

/-- The rest of a `CREATE` statement. -/
def create (f : Nat) : ParseM Stmt := do
  let _ ← eatWord "TEMP"
  let _ ← eatWord "TEMPORARY"
  if ← eatWord "TABLE" then
    let ine ← ifNotExists
    let n ← qualifiedName
    if ← atWord "AS" then throw "CREATE TABLE AS is not supported"
    expectPunct "("
    let (cols, ks) ← tableBody f [] []
    expectPunct ")"
    if ← eatWord "WITHOUT" then let _ ← name
    let _ ← eatPunct ","
    let _ ← eatWord "STRICT"
    pure (.createTable ine n cols ks)
  else if ← eatWord "VIEW" then
    let ine ← ifNotExists
    let n ← qualifiedName
    let cols ← if ← eatPunct "(" then do
        let cs ← nameList f
        expectPunct ")"
        pure (some cs)
      else pure none
    expectWord "AS"
    pure (.createView ine n cols (← select f))
  else if ← eatWord "TRIGGER" then
    let ine ← ifNotExists
    let n ← qualifiedName
    let timing ← if ← eatWord "BEFORE" then pure Timing.before
      else if ← eatWord "AFTER" then pure Timing.after
      else if ← eatWord "INSTEAD" then do expectWord "OF"; pure Timing.insteadOf
      else pure Timing.before
    let event ← if ← eatWord "INSERT" then pure TriggerEvent.insert
      else if ← eatWord "DELETE" then pure TriggerEvent.delete
      else do
        expectWord "UPDATE"
        if ← eatWord "OF" then pure (TriggerEvent.update (← nameList f))
        else pure (TriggerEvent.update [])
    expectWord "ON"
    let table ← qualifiedName
    if ← eatWord "FOR" then
      expectWord "EACH"
      expectWord "ROW"
    let condition ← if ← eatWord "WHEN" then some <$> expr f else pure none
    expectWord "BEGIN"
    let body ← triggerBody f
    pure (.createTrigger ine { name := n, timing, event, table, condition, body })
  else
    let unique ← eatWord "UNIQUE"
    expectWord "INDEX"
    let ine ← ifNotExists
    let n ← qualifiedName
    expectWord "ON"
    let table ← qualifiedName
    expectPunct "("
    let cols ← nameList f
    expectPunct ")"
    if ← eatWord "WHERE" then let _ ← expr f
    pure (.createIndex ine unique n table cols)

/-- Skips to the end of the statement. -/
def skipStatement : Nat → ParseM Unit
  | 0 => pure ()
  | f + 1 => do
    match (← cur).tok with
    | .eof | .punct ";" => pure ()
    | _ => skip; skipStatement f

/-- One statement. -/
def statement (f : Nat) : ParseM Stmt := do
  if ← eatWord "CREATE" then create f
  else if ← eatWord "DROP" then
    let kind := (← name).toUpper
    let ifExists ← if ← eatWord "IF" then do expectWord "EXISTS"; pure true else pure false
    pure (.drop kind ifExists (← qualifiedName))
  else if (← atWord "BEGIN") || (← atWord "COMMIT") || (← atWord "END") || (← atWord "PRAGMA") ||
      (← atWord "ROLLBACK") || (← atWord "SAVEPOINT") || (← atWord "RELEASE") ||
      (← atWord "ANALYZE") || (← atWord "VACUUM") || (← atWord "REINDEX") then
    skipStatement f
    pure .nothing
  else .dml <$> dml f

/-- Statements up to the end of the script. -/
def statements : Nat → ParseM (List Stmt)
  | 0 => throw "script too long"
  | f + 1 => do
    if ← eatPunct ";" then return (← statements f)
    match (← cur).tok with
    | .eof => pure []
    | _ =>
      let s ← statement f
      match (← cur).tok with
      | .eof => pure [s]
      | _ =>
        expectPunct ";"
        pure (s :: (← statements f))

end Parse

/-- The statements of a script. -/
def parseScript (text : String) : Except String (List Stmt) := do
  let chars := text.toList.toArray
  let toks ← lex chars
  let fuel := 64 * (toks.size + 4)
  let (stmts, _) ← (Parse.statements fuel).run ⟨toks, chars⟩ |>.run 0
  pure stmts

end ChangeRelay.Sql
