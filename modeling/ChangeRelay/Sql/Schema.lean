import ChangeRelay.Sql.Eval

/-!
# The database: tables, views, triggers and indexes

A table has columns (each with an affinity, a collation, `NOT NULL` and a default), check
constraints, unique keys (the primary key among them) and rows, each with its row id. A column
declared `INTEGER PRIMARY KEY` is the row id itself. Views keep their select; triggers are kept
newest first, the order they fire in. Names are compared without ASCII case.

The definition statements (`CREATE`, `DROP`) change the schema and fail as SQLite words it:
`table x already exists`, `no such table: x`, `duplicate column name: x`, …
-/

namespace ChangeRelay.Sql

/-- Whether two names are the same, ASCII case aside. -/
def sameName (a b : String) : Bool := a.toLower == b.toLower

/-- A column of a table. -/
structure Column where
  name : String
  affinity : Affinity
  collation : Collation := .binary
  notNull : Bool := false
  default : Option Expr := none
  deriving Inhabited

/-- A unique key of a table: its columns by position. -/
structure Key where
  columns : List Nat
  primary : Bool
  /-- The index that made it, for keys made by `CREATE UNIQUE INDEX`. -/
  index : Option String := none
  deriving Inhabited

/-- A table and its rows. -/
structure Table where
  name : String
  columns : List Column
  /-- Check constraints: the name (or the text written) and the condition. -/
  checks : List (String × Expr) := []
  keys : List Key := []
  /-- The column that is the row id, for `INTEGER PRIMARY KEY`. -/
  rowidColumn : Option Nat := none
  /-- The rows by ascending row id. -/
  rows : List (Int × List Value) := []
  deriving Inhabited

/-- A view. -/
structure View where
  name : String
  columns : Option (List String)
  select : Select
  deriving Inhabited

/-- An index. -/
structure Index where
  name : String
  table : String
  columns : List String
  unique : Bool
  deriving Inhabited

/-- The schema and the data. -/
structure Database where
  tables : List Table := []
  views : List View := []
  /-- Newest first. -/
  triggers : List Trigger := []
  indexes : List Index := []
  deriving Inhabited

namespace Table

/-- The position of a column by name. -/
def columnIndex (t : Table) (n : String) : Option Nat := t.columns.findIdx? (sameName ·.name n)

/-- The columns as a scope sees them. -/
def scopeColumns (t : Table) : List (String × Affinity × Collation) :=
  t.columns.map fun c => (c.name, c.affinity, c.collation)

/-- A row of the table in scope under `qualifier`. -/
def scope (t : Table) (qualifier : String) (rowid : Int) (values : List Value) : Scope :=
  { qualifier := qualifier.toLower, columns := t.scopeColumns, values, rowid := some rowid }

/-- The row id a new row gets. -/
def nextRowid (t : Table) : Int := (t.rows.map (·.1)).foldl max 0 + 1

/-- The row of a row id. -/
def row? (t : Table) (rowid : Int) : Option (List Value) := (t.rows.find? (·.1 == rowid)).map (·.2)

/-- The table with a row put in place of the row of its id, or added in id order. -/
def putRow (t : Table) (rowid : Int) (values : List Value) : Table :=
  let others := t.rows.filter (·.1 != rowid)
  { t with rows := others.filter (·.1 < rowid) ++ [(rowid, values)] ++ others.filter (·.1 > rowid) }

/-- The table without the row of an id. -/
def removeRow (t : Table) (rowid : Int) : Table := { t with rows := t.rows.filter (·.1 != rowid) }

/-- The names of a key's columns, as a unique fault gives them. -/
def keyText (t : Table) (k : Key) : String :=
  ", ".intercalate (k.columns.map fun i => t.name ++ "." ++ ((t.columns.getD i default).name))

end Table

namespace Database

/-- A table by name. -/
def table? (db : Database) (n : String) : Option Table := db.tables.find? (sameName ·.name n)

/-- A view by name. -/
def view? (db : Database) (n : String) : Option View := db.views.find? (sameName ·.name n)

/-- The database with a table replaced by name. -/
def setTable (db : Database) (t : Table) : Database :=
  { db with tables := db.tables.map fun u => if sameName u.name t.name then t else u }

/-- The triggers on a table or view. -/
def triggersOn (db : Database) (n : String) : List Trigger := db.triggers.filter (sameName ·.table n)

end Database

/-- A fault of a statement, as SQLite words it, with the generic result code. -/
def fault1 (message : String) : Signal := .fault 1 message

/-- The first name that occurs twice. -/
def firstDuplicate : List String → Option String
  | [] => none
  | n :: ns => if ns.any (sameName · n) then some n else firstDuplicate ns

/-- A table made from its definition. -/
def buildTable (name : String) (defs : List ColumnDef) (ks : List TableConstraint) :
    Except Signal Table := do
  if let some d := firstDuplicate (defs.map (·.name)) then
    throw (fault1 ("duplicate column name: " ++ d))
  let position (n : String) : Except Signal Nat :=
    match defs.findIdx? (sameName ·.name n) with
    | some i => pure i
    | none => throw (fault1 ("no such column: " ++ n))
  let columnPks := (defs.zipIdx.filter (·.1.primaryKey)).map (·.2)
  let tablePks := ks.filterMap fun
    | .primaryKey cs => some cs
    | _ => none
  if columnPks.length + tablePks.length > 1 then
    throw (fault1 ("table \"" ++ name ++ "\" has more than one primary key"))
  let pk ← match columnPks, tablePks with
    | [i], _ => pure (some [i])
    | _, [cs] => some <$> cs.mapM position
    | _, _ => pure none
  let rowidColumn := match pk with
    | some [i] => if ((defs.getD i default).type.toUpper == "INTEGER") then some i else none
    | _ => none
  let pkKeys : List Key := match pk, rowidColumn with
    | some cs, none => [{ columns := cs, primary := true }]
    | _, _ => []
  let columnUniques : List Key := (defs.zipIdx.filter (·.1.unique)).map fun (_, i) =>
    { columns := [i], primary := false }
  let tableUniques ← ks.filterMapM fun
    | .unique cs => do pure (some ({ columns := ← cs.mapM position, primary := false } : Key))
    | _ => pure none
  let checks := defs.flatMap (·.checks) ++ ks.filterMap fun
    | .check n e => some (n, e)
    | _ => none
  let columns := defs.map fun d =>
    { name := d.name, affinity := affinityOfType d.type,
      collation := (d.collation.bind collationOf).getD .binary,
      notNull := d.notNull, default := d.default : Column }
  pure { name, columns, checks, keys := pkKeys ++ columnUniques ++ tableUniques, rowidColumn }

/-- The fault of a name taken by another object. -/
def nameTaken (db : Database) (n : String) : Option Signal :=
  if let some t := db.table? n then some (fault1 ("table " ++ t.name ++ " already exists"))
  else if let some v := db.view? n then some (fault1 ("view " ++ v.name ++ " already exists"))
  else if db.indexes.any (sameName ·.name n) then
    some (fault1 ("there is already an index named " ++ n))
  else none

/-- Whether two rows agree on a key: no column `NULL`, every column equal by its collation. -/
def keyMatches (t : Table) (k : Key) (a b : List Value) : Bool :=
  k.columns.all fun i =>
    let x := a.getD i .null
    let y := b.getD i .null
    !x.isNull && !y.isNull &&
      Value.compareWith (t.columns.getD i default).collation x y == .eq

/-- Runs a definition statement. -/
def define (db : Database) : Stmt → Except Signal Database
  | .createTable ine name defs ks =>
    match nameTaken db name with
    | some f => if ine && (db.table? name).isSome || ine && (db.view? name).isSome then pure db
      else throw f
    | none => do
      let t ← buildTable name defs ks
      pure { db with tables := db.tables ++ [t] }
  | .createView ine name cols s =>
    match nameTaken db name with
    | some f => if ine && ((db.table? name).isSome || (db.view? name).isSome) then pure db else throw f
    | none => pure { db with views := db.views ++ [{ name, columns := cols, select := s }] }
  | .createTrigger ine t =>
    if db.triggers.any (sameName ·.name t.name) then
      if ine then pure db else throw (fault1 ("trigger " ++ t.name ++ " already exists"))
    else
      match db.table? t.table, db.view? t.table with
      | some _, _ =>
        if t.timing == .insteadOf then
          throw (fault1 ("cannot create INSTEAD OF trigger on table: " ++ t.table))
        else pure { db with triggers := t :: db.triggers }
      | none, some _ =>
        if t.timing == .insteadOf then pure { db with triggers := t :: db.triggers }
        else throw (fault1 ("cannot create " ++ (if t.timing == .before then "BEFORE" else "AFTER") ++
          " trigger on view: main." ++ t.table))
      | none, none => throw (fault1 ("no such table: main." ++ t.table))
  | .createIndex ine unique name tname cols =>
    if db.indexes.any (sameName ·.name name) then
      if ine then pure db else throw (fault1 ("index " ++ name ++ " already exists"))
    else if (db.table? name).isSome || (db.view? name).isSome then
      throw (fault1 ("there is already a table named " ++ name))
    else
      match db.table? tname with
      | none =>
        if (db.view? tname).isSome then throw (fault1 "views may not be indexed")
        else throw (fault1 ("no such table: main." ++ tname))
      | some t => do
        let positions ← cols.mapM fun c => match t.columnIndex c with
          | some i => pure i
          | none => throw (fault1 ("no such column: " ++ c))
        let db := { db with indexes := db.indexes ++ [{ name, table := t.name, columns := cols, unique }] }
        if !unique then return db
        let k : Key := { columns := positions, primary := false, index := some name }
        let clash := t.rows.any fun (r, vs) => t.rows.any fun (r', ws) => r < r' && keyMatches t k vs ws
        if clash then throw (.fault 2067 ("UNIQUE constraint failed: " ++ t.keyText k))
        pure (db.setTable { t with keys := t.keys ++ [k] })
  | .drop kind ifExists name =>
    match kind with
    | "TABLE" =>
      match db.table? name with
      | some t => pure { db with
          tables := db.tables.filter (!sameName ·.name t.name),
          triggers := db.triggers.filter (!sameName ·.table t.name),
          indexes := db.indexes.filter (!sameName ·.table t.name) }
      | none =>
        if (db.view? name).isSome then throw (fault1 ("use DROP VIEW to delete view " ++ name))
        else if ifExists then pure db else throw (fault1 ("no such table: " ++ name))
    | "VIEW" =>
      match db.view? name with
      | some v => pure { db with
          views := db.views.filter (!sameName ·.name v.name),
          triggers := db.triggers.filter (!sameName ·.table v.name) }
      | none =>
        if (db.table? name).isSome then throw (fault1 ("use DROP TABLE to delete table " ++ name))
        else if ifExists then pure db else throw (fault1 ("no such view: " ++ name))
    | "INDEX" =>
      match db.indexes.find? (sameName ·.name name) with
      | some ix =>
        let db := { db with indexes := db.indexes.filter (!sameName ·.name ix.name) }
        match db.table? ix.table with
        | some t => pure (db.setTable { t with keys := t.keys.filter (fun k => !(k.index.map (sameName · ix.name)).getD false) })
        | none => pure db
      | none => if ifExists then pure db else throw (fault1 ("no such index: " ++ name))
    | "TRIGGER" =>
      if db.triggers.any (sameName ·.name name) then
        pure { db with triggers := db.triggers.filter (!sameName ·.name name) }
      else if ifExists then pure db else throw (fault1 ("no such trigger: " ++ name))
    | _ => throw (fault1 ("near \"" ++ kind ++ "\": syntax error"))
  | _ => pure db

end ChangeRelay.Sql
