import ChangeRelay.Sql.Value

/-!
# The SQL statements the database model runs

A script is a list of statements: tables, views, triggers and indexes created or dropped, and
the data statements `INSERT` (with an `OR` conflict action and `ON CONFLICT` upserts), `UPDATE`,
`DELETE` and `SELECT`. A trigger's body holds data statements only, so `Dml` and `Stmt` are two
types and neither contains the other.

Expressions cover what constraints, triggers and views are written with: literals, columns
(optionally qualified, as `NEW.x`), the arithmetic, comparison, logical and text operators,
`IS [NOT] NULL`, `[NOT] LIKE`/`GLOB`, `[NOT] IN (list)`, `[NOT] BETWEEN`, `CASE`, `CAST`,
`COLLATE`, function calls and `RAISE`. A check constraint keeps the text it was written with,
since a failing check is reported by that text when it has no name.
-/

namespace ChangeRelay.Sql

/-- An operator of one operand. -/
inductive UnaryOp where
  | not
  | neg
  | plus
  | bitNot
  deriving DecidableEq, Repr, Inhabited

/-- An operator of two operands. -/
inductive BinOp where
  | eq
  | ne
  | lt
  | le
  | gt
  | ge
  | is
  | isNot
  | and
  | or
  | concat
  | add
  | sub
  | mul
  | div
  | mod
  | bitAnd
  | bitOr
  | shl
  | shr
  deriving DecidableEq, Repr, Inhabited

/-- What `RAISE` does. -/
inductive RaiseAction where
  | ignore
  | rollback
  | abort
  | fail
  deriving DecidableEq, Repr, Inhabited

/-- An expression. -/
inductive Expr where
  | lit (v : Value)
  /-- A column, optionally qualified by a table, alias, `NEW` or `OLD`. -/
  | column (qualifier : Option String) (name : String)
  /-- A double-quoted name: a column when there is one, else a string. -/
  | quoted (name : String)
  | unary (op : UnaryOp) (e : Expr)
  | binary (op : BinOp) (a b : Expr)
  | isNull (e : Expr) (negated : Bool)
  /-- `LIKE` (without case, `%` and `_`) or `GLOB` (with case, `*`, `?` and classes). -/
  | like (e pattern : Expr) (escape : Option Expr) (glob negated : Bool)
  | inList (e : Expr) (items : List Expr) (negated : Bool)
  | between (e low high : Expr) (negated : Bool)
  | call (name : String) (args : List Expr)
  | cast (e : Expr) (type : String)
  | collate (e : Expr) (name : String)
  | caseWhen (operand : Option Expr) (arms : List (Expr × Expr)) (otherwise : Option Expr)
  | raise (action : RaiseAction) (message : String)
  /-- The `index`-th parameter of the statement, counted from zero. -/
  | param (index : Nat)
  deriving Inhabited

/-- A result column of a `SELECT`. -/
inductive ResultColumn where
  | all
  | allOf (table : String)
  /-- An expression, with its alias and the text it was written with. -/
  | expr (e : Expr) (label : Option String) (text : String)
  deriving Inhabited

/-- One `SELECT` or `VALUES` of a compound select. -/
inductive SelectCore where
  | select (columns : List ResultColumn) (source : Option (String × Option String))
      (filter : Option Expr)
  | values (rows : List (List Expr))
  deriving Inhabited

/-- How two selects combine. -/
inductive Compound where
  | unionAll
  | union
  | intersect
  | except
  deriving DecidableEq, Repr, Inhabited

/-- A select: its cores, then ordering and limits. -/
structure Select where
  first : SelectCore
  rest : List (Compound × SelectCore) := []
  /-- Terms to order by, each ascending or not. -/
  orderBy : List (Expr × Bool) := []
  limit : Option Expr := none
  offset : Option Expr := none
  deriving Inhabited

/-- What a constraint does with a row that breaks it. -/
inductive Conflict where
  | rollback
  | abort
  | fail
  | ignore
  | replace
  deriving DecidableEq, Repr, Inhabited

/-- A column of a table being created. -/
structure ColumnDef where
  name : String
  type : String := ""
  primaryKey : Bool := false
  notNull : Bool := false
  unique : Bool := false
  default : Option Expr := none
  collation : Option String := none
  /-- Check constraints: the name, else the text written, and the condition. -/
  checks : List (String × Expr) := []
  deriving Inhabited

/-- A constraint of a table being created. -/
inductive TableConstraint where
  | primaryKey (columns : List String)
  | unique (columns : List String)
  /-- A check: its name, else the text written, and the condition. -/
  | check (name : String) (e : Expr)
  deriving Inhabited

/-- Where the rows of an `INSERT` come from. -/
inductive InsertSource where
  | values (rows : List (List Expr))
  | select (s : Select)
  | defaults
  deriving Inhabited

/-- What an upsert does with a row that conflicts. -/
inductive UpsertAction where
  | nothing
  | update (sets : List (String × Expr)) (filter : Option Expr)
  deriving Inhabited

/-- An `ON CONFLICT` clause: the columns of the constraint it is for (any, if none given). -/
structure Upsert where
  target : Option (List String)
  action : UpsertAction
  deriving Inhabited

/-- A statement on data. -/
inductive Dml where
  | insert (conflict : Option Conflict) (table : String) (columns : Option (List String))
      (source : InsertSource) (upserts : List Upsert)
  | update (conflict : Option Conflict) (table : String) (sets : List (String × Expr))
      (filter : Option Expr)
  | delete (table : String) (filter : Option Expr)
  | select (s : Select)
  deriving Inhabited

/-- When a trigger fires. -/
inductive Timing where
  | before
  | after
  | insteadOf
  deriving DecidableEq, Repr, Inhabited

/-- What a trigger fires on. -/
inductive TriggerEvent where
  | insert
  | delete
  /-- An update, of any column or of the ones listed. -/
  | update (columns : List String)
  deriving Inhabited

/-- A trigger. -/
structure Trigger where
  name : String
  timing : Timing
  event : TriggerEvent
  table : String
  condition : Option Expr
  body : List Dml
  deriving Inhabited

/-- A statement of a script. -/
inductive Stmt where
  | createTable (ifNotExists : Bool) (name : String) (columns : List ColumnDef)
      (constraints : List TableConstraint)
  | createView (ifNotExists : Bool) (name : String) (columns : Option (List String)) (s : Select)
  | createTrigger (ifNotExists : Bool) (t : Trigger)
  | createIndex (ifNotExists unique : Bool) (name table : String) (columns : List String)
  /-- `DROP TABLE`, `VIEW`, `TRIGGER` or `INDEX`, by the kind's word. -/
  | drop (kind : String) (ifExists : Bool) (name : String)
  | dml (d : Dml)
  /-- A statement without effect on the model: transactions, pragmas. -/
  | nothing
  deriving Inhabited

end ChangeRelay.Sql
