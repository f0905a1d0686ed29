import ChangeRelay.Sql.Exec
import ChangeRelay.Sql.Script

/-!
# Statements as a connection runs them

A statement is first prepared: its table must exist, a view can only be changed through an
`INSTEAD OF` trigger, and the columns it names must be there. These faults come before any row
is read, so they do not depend on the data. A prepared statement then runs as one unit: when it
faults the database goes back to where it was, unless the fault asks to keep the work done
(`RAISE(FAIL)`, `OR FAIL`).

A script runs its statements in order and stops at the first fault.
-/

namespace ChangeRelay.Sql

mutual

/-- The column names an expression reads, with their qualifiers, in order. -/
def Expr.refs : Expr → List (Option String × String)
  | .column q n => [(q, n)]
  | .unary _ e => e.refs
  | .isNull e _ => e.refs
  | .cast e _ => e.refs
  | .collate e _ => e.refs
  | .binary _ a b => a.refs ++ b.refs
  | .like e p esc _ _ => e.refs ++ p.refs ++ Expr.refsOfOption esc
  | .inList e items _ => e.refs ++ Expr.refsOfList items
  | .between e l h _ => e.refs ++ l.refs ++ h.refs
  | .call _ args => Expr.refsOfList args
  | .caseWhen operand arms otherwise =>
    Expr.refsOfOption operand ++ Expr.refsOfArms arms ++ Expr.refsOfOption otherwise
  | _ => []
termination_by e => sizeOf e

/-- The column names a list of expressions reads. -/
def Expr.refsOfList : List Expr → List (Option String × String)
  | [] => []
  | e :: es => e.refs ++ Expr.refsOfList es
termination_by es => sizeOf es

/-- The column names of an optional expression. -/
def Expr.refsOfOption : Option Expr → List (Option String × String)
  | some e => e.refs
  | none => []
termination_by e => sizeOf e

/-- The column names the arms of a `CASE` read. -/
def Expr.refsOfArms : List (Expr × Expr) → List (Option String × String)
  | [] => []
  | (w, t) :: more => w.refs ++ t.refs ++ Expr.refsOfArms more
termination_by arms => sizeOf arms

end

/-- A fault of a statement: its extended result code and message. -/
structure Fault where
  code : Nat
  message : String
  deriving Repr, DecidableEq, Inhabited

/-- Fuel enough for every nesting of views and triggers the database allows. -/
def Database.fuel (db : Database) : Nat :=
  16 * (db.triggers.foldl (fun n t => n + t.body.length + 4) 0 + db.views.length + 8)

/-- Tests that the names expressions read are in scope. -/
def checkRefs (scopes : List Scope) (es : List Expr) : Except Signal Unit := do
  let env : Env := { scopes }
  for e in es do
    for (q, n) in e.refs do
      if (env.lookup q n).isNone then throw (noSuchColumn q n)

/-- The columns of a table or view. -/
def Database.columnsOf (db : Database) (n : String) : Except Signal (List (String × Affinity × Collation)) :=
  match ((relation db.fuel n).run.run db).1 with
  | .ok rel => .ok rel.columns
  | .error e => .error e

/-- Prepares a select: every source exists and every name read is in scope. -/
def checkSelect (db : Database) (s : Select) : Except Signal Unit :=
  (s.first :: s.rest.map (·.2)).forM fun
    | .values rows => checkRefs [] rows.flatten
    | .select cols source filter => do
      let scopes ← match source with
        | some (n, a) => do
          let columns ← db.columnsOf n
          pure [{ qualifier := (a.getD n).toLower, columns, values := columns.map fun _ => .null : Scope }]
        | none => pure []
      checkRefs scopes (cols.filterMap fun
        | .expr e _ _ => some e
        | _ => none)
      checkRefs scopes filter.toList

/-- Whether a view has an `INSTEAD OF` trigger for a change. -/
def Database.changeable (db : Database) (v : String) (c : Change) : Bool :=
  (db.triggersOn v).any fun t => t.timing == .insteadOf && t.event.matches c []

/-- The table a statement changes, or the fault of preparing it. -/
def Database.target (db : Database) (n : String) (c : Change) : Except Signal (Option Table) :=
  match db.table? n with
  | some t => .ok (some t)
  | none =>
    match db.view? n with
    | some v =>
      if db.changeable v.name c then .ok none
      else .error (fault1 ("cannot modify " ++ v.name ++ " because it is a view"))
    | none => .error (fault1 ("no such table: " ++ n))

/-- Whether columns are the columns of a unique key of a table, or its row id. -/
def Table.isKey (t : Table) (cs : List Nat) : Bool :=
  cs == t.rowidColumn.toList && !cs.isEmpty ||
    t.keys.any fun k => k.columns.length == cs.length && cs.all k.columns.contains

/-- Prepares a data statement. -/
def checkDml (db : Database) : Dml → Except Signal Unit
  | .select s => checkSelect db s
  | .insert _ n cols source ups => do
    let some t ← db.target n .insert | pure ()
    if let some cs := cols then
      for c in cs do
        if (t.columnIndex c).isNone then
          throw (fault1 ("table " ++ t.name ++ " has no column named " ++ c))
    match source with
    | .values rows => checkRefs [] rows.flatten
    | .select s => checkSelect db s
    | .defaults => pure ()
    let row := t.scope t.name 0 (t.columns.map fun _ => .null)
    let excluded := { row with qualifier := "excluded" }
    for u in ups do
      if let some cs := u.target then
        checkRefs [row] (cs.map (.column none ·))
        if !t.isKey (cs.filterMap t.columnIndex) then
          throw (fault1 "ON CONFLICT clause does not match any PRIMARY KEY or UNIQUE constraint")
      if let .update sets filter := u.action then
        for (c, _) in sets do
          if (t.columnIndex c).isNone then throw (noSuchColumn none c)
        checkRefs [row, excluded] (sets.map (·.2) ++ filter.toList)
  | .update _ n sets filter => do
    let some t ← db.target n .update | pure ()
    for (c, _) in sets do
      if (t.columnIndex c).isNone then throw (noSuchColumn none c)
    let row := t.scope t.name 0 (t.columns.map fun _ => .null)
    checkRefs [row] (sets.map (·.2) ++ filter.toList)
  | .delete n filter => do
    let some t ← db.target n .delete | pure ()
    checkRefs [t.scope t.name 0 (t.columns.map fun _ => .null)] filter.toList

/-- A fault as a connection reports it. -/
def Signal.fault? : Signal → Option Fault
  | .fault code message _ => some { code, message }
  | .ignore => none

/-- Runs one statement with its parameters: the database after it, and the rows of a select or
the fault. -/
def Database.run (db : Database) (params : List Value) : Stmt →
    Database × Except Fault (List (List Value))
  | .dml d =>
    match checkDml db d with
    | .error e =>
      match e.fault? with
      | some f => (db, .error f)
      | none => (db, .ok [])
    | .ok () =>
      let env : Env := { params }
      let body : ExecM (List (List Value)) := match d with
        | .select s => do pure ((← select db.fuel env s).rows.map (·.2))
        | d => do
          runDml db.fuel env [] d
          pure []
      match body.run.run db with
      | (.ok rows, after) => (after, .ok rows)
      | (.error (.fault code message keep), after) => (if keep then after else db, .error { code, message })
      | (.error .ignore, after) => (after, .ok [])
  | s =>
    match define db s with
    | .ok after => (after, .ok [])
    | .error e =>
      match e.fault? with
      | some f => (db, .error f)
      | none => (db, .ok [])

/-- Runs statements in order, stopping at the first fault. -/
def Database.runAll (db : Database) : List Stmt → Database × Option Fault
  | [] => (db, none)
  | s :: more =>
    match db.run [] s with
    | (after, .ok _) => after.runAll more
    | (after, .error f) => (after, some f)

/-- Runs a script: the database after it, and the fault that stopped it. -/
def Database.runScript (db : Database) (text : String) : Database × Option Fault :=
  match parseScript text with
  | .ok stmts => db.runAll stmts
  | .error m => (db, some { code := 1, message := m })

end ChangeRelay.Sql
