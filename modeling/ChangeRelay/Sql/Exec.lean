import ChangeRelay.Sql.Schema

/-!
# Running SQL statements

Data statements run over the database as state (`ExecM`); a fault keeps the state it was raised
in, and the statement as a whole then keeps it (`FAIL`) or goes back to the database it started
from (`ABORT`, the default).

A row is inserted in SQLite's order: the row gets its values by column affinity and its row id;
`BEFORE INSERT` triggers run (a `RAISE(IGNORE)` skips the row); `NOT NULL` and check constraints
are tested; then unique keys, the key an upsert names first: a row that clashes goes to the
upsert (`DO NOTHING`, or `DO UPDATE` of the old row, as an update) or to the conflict action;
last the row is stored and `AFTER INSERT` triggers run. Updates and deletes take the rows the
filter selects first and then work row by row, with their own triggers. Triggers fire newest
first, and a trigger does not fire while it is already running.

Before a statement runs it is checked as SQLite prepares it: its table, its columns and the
names its expressions use must exist, so a statement on an empty table fails the same way.
-/

namespace ChangeRelay.Sql

/-- Rows with their columns. -/
structure Relation where
  columns : List (String × Affinity × Collation)
  rows : List (Option Int × List Value)
  deriving Inhabited

/-- What a data statement changes. -/
inductive Change where
  | insert
  | delete
  | update
  deriving DecidableEq, Inhabited

/-- Whether a trigger's event is a change of columns `cols`. -/
def TriggerEvent.matches (e : TriggerEvent) (c : Change) (cols : List String) : Bool :=
  match e, c with
  | .insert, .insert => true
  | .delete, .delete => true
  | .update of, .update => of.isEmpty || of.any (fun n => cols.any (sameName · n))
  | _, _ => false

/-- Statements over the database, keeping the state a fault was raised in. -/
abbrev ExecM := ExceptT Signal (StateM Database)

/-- A computation that may fault. -/
def liftE (r : Except Signal α) : ExecM α :=
  match r with
  | .ok a => pure a
  | .error e => throw e

/-- A table by name. -/
def getTable (n : String) : ExecM Table := do
  match (← get).table? n with
  | some t => pure t
  | none => throw (fault1 ("no such table: " ++ n))

/-- Sets the `i`-th value of a row. -/
def setAt (vs : List Value) (i : Nat) (v : Value) : List Value := vs.set i v

/-- The row of a table with every column given: the values at `positions`, defaults elsewhere. -/
def fullRow (t : Table) (positions : List Nat) (given : List Value) : ExecM (List Value) :=
  (List.range t.columns.length).mapM fun i =>
    match positions.findIdx? (· == i) with
    | some k => pure (given.getD k .null)
    | none =>
      match (t.columns.getD i default).default with
      | some d => liftE (eval {} d)
      | none => pure .null

/-- The unique keys of a table as checks go: the row id first when it is a column. -/
def keyOrder (t : Table) (target : Option (List Nat)) : List (Option Key) :=
  let keys := (t.rowidColumn.map fun _ => (none : Option Key)).toList ++ t.keys.map some
  let isTarget (k : Option Key) : Bool :=
    match target, k with
    | some cs, some k => cs.length == k.columns.length && cs.all k.columns.contains
    | some cs, none => cs == t.rowidColumn.toList
    | none, _ => false
  keys.filter isTarget ++ keys.filter (!isTarget ·)

/-- The upsert clause for a key, if any. -/
def upsertFor (t : Table) (ups : List (Upsert × Option (List Nat))) (k : Option Key) :
    Option Upsert :=
  (ups.find? fun (_, target) =>
    match target, k with
    | none, _ => true
    | some cs, some k => cs.length == k.columns.length && cs.all k.columns.contains
    | some cs, none => cs == t.rowidColumn.toList).map (·.1)

/-- The row of a table that clashes with `values` on key `k`, other than the row `self`. -/
def clash (t : Table) (k : Option Key) (rowid : Int) (values : List Value) (self : Option Int) :
    Option (Int × List Value) :=
  match k with
  | none => if self == some rowid then none else (t.row? rowid).map (rowid, ·)
  | some k => t.rows.find? fun (r, vs) => self != some r && keyMatches t k values vs

/-- The fault of a row that clashes on a key. -/
def clashFault (t : Table) (k : Option Key) (keep : Bool) : Signal :=
  match k with
  | none =>
    let i := t.rowidColumn.getD 0
    .fault 1555 ("UNIQUE constraint failed: " ++ t.name ++ "." ++ (t.columns.getD i default).name) keep
  | some k => .fault (if k.primary then 1555 else 2067) ("UNIQUE constraint failed: " ++ t.keyText k) keep

/-- Orders rows by keys, each ascending or not. -/
def orderRows (terms : List Bool) (rows : List (List Value × (Option Int × List Value))) :
    List (Option Int × List Value) :=
  let le (a b : List Value × (Option Int × List Value)) : Bool :=
    let rec go : List Bool → List Value → List Value → Bool
      | asc :: more, x :: xs, y :: ys =>
        match Value.compareWith .binary x y with
        | .eq => go more xs ys
        | .lt => asc
        | .gt => !asc
      | _, _, _ => true
    go terms a.1 b.1
  (rows.mergeSort le).map (·.2)

/-- Whether two rows are the same for `DISTINCT`. -/
def sameRow (a b : List Value) : Bool :=
  a.length == b.length && (a.zip b).all fun (x, y) => Value.compareWith .binary x y == .eq

/-- Rows of `a` combined with rows of `b`. -/
def combine (op : Compound) (a b : List (Option Int × List Value)) : List (Option Int × List Value) :=
  let distinct (rs : List (Option Int × List Value)) :=
    rs.foldl (fun acc r => if acc.any (sameRow ·.2 r.2) then acc else acc ++ [r]) []
  match op with
  | .unionAll => a ++ b
  | .union => distinct (a ++ b)
  | .intersect => distinct (a.filter fun r => b.any (sameRow ·.2 r.2))
  | .except => distinct (a.filter fun r => !b.any (sameRow ·.2 r.2))

/-- The name a result column gets. -/
def resultName (e : Expr) (label : Option String) (text : String) : String :=
  match label, e with
  | some a, _ => a
  | none, .column _ n => n
  | none, .quoted n => n
  | none, _ => text

mutual

/-- The rows of a table or view. -/
def relation : Nat → String → ExecM Relation
  | 0, _ => throw (fault1 "views nested too deep")
  | f + 1, n => do
    let db ← get
    match db.table? n with
    | some t => pure { columns := t.scopeColumns, rows := t.rows.map fun (r, vs) => (some r, vs) }
    | none =>
      match db.view? n with
      | some v => do
        let rel ← select f {} v.select
        let columns ← match v.columns with
          | some names =>
            if names.length != rel.columns.length then
              throw (fault1 ("expected " ++ toString rel.columns.length ++ " columns for '" ++ v.name ++
                "' but got " ++ toString names.length))
            else pure ((rel.columns.zip names).map fun ((_, a, c), m) => (m, a, c))
          | none => pure rel.columns
        pure { columns, rows := rel.rows.map fun (_, vs) => (none, vs) }
      | none => throw (fault1 ("no such table: " ++ n))

/-- The rows of one core of a select. -/
def core : Nat → Env → SelectCore → ExecM Relation
  | 0, _, _ => throw (fault1 "select nested too deep")
  | _ + 1, env, .values rows => do
    let vals ← rows.mapM fun r => liftE (evalList env r)
    let width := (vals.head?.map List.length).getD 0
    if vals.any (·.length != width) then throw (fault1 "all VALUES must have the same number of terms")
    let columns := (List.range width).map fun i => ("column" ++ toString (i + 1), Affinity.blob, Collation.binary)
    pure { columns, rows := vals.map fun vs => (none, vs) }
  | f + 1, env, .select cols source filter => do
    let src ← match source with
      | some (n, a) => do pure (some ((a.getD n).toLower, ← relation f n))
      | none => pure none
    let inputs : List (Option Int × List Value) := match src with
      | some (_, rel) => rel.rows
      | none => [(none, [])]
    let scopeOf (row : Option Int × List Value) : List Scope := match src with
      | some (q, rel) => [{ qualifier := q, columns := rel.columns, values := row.2, rowid := row.1 }]
      | none => []
    let sourceColumns : List (String × Affinity × Collation) := match src with
      | some (_, rel) => rel.columns
      | none => []
    let blankEnv : Env := { env with scopes := scopeOf (none, sourceColumns.map fun _ => .null) ++ env.scopes }
    let columns ← cols.flatMapM fun
      | .all => if src.isNone then throw (fault1 "no tables specified") else pure sourceColumns
      | .allOf t => match src with
        | some (q, _) => if sameName q t then pure sourceColumns else throw (fault1 ("no such table: " ++ t))
        | none => throw (fault1 ("no such table: " ++ t))
      | .expr e label text =>
        pure [(resultName e label text, exprAffinity blankEnv e,
          ((explicitCollation e).or (columnCollation blankEnv e)).getD .binary)]
    let rows ← inputs.filterMapM fun row => do
      let rowEnv : Env := { env with scopes := scopeOf row ++ env.scopes }
      if let some w := filter then
        if (← liftE (eval rowEnv w)).truth != some true then return none
      let values ← cols.flatMapM fun
        | .all | .allOf _ => pure row.2
        | .expr e _ _ => do pure [← liftE (eval rowEnv e)]
      pure (some (row.1, values))
    pure { columns, rows }

/-- The rows of a select. -/
def select : Nat → Env → Select → ExecM Relation
  | 0, _, _ => throw (fault1 "select nested too deep")
  | f + 1, env, s => do
    let first ← core f env s.first
    let rows ← s.rest.foldlM (fun rows (op, c) => do
      let r ← core f env c
      if r.columns.length != first.columns.length then
        throw (fault1 "SELECTs to the left and right of UNION do not have the same number of result columns")
      pure (combine op rows r.rows)) first.rows
    let rows ← if s.orderBy.isEmpty then pure rows else do
      let keyed ← rows.mapM fun row => do
        let outEnv : Env := { env with scopes := [{ qualifier := "", columns := first.columns, values := row.2 }] ++ env.scopes }
        let keys ← s.orderBy.mapM fun (e, _) =>
          match e with
          | .lit (.integer k) => pure (row.2.getD (k.toNat - 1) .null)
          | _ => liftE (eval outEnv e)
        pure (keys, row)
      pure (orderRows (s.orderBy.map (·.2)) keyed)
    let offset ← match s.offset with
      | some e => do pure (max 0 (← liftE (eval env e)).toInteger).toNat
      | none => pure 0
    let rows := rows.drop offset
    let rows ← match s.limit with
      | some e => do
        let l := (← liftE (eval env e)).toInteger
        pure (if l < 0 then rows else rows.take l.toNat)
      | none => pure rows
    pure { first with rows }

/-- Runs the triggers of a change to a table or view; false when one ignored the row. -/
def fire : Nat → List String → Timing → Change → String → List String →
    Option (Int × List Value) → Option (Int × List Value) → ExecM Bool
  | 0, _, _, _, _, _, _, _ => throw (fault1 "too many levels of trigger recursion")
  | f + 1, active, timing, change, tname, cols, old, new => do
    let db ← get
    let triggers := (db.triggersOn tname).filter fun tr =>
      tr.timing == timing && tr.event.matches change cols && !active.any (sameName · tr.name)
    if triggers.isEmpty then return true
    let columns ← match db.table? tname with
      | some t => pure t.scopeColumns
      | none => do pure (← relation f tname).columns
    let scopeOf (q : String) (row : Option (Int × List Value)) : List Scope :=
      (row.map fun (r, vs) => ({ qualifier := q, columns, values := vs, rowid := some r } : Scope)).toList
    let env : Env := { scopes := scopeOf "new" new ++ scopeOf "old" old, inTrigger := true }
    for tr in triggers do
      let go ← match tr.condition with
        | some c => do pure ((← liftE (eval env c)).truth == some true)
        | none => pure true
      if go then
        let ignored ← tryCatch (do runBody f env (tr.name :: active) tr.body; pure false) fun
          | .ignore => pure true
          | e => throw e
        if ignored then return false
    return true

/-- Runs the statements of a trigger's body. -/
def runBody : Nat → Env → List String → List Dml → ExecM Unit
  | 0, _, _, _ => throw (fault1 "too many levels of trigger recursion")
  | _ + 1, _, _, [] => pure ()
  | f + 1, env, active, d :: ds => do
    runDml f env active d
    runBody f env active ds

/-- Tests a row against `NOT NULL` and check constraints; false when the row is to be skipped. -/
def checkRow : Nat → Env → Conflict → Table → Int → List Value → ExecM (Option (List Value))
  | 0, _, _, _, _, _ => throw (fault1 "too deep")
  | _ + 1, env, conflict, t, rowid, values => do
    let keep := conflict == .fail
    let mut values := values
    for (c, i) in t.columns.zipIdx do
      if c.notNull && (values.getD i .null).isNull then
        match conflict, c.default with
        | .ignore, _ => return none
        | .replace, some d => values := setAt values i ((← liftE (eval {} d)).withAffinity c.affinity)
        | _, _ => throw (.fault 1299 ("NOT NULL constraint failed: " ++ t.name ++ "." ++ c.name) keep)
    let rowEnv : Env := { env with scopes := [t.scope t.name rowid values] ++ env.scopes }
    for (name, e) in t.checks do
      if (← liftE (eval rowEnv e)).truth == some false then
        if conflict == .ignore then return none
        throw (.fault 275 ("CHECK constraint failed: " ++ name) keep)
    pure (some values)

/-- Updates one row of a table to `new`. -/
def updateRow : Nat → Env → List String → Conflict → String → Int → List Value → List Value →
    List String → ExecM Unit
  | 0, _, _, _, _, _, _, _, _ => throw (fault1 "too many levels of trigger recursion")
  | f + 1, env, active, conflict, tname, rowid, old, new, cols => do
    let go ← fire f active .before .update tname cols (some (rowid, old)) (some (rowid, new))
    if !go then return
    let t ← getTable tname
    let some new ← checkRow f env conflict t rowid new | return
    for k in keyOrder t none do
      let t ← getTable tname
      match clash t k rowid new (some rowid) with
      | some (r, _) =>
        match conflict with
        | .ignore => return
        | .replace => modify (·.setTable (t.removeRow r))
        | _ => throw (clashFault t k (conflict == .fail))
      | none => pure ()
    let t ← getTable tname
    modify (·.setTable (t.putRow rowid new))
    let _ ← fire f active .after .update tname cols (some (rowid, old)) (some (rowid, new))

/-- Inserts one row, every column given. -/
def insertRow : Nat → Env → List String → Conflict → List (Upsert × Option (List Nat)) → String →
    List Value → ExecM Unit
  | 0, _, _, _, _, _, _ => throw (fault1 "too many levels of trigger recursion")
  | f + 1, env, active, conflict, ups, tname, given => do
    let t ← getTable tname
    let values := (t.columns.zip given).map fun (c, v) => v.withAffinity c.affinity
    let rowid ← match t.rowidColumn with
      | some i =>
        match values.getD i .null with
        | .null => pure t.nextRowid
        | .integer r => pure r
        | _ => throw (.fault 20 "datatype mismatch")
      | none => pure t.nextRowid
    let values := match t.rowidColumn with
      | some i => setAt values i (.integer rowid)
      | none => values
    let go ← fire f active .before .insert tname [] none (some (rowid, values))
    if !go then return
    let t ← getTable tname
    let some values ← checkRow f env conflict t rowid values | return
    let target := ups.findSome? (·.2)
    for k in keyOrder t target do
      let t ← getTable tname
      match clash t k rowid values none with
      | some (r, old) =>
        match upsertFor t ups k with
        | some u =>
          match u.action with
          | .nothing => return
          | .update sets filter =>
            let excluded : Scope :=
              { qualifier := "excluded", columns := t.scopeColumns, values, rowid := some rowid }
            let upEnv : Env := { env with scopes := [t.scope t.name r old, excluded] ++ env.scopes }
            if let some w := filter then
              if (← liftE (eval upEnv w)).truth != some true then return
            let mut new := old
            for (n, e) in sets do
              match t.columnIndex n with
              | some i =>
                let v ← liftE (eval upEnv e)
                new := setAt new i (v.withAffinity (t.columns.getD i default).affinity)
              | none => throw (fault1 ("no such column: " ++ n))
            updateRow f env active .abort tname r old new (sets.map (·.1))
            return
        | none =>
          match conflict with
          | .ignore => return
          | .replace => modify (·.setTable (t.removeRow r))
          | _ => throw (clashFault t k (conflict == .fail))
      | none => pure ()
    let t ← getTable tname
    modify (·.setTable (t.putRow rowid values))
    let _ ← fire f active .after .insert tname [] none (some (rowid, values))

/-- Runs a data statement. -/
def runDml : Nat → Env → List String → Dml → ExecM Unit
  | 0, _, _, _ => throw (fault1 "too many levels of trigger recursion")
  | f + 1, env, _, .select s => do let _ ← select f env s
  | f + 1, env, active, .insert conflict tname cols source ups => do
    let db ← get
    let rowsOf (width : Option Nat) : ExecM (List (List Value)) := match source with
      | .values rows => rows.mapM fun r => liftE (evalList env r)
      | .select s => do pure ((← select f env s).rows.map (·.2))
      | .defaults => pure [List.replicate (width.getD 0) .null]
    match db.table? tname with
    | none =>
      match db.view? tname with
      | some v =>
        let rel ← relation f v.name
        let rows ← rowsOf (some rel.columns.length)
        for r in rows do
          let _ ← fire f active .insteadOf .insert v.name [] none (some (0, r))
      | none => throw (fault1 ("no such table: " ++ tname))
    | some t =>
      let positions ← match cols with
        | some cs => cs.mapM fun c => match t.columnIndex c with
          | some i => pure i
          | none => throw (fault1 ("table " ++ t.name ++ " has no column named " ++ c))
        | none => pure (List.range t.columns.length)
      let rows ← match source with
        | .defaults => pure [[]]
        | _ => rowsOf none
      let positions := match source with
        | .defaults => []
        | _ => positions
      for r in rows do
        if r.length != positions.length then
          throw (fault1 (match cols with
            | some _ => toString r.length ++ " values for " ++ toString positions.length ++ " columns"
            | none => "table " ++ t.name ++ " has " ++ toString t.columns.length ++ " columns but " ++
              toString r.length ++ " values were supplied"))
        let full ← fullRow t positions r
        let targets ← ups.mapM fun u => match u.target with
          | some cs => do
            let ps ← cs.mapM fun c => match t.columnIndex c with
              | some i => pure i
              | none => throw (fault1 ("no such column: " ++ c))
            pure (u, some ps)
          | none => pure (u, none)
        insertRow f env active (conflict.getD .abort) targets t.name full
  | f + 1, env, active, .update conflict tname sets filter => do
    let db ← get
    match db.table? tname with
    | none =>
      match db.view? tname with
      | some v =>
        let rel ← relation f v.name
        for (_, vs) in rel.rows do
          let rowEnv : Env := { env with scopes := [{ qualifier := v.name.toLower, columns := rel.columns, values := vs }] ++ env.scopes }
          let hit ← match filter with
            | some w => do pure ((← liftE (eval rowEnv w)).truth == some true)
            | none => pure true
          if hit then
            let mut new := vs
            for (n, e) in sets do
              match rel.columns.findIdx? (sameName ·.1 n) with
              | some i => new := setAt new i (← liftE (eval rowEnv e))
              | none => throw (fault1 ("no such column: " ++ n))
            let _ ← fire f active .insteadOf .update v.name (sets.map (·.1)) (some (0, vs)) (some (0, new))
      | none => throw (fault1 ("no such table: " ++ tname))
    | some t =>
      let targets ← t.rows.filterMapM fun (r, vs) => do
        match filter with
        | some w =>
          let rowEnv : Env := { env with scopes := [t.scope t.name r vs] ++ env.scopes }
          pure (if (← liftE (eval rowEnv w)).truth == some true then some r else none)
        | none => pure (some r)
      for r in targets do
        let t ← getTable tname
        match t.row? r with
        | none => pure ()
        | some old =>
          let rowEnv : Env := { env with scopes := [t.scope t.name r old] ++ env.scopes }
          let mut new := old
          for (n, e) in sets do
            match t.columnIndex n with
            | some i =>
              let v ← liftE (eval rowEnv e)
              new := setAt new i (v.withAffinity (t.columns.getD i default).affinity)
            | none => throw (fault1 ("no such column: " ++ n))
          updateRow f env active (conflict.getD .abort) tname r old new (sets.map (·.1))
  | f + 1, env, active, .delete tname filter => do
    let db ← get
    match db.table? tname with
    | none =>
      match db.view? tname with
      | some v =>
        let rel ← relation f v.name
        for (_, vs) in rel.rows do
          let rowEnv : Env := { env with scopes := [{ qualifier := v.name.toLower, columns := rel.columns, values := vs }] ++ env.scopes }
          let hit ← match filter with
            | some w => do pure ((← liftE (eval rowEnv w)).truth == some true)
            | none => pure true
          if hit then
            let _ ← fire f active .insteadOf .delete v.name [] (some (0, vs)) none
      | none => throw (fault1 ("no such table: " ++ tname))
    | some t =>
      let targets ← t.rows.filterMapM fun (r, vs) => do
        match filter with
        | some w =>
          let rowEnv : Env := { env with scopes := [t.scope t.name r vs] ++ env.scopes }
          pure (if (← liftE (eval rowEnv w)).truth == some true then some r else none)
        | none => pure (some r)
      for r in targets do
        let t ← getTable tname
        match t.row? r with
        | none => pure ()
        | some old =>
          let go ← fire f active .before .delete tname [] (some (r, old)) none
          if go then
            let t ← getTable tname
            modify (·.setTable (t.removeRow r))
            let _ ← fire f active .after .delete tname [] (some (r, old)) none

end

end ChangeRelay.Sql
