import ChangeRelay.Sql.Session
import ChangeRelay.Store.Basic

/-!
# The cursor store on a SQLite database

The store keeps its cursors in the table `cursors (cursor_key TEXT PRIMARY KEY, token TEXT NOT
NULL, updated_at INTEGER NOT NULL)`, created on open unless a table or view of that name is
already there, and works through four statements:

* `SELECT token FROM cursors WHERE cursor_key = ?` for `get`, the first row read;
* `INSERT INTO cursors (cursor_key, token, updated_at) VALUES (?, ?, ?) ON CONFLICT(cursor_key)
  DO UPDATE SET token = excluded.token, updated_at = excluded.updated_at` for `set`;
* `DELETE FROM cursors WHERE cursor_key = ?` for `delete`;
* `SELECT cursor_key, token FROM cursors` for `list`, a later row of a key winning.

A database that was left by another writer may differ: the statements then fail as the database
says (`Cursor store error: error returned from database: (code: N) message`), and a value that is
not text cannot be read as a token (`NULL` reads as the empty text).
-/

namespace ChangeRelay.Store

open Sql

/-- The column `name` read as-is. -/
def col (name : String) : Expr := .column none name

/-- The table the store creates when there is none. -/
def cursorsTable : Stmt :=
  .createTable true "cursors"
    [{ name := "cursor_key", type := "TEXT", primaryKey := true },
     { name := "token", type := "TEXT", notNull := true },
     { name := "updated_at", type := "INTEGER", notNull := true }] []

/-- The filter on the key, the statement's first parameter. -/
def keyFilter : Expr := .binary .eq (col "cursor_key") (.param 0)

/-- Reads the token of a key. -/
def selectToken : Stmt :=
  .dml (.select
    { first := .select [.expr (col "token") none "token"] (some ("cursors", none)) (some keyFilter) })

/-- Writes the token of a key. -/
def upsertToken : Stmt :=
  .dml (.insert none "cursors" (some ["cursor_key", "token", "updated_at"])
    (.values [[.param 0, .param 1, .param 2]])
    [{ target := some ["cursor_key"],
       action := .update [("token", .column (some "excluded") "token"),
         ("updated_at", .column (some "excluded") "updated_at")] none }])

/-- Forgets a key. -/
def deleteToken : Stmt := .dml (.delete "cursors" (some keyFilter))

/-- Reads every key and token. -/
def selectAll : Stmt :=
  .dml (.select
    { first := .select [.expr (col "cursor_key") none "cursor_key", .expr (col "token") none "token"]
        (some ("cursors", none)) none })

/-- A database fault as a store error. -/
def databaseError (f : Fault) : RelayError := .store (.database f.code f.message)

/-- A value of column `i` read as text: `NULL` is empty, other types fail. -/
def readText (i : Nat) : Value → Except RelayError String
  | .text s => .ok s
  | .null => .ok ""
  | v => .error (.store (.columnType i v.className))

/-- Cursors on a SQLite database. -/
structure SqliteStore where
  db : Database
  /-- The path the store was opened with. -/
  path : String
  /-- The time `set` writes as `updated_at`, in milliseconds. -/
  clock : Int
  deriving Inhabited

namespace SqliteStore

/-- Opens the store on a database, creating its table when there is none. -/
def openOn (db : Database) (path : String) (clock : Int) : Except RelayError SqliteStore :=
  match db.run [] cursorsTable with
  | (db, .ok _) => .ok { db, path, clock }
  | (_, .error f) => .error (databaseError f)

/-- The token of a key. -/
def get (s : SqliteStore) (key : String) : Except RelayError (Option String) :=
  match (s.db.run [.text key] selectToken).2 with
  | .ok (row :: _) => some <$> readText 0 (row.headD .null)
  | .ok [] => .ok none
  | .error f => .error (databaseError f)

/-- The store after a statement that changes it, and the statement's outcome. -/
def change (s : SqliteStore) (params : List Value) (stmt : Stmt) : SqliteStore × Except RelayError Unit :=
  match s.db.run params stmt with
  | (db, .ok _) => ({ s with db }, .ok ())
  | (db, .error f) => ({ s with db }, .error (databaseError f))

/-- Writes a token under a key. -/
def set (s : SqliteStore) (key token : String) : SqliteStore × Except RelayError Unit :=
  s.change [.text key, .text token, .integer s.clock] upsertToken

/-- Forgets a key. -/
def delete (s : SqliteStore) (key : String) : SqliteStore × Except RelayError Unit :=
  s.change [.text key] deleteToken

/-- Every key and its token, by ascending key. -/
def list (s : SqliteStore) : Except RelayError Entries :=
  match (s.db.run [] selectAll).2 with
  | .ok rows => do
    let pairs ← rows.mapM fun row => do
      let k ← readText 0 (row.headD .null)
      let t ← readText 1 (row.getD 1 .null)
      pure (k, t)
    pure (Entries.collect pairs).sorted
  | .error f => .error (databaseError f)

instance : CursorStore SqliteStore := ⟨get, set, delete⟩

end SqliteStore

end ChangeRelay.Store
