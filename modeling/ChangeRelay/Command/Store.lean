import ChangeRelay.Command.Basic
import ChangeRelay.Store.Memory
import ChangeRelay.Store.Sqlite

/-!
# Commands on the cursor stores

A command opens a store (in memory, a SQLite database in memory, or a SQLite database file that a
script may have prepared), writes the request's `entries` with `set`, and runs its steps, each
step answering one result: a token, `null` for a write, the sorted entries, or the error.
-/

namespace ChangeRelay.Command

open Store Decode

/-- The store a command works on. -/
inductive Backend where
  | memory (s : MemoryStore)
  /-- A SQLite store; `file` tells a database file from one in memory. -/
  | sqlite (s : SqliteStore) (file : Bool)
  deriving Inhabited

/-- The entries of a store as a report. -/
def entriesJson (es : Entries) : Json := .obj (es.map fun (k, t) => (k, .str t))

/-- A write's outcome as a result. -/
def writeJson : Except RelayError Unit → Json
  | .ok () => .null
  | .error e => errorJson e

/-- A read's outcome as a result. -/
def readJson : Except RelayError (Option String) → Json
  | .ok v => Json.mkObj [("value", Json.ofOption v)]
  | .error e => errorJson e

namespace Backend

/-- The token of a key. -/
def get : Backend → String → Except RelayError (Option String)
  | .memory s, k => s.get k
  | .sqlite s _, k => s.get k

/-- Writes a token under a key. -/
def set : Backend → String → String → Backend × Except RelayError Unit
  | .memory s, k, t => let (s, r) := s.set k t; (.memory s, r)
  | .sqlite s f, k, t => let (s, r) := s.set k t; (.sqlite s f, r)

/-- Forgets a key. -/
def delete : Backend → String → Backend × Except RelayError Unit
  | .memory s, k => let (s, r) := s.delete k; (.memory s, r)
  | .sqlite s f, k => let (s, r) := s.delete k; (.sqlite s f, r)

/-- The sorted entries. -/
def list : Backend → Except RelayError Entries
  | .memory s => .ok s.list
  | .sqlite s _ => s.list

instance : CursorStore Backend := ⟨get, set, delete⟩

/-- Runs one step of a store command: the store after it and the step's result. -/
def step (b : Backend) (st : Json) : Backend × Json :=
  let key := textOf st "key"
  let refuse (m : String) := (b, (Refusal.badInput m).toJson)
  match textOf st "op", b with
  | "get", _ => (b, readJson (b.get key))
  | "set", _ => let (b, r) := b.set key (textOf st "token"); (b, writeJson r)
  | "delete", _ => let (b, r) := b.delete key; (b, writeJson r)
  | "list", _ =>
    match b.list with
    | .ok es => (b, entriesJson es)
    | .error e => (b, errorJson e)
  | "fail_reads", .memory s =>
    (.memory { s with failReads := ((st.field? "value").bind Json.bool?).getD false }, .null)
  | "fail_writes", .memory s =>
    (.memory { s with failWrites := ((st.field? "value").bind Json.bool?).getD false }, .null)
  | "checkpoint", .sqlite _ _ => (b, .null)
  | "checkpoint", .memory _ => refuse "checkpoint needs a sqlite store"
  | "reopen", .sqlite s file =>
    let db := if file then s.db else {}
    match SqliteStore.openOn db s.path s.clock with
    | .ok s => (.sqlite s file, .null)
    | .error e => (b, errorJson e)
  | "reopen", .memory _ => refuse "reopen needs a sqlite store"
  | "fail_reads", .sqlite _ _ => refuse "fail_reads needs a memory store"
  | "fail_writes", .sqlite _ _ => refuse "fail_writes needs a memory store"
  | other, _ => refuse ("unknown store op '" ++ other ++ "'")

/-- Runs steps in order, collecting their results. -/
def steps (b : Backend) : List Json → Backend × List Json
  | [] => (b, [])
  | st :: more =>
    let (b, r) := b.step st
    let (b, rs) := b.steps more
    (b, r :: rs)

end Backend

/-- The entries a request gives under `key`, by ascending key. -/
def entriesOf (req : Json) (key : String) : Except Refusal Entries := do
  let fields ← option req key object []
  let pairs ← fields.mapM fun (k, v) => do pure (k, ← typed string v)
  pure (Entries.collect pairs).sorted

/-- Writes entries with `set`, stopping at the first failure. -/
def Backend.fill (b : Backend) : Entries → Except RelayError Backend
  | [] => .ok b
  | (k, t) :: more =>
    match b.set k t with
    | (b, .ok ()) => b.fill more
    | (_, .error e) => .error e

/-- The path a database file is opened at. -/
def cursorsPath : String := "cursors.db"

/-- Opens the store a request names, with its entries written. -/
def openBackend (now : Nat) (req : Json) : Except Refusal (Backend × List (String × Json)) := do
  let entries ← entriesOf req "entries"
  let clock : Int := now
  match textOf req "backend" with
  | "memory" => pure (.memory (MemoryStore.ofPairs entries), [])
  | "sqlite" =>
    let s ← relayed (SqliteStore.openOn {} ":memory:" clock)
    let b ← relayed ((Backend.sqlite s false).fill entries)
    pure (b, [("path", .str ":memory:")])
  | "sqlite_file" =>
    if ((req.field? "unopenable").bind Json.bool?).getD false then
      throw (.relay (.store (.database 14 "unable to open database file")))
    let (db, _) := ({} : Sql.Database).runScript (textOf req "setup_sql")
    let s ← relayed (SqliteStore.openOn db cursorsPath clock)
    let b ← relayed ((Backend.sqlite s true).fill entries)
    pure (b, [("path_matches", .bool true)])
  | other => throw (.badInput ("unknown backend '" ++ other ++ "'"))

/-- Runs the steps of a request on the store it names. -/
def cursorStore (now : Nat) (req : Json) : Answer := do
  let (b, extra) ← openBackend now req
  let steps ← option req "steps" (list value) []
  let (_, results) := b.steps steps
  return Json.mkObj ([("results", .arr results)] ++ extra)

end ChangeRelay.Command
