import ChangeRelay.Command.Network
import ChangeRelay.Command.Store
import ChangeRelay.Program.Session
import ChangeRelay.Json.Reader

/-!
# The command that runs the program

A request describes a run of the program: its configuration file (written into the run's
directory as `config_name`), its arguments and environment variables, a database prepared by a
script before the start, and the steps taken while it runs. Three placeholders stand for what
only the run knows: the loopback server's base URL, its port, and the run's directory.

The report gives how the program ended (its exit code, or a kill after the steps), its error
stream, each step's result, and the cursors left in the database, read back after the run. The
loopback server stands in for the feed and the sidecar and is never reached, so it reports no
pulls, publishes or snapshot calls.
-/

namespace ChangeRelay.Command

open Decode Http Program

/-- Replaces the placeholders of a text: the loopback server's base URL and port, and the run's
directory. -/
def fillPlaceholders (env : Environment) (s : String) : String :=
  ((s.replace "\x7bFEED\x7d" ("http://" ++ env.loopbackHost)).replace "\x7bPORT\x7d"
    (toString env.loopbackPort)).replace "\x7bDIR\x7d" runDirectory

/-- The files as the driver of a run sees them, from the root. -/
def driverView (fs : Files) : Files := { fs with cwd := "/" }

/-- Prepares the database at a path with a script; the script's faults are ignored. -/
def prepareDatabase (fs : Files) (path script : String) : Files :=
  match (driverView fs).openDatabase path with
  | .ok (abs, db) => fs.saveDatabase abs (db.runScript script).1
  | .error _ => fs

/-- The cursors in the database at a path after the run, or null when there is no such file. -/
def cursorsJson (fs : Files) (clock : Int) (path : String) : Json :=
  match (driverView fs).resolve path with
  | .error _ => .null
  | .ok (abs, _) =>
    match fs.entry? abs with
    | none => .null
    | some _ =>
      match (driverView fs).openDatabase path with
      | .error f => errorJson (.store (.database f.code f.message))
      | .ok (_, db) =>
        match Store.SqliteStore.openOn db path clock with
        | .error e => errorJson e
        | .ok s =>
          match s.list with
          | .ok es => entriesJson es
          | .error e => errorJson e

/-- A response body as the driver reads it: JSON when the text is JSON, else the text. -/
def bodyJson (r : Response) : Json :=
  let text := match r.body with
    | .empty => ""
    | .text s => s
    | .json j => j.render
    | .lines items _ => String.join (items.map (·.render ++ "\n"))
  match Json.parse text with
  | .ok j => j
  | .error _ => .str text

/-- The HTTP request of a step. -/
def programRequestOf (spec : Json) : Except Refusal Request := do
  let method ← option spec "method" string "GET"
  let target ← option spec "path" string "/health"
  match spec.field? "json" with
  | some j => pure { method, target, contentType := some "application/json", body := j.render }
  | none => pure { method, target, contentType := none, body := "" }

/-- Takes one step of a run. -/
def programStep (s : Session) (st : Json) : Except Refusal (Session × Json) := do
  if let some n := st.field? "wait_publishes" then
    let n ← typed u64 n
    return (s, Json.mkObj [("waited", .bool (s.waitPublishes n))])
  if (st.field? "wait_listening").isSome then
    let (s, heard) := s.waitListening
    return (s, Json.mkObj [("listening", .bool heard)])
  if let some ms := st.field? "sleep_ms" then
    let ms ← typed u64 ms
    return (s.sleep ms, .null)
  if let some sig := st.field? "signal" then
    let name ← typed string sig
    if name == "TERM" || name == "INT" then return (s.signal, .null)
    throw (.badInput ("unknown signal '" ++ name ++ "'"))
  if let some spec := st.field? "http" then
    let req ← programRequestOf spec
    if !s.heard then return (s, Json.mkObj [("error", .str "not listening")])
    match s.request req with
    | (s, some r) => return (s, Json.mkObj [("status", Json.ofNat r.status), ("body", bodyJson r)])
    | (s, none) => return (s, Json.mkObj [("error", .str "not listening")])
  throw (.badInput "unknown cli step")

/-- Runs the program as a request describes. -/
def programRun (env : Environment) (req : Json) : Answer := do
  let fill := fillPlaceholders env
  let config ← option req "config" (Decode.option string) none
  let configName ← option req "config_name" string "config.yaml"
  let args ← option req "args" (list string) []
  let vars ← option req "env" object []
  let vars ← vars.mapM fun (k, v) => do pure (k, fill (← typed string v))
  let db ← option req "db" (Decode.option string) none
  let db := db.map fill
  let script ← option req "setup_sql" (Decode.option string) none
  let steps ← option req "steps" (list value) []
  let files : Files := {}
  let files := match config with
    | some text => files.writeText configName (fill text)
    | none => files
  let files := match db, script with
    | some path, some sql => prepareDatabase files path sql
    | _, _ => files
  let launch : Launch :=
    { args := args.map fill, vars := [("NO_COLOR", "1")] ++ vars, files,
      heldPorts := [env.loopbackPort], wallMs := env.wallMs }
  let s := Session.ofStart launch.start
  let (s, results) ← steps.foldlM (fun (s, rs) st => do
    let (s, r) ← programStep s st
    pure (s, rs ++ [r])) (s, ([] : List Json))
  let s := s.close
  let exitCode := match s.process with
    | .ended (some c) => Json.ofNat c
    | _ => .null
  return Json.mkObj [("exit_code", exitCode), ("signal", .null), ("timeout", .bool s.killed),
    ("stderr", .str s.stderr), ("steps", .arr results), ("pulls", Json.mkObj []),
    ("published", .arr []), ("snapshot_calls", Json.ofNat 0),
    ("cursors", match db with
      | some path => cursorsJson s.files env.wallMs path
      | none => .null)]

end ChangeRelay.Command
