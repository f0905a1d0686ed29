import ChangeRelay.Program.Arguments
import ChangeRelay.Program.Daemon
import ChangeRelay.Program.Files
import ChangeRelay.Program.Listener
import ChangeRelay.Program.Report
import ChangeRelay.Store.Location
import ChangeRelay.Config.Yaml

/-!
# Starting the program

The program starts in this order, and the first failure ends it:

1. it reads its command line; a usage fault exits with code 2 and the fault's text, and
   `--help` or `--version` exit with 0;
2. it loads its configuration file: reads it, reads the YAML, applies the environment's
   overrides and validates it (`loading <path>`);
3. it opens its cursor store (`opening cursor store`);
4. it builds its publisher, feed and workers, and starts: the sequence checkpoint is read (a bad
   one stops it with no context line), then each worker reads its cursor;
5. it binds the control plane's address (`binding <addr>`).

Every failure but the first exits with code 1 and a failure report, under the context named
for its stage. A store that was opened stays on disk, with its table.
-/

namespace ChangeRelay.Program

open Store Http

/-- What the program starts with. -/
structure Launch where
  args : List String
  /-- The environment variables. -/
  vars : List (String × String)
  files : Files
  /-- Ports another listener holds on the loopback address. -/
  heldPorts : List Nat
  wallMs : Nat

/-- How a start ends. -/
inductive Start where
  /-- The program exited with a code and what it wrote to the error stream. -/
  | exited (code : Nat) (stderr : String) (files : Files)
  /-- The program serves, with its store's file, if it has one. -/
  | serving (d : Daemon) (databasePath : Option String) (files : Files)

/-- Loads the configuration file at a path. -/
def loadConfig (files : Files) (lookup : String → Option String) (path : String) :
    Except RelayError RelayConfig := do
  let text ← match files.readText path with
    | .ok t => pure t
    | .error f => throw (.config ("Cannot read " ++ path ++ ": " ++ f.message))
  let c := (← RelayConfig.ofYaml text).applyEnv lookup
  match c.validate with
  | some e => throw e
  | none => pure c

/-- Opens the cursor store at a configured path: the database file it lives in, if any, and the
files after the opening. -/
def openStore (files : Files) (clock : Int) (path : String) :
    Except RelayError (Option String × SqliteStore) × Files :=
  match Location.ofPath path with
  | .error m => (.error (.config ("Invalid SQLite path: " ++ m)), files)
  | .ok .memory => ((fun s => (none, s)) <$> SqliteStore.openOn {} path clock, files)
  | .ok (.file p) =>
    match files.openDatabase p with
    | .error f => (.error (.store (.database f.code f.message)), files)
    | .ok (abs, db) =>
      let files := files.saveDatabase abs db
      match SqliteStore.openOn db path clock with
      | .error e => (.error e, files)
      | .ok s => (.ok (some abs, s), files.saveDatabase abs s.db)

/-- Each worker's state once it read its cursor: streaming, or faulted when the read failed. -/
def loadWorkers (store : SqliteStore) (partitions : List String) : List (String × WorkerState) :=
  partitions.map fun p => (p, if (store.get p).toBool then WorkerState.streaming else .faulted)

/-- Starts the program. -/
def Launch.start (l : Launch) : Start :=
  let fail (r : Report) (files : Files) := Start.exited 1 r.text files
  match Invocation.parse l.args with
  | .error f => .exited 2 f.message l.files
  | .ok .help | .ok .version => .exited 0 "" l.files
  | .ok (.run path) =>
    match loadConfig l.files (fun k => l.vars.lookup k) path with
    | .error e => fail (e.report.within ("loading " ++ path)) l.files
    | .ok config =>
      match openStore l.files l.wallMs config.cursor.sqlitePath with
      | (.error e, files) => fail (e.report.within "opening cursor store") files
      | (.ok (databasePath, store), files) =>
        match ({} : Sequence).load store with
        | .error e => fail e.report files
        | .ok (_, sequence) =>
          match bindAddress l.heldPorts config.settings.server.bindAddr with
          | .error f => fail (Report.within ("binding " ++ config.settings.server.bindAddr) ⟨f.message, []⟩) files
          | .ok () =>
            let d : Daemon :=
              { config, store, sequence, sidecar := Sidecar.ofSettings config.settings.publisher,
                feed := Feed.ofSettings config.feed, workers := loadWorkers store config.partitions,
                wallMs := l.wallMs }
            .serving d databasePath files

end ChangeRelay.Program
