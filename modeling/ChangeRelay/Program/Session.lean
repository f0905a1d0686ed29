import ChangeRelay.Program.Launch

/-!
# A run of the program

A run starts the program and then acts on it from outside: it waits for publishes or for the
program to say it listens, lets time pass, sends it a signal, or sends its control plane a
request. When the steps are done the program gets a grace period to exit by itself and is then
killed.

* The program says it listens once it serves; it stops by itself, with code 0, when every
  worker ended before.
* A signal (`TERM` or `INT`) stops it: the server closes, the workers drain, the sequence is
  checkpointed, and it exits with code 0.
* A kill stops it at once; by then its periodic checkpoint has run if its interval fits in the
  grace period.
* A request reaches the control plane only once the run saw that it listens, and while it runs.
  A handler that panics drops the connection and reports the panic on the error stream (with
  a hint on backtraces after the first panic only).
* No publish ever reaches the sidecar, so a wait for publishes succeeds only for none.
-/

namespace ChangeRelay.Program

open Http

/-- The grace period after the last step, in milliseconds. -/
def gracePeriodMs : Nat := 8000

/-- Where a panic of the sequence counter is reported. -/
def sequencePanicSite : String := "src/sequence.rs:94:9"

/-- The report of a panic on the error stream. -/
def panicText (first : Bool) (message : String) : String :=
  "thread 'tokio-runtime-worker' panicked at " ++ sequencePanicSite ++ ":\n" ++ message ++ "\n" ++
    (if first then "note: run with `RUST_BACKTRACE=1` environment variable to display a backtrace\n"
     else "")

/-- The program as the run sees it. -/
inductive Process where
  /-- It runs, with the control plane and its store's file, if it has one. -/
  | running (plane : ControlPlane Daemon) (databasePath : Option String)
  /-- It exited with a code, or was killed (no code). -/
  | ended (code : Option Nat)

/-- A run of the program. -/
structure Session where
  process : Process
  files : Files
  /-- What the program wrote to its error stream. -/
  stderr : String
  /-- Whether the program said it listens. -/
  announced : Bool
  /-- Whether the run saw it say so. -/
  heard : Bool := false
  /-- Whether the program had to be killed. -/
  killed : Bool := false
  /-- Whether a handler of the program panicked. -/
  panicked : Bool := false

namespace Session

/-- Ends a running program with an exit code or a kill; a checkpoint is written first when
`flushes`, and the store stays on disk. -/
def finish (s : Session) (code : Option Nat) (flushes : Bool) : Session :=
  match s.process with
  | .ended _ => s
  | .running c path =>
    let d := if flushes then c.host.checkpoint else c.host
    let files := match path with
      | some p => s.files.saveDatabase p d.store.db
      | none => s.files
    { s with process := .ended code, files }

/-- The run of a start: an idle program stops by itself at once. -/
def ofStart : Start → Session
  | .exited code stderr files => { process := .ended (some code), files, stderr, announced := false }
  | .serving d path files =>
    let s : Session := { process := .running d.plane path, files, stderr := "", announced := true }
    if d.idle then s.finish (some 0) true else s

/-- Whether the program runs. -/
def running (s : Session) : Bool :=
  match s.process with
  | .running .. => true
  | .ended _ => false

/-- Waits until the sidecar saw `n` publishes: none ever arrives. -/
def waitPublishes (_ : Session) (n : Nat) : Bool := n == 0

/-- Waits for the program to say it listens. -/
def waitListening (s : Session) : Session × Bool := ({ s with heard := s.heard || s.announced }, s.announced)

/-- Lets time pass. -/
def sleep (s : Session) (ms : Nat) : Session :=
  match s.process with
  | .running c path => { s with process := .running { c with host := c.host.elapse ms } path }
  | .ended _ => s

/-- Sends a stopping signal. -/
def signal (s : Session) : Session := s.finish (some 0) true

/-- Sends a request to the control plane: its response, or none when there is no answer. -/
def request (s : Session) (req : Request) : Session × Option Response :=
  match s.process with
  | .ended _ => (s, none)
  | .running c path =>
    if !s.heard then (s, none)
    else
      match c.handle req with
      | (c, .response r) => ({ s with process := .running c path }, some r)
      | (c, .pending) => ({ s with process := .running c path }, none)
      | (c, .panic m) =>
        ({ s with process := .running c path, stderr := s.stderr ++ panicText (!s.panicked) m,
                  panicked := true }, none)

/-- Ends the run after the steps: a program still running is killed after the grace period. -/
def close (s : Session) : Session :=
  match s.process with
  | .ended _ => s
  | .running c _ =>
    let flushed := c.host.config.flushInterval.nanos ≤ gracePeriodMs * 1000000
    { s.finish none flushed with killed := true }

end Session

end ChangeRelay.Program
