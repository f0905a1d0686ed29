import ChangeRelay.Relay.ControlPlane
import ChangeRelay.Store.Sqlite
import ChangeRelay.Feed
import ChangeRelay.Sidecar
import ChangeRelay.Config.Check

/-!
# The running program

Once started, the program runs one worker per partition against its feed, publishes through
its sidecar, keeps cursors and the sequence checkpoint in its SQLite store, and serves the
control plane.

Here the feed and the sidecar live on a loopback server that never answers: every pull fails
as a passing fault of the source, so each worker that read its cursor keeps streaming and
backing off, and every publish fails to be sent. What the program does that shows is its control
plane (health, announcements that take sequence numbers and fail to publish, deprovisioning
that clears the store) and the checkpoint it writes when it stops.

A worker whose cursor cannot be read faults; that fault is not fatal, so its siblings go on.
When every worker has ended this way the program stops by itself.
-/

namespace ChangeRelay.Program

open Store Http

/-- The running program. -/
structure Daemon where
  config : RelayConfig
  store : SqliteStore
  sequence : Sequence
  sidecar : Sidecar
  feed : Feed
  /-- Each partition with its worker's state, in the configured order. -/
  workers : List (String × WorkerState)
  /-- Nanoseconds since the start, the breaker's clock. -/
  now : Nat := 0
  /-- The wall clock in milliseconds. -/
  wallMs : Nat

namespace Daemon

/-- The health report: the program runs and is ready, with each worker's state and the last
sequence number given out. -/
def healthJson (d : Daemon) : Json :=
  Json.mkObj [("state", .str SupervisorState.running.name), ("ready", .bool true),
    ("workers", .arr (d.workers.map fun (p, s) =>
      Json.mkObj [("partition", .str p), ("state", .str s.name)])),
    ("sequence", Json.ofNat d.sequence.value)]

/-- Whether every worker has ended. -/
def idle (d : Daemon) : Bool := d.workers.all (·.2.isTerminal)

/-- Writes the sequence checkpoint when it moved; a failed write is only logged. -/
def checkpoint (d : Daemon) : Daemon :=
  let (store, _, sequence) := d.sequence.flush d.store
  { d with store, sequence }

/-- Lets time pass. -/
def elapse (ms : Nat) (d : Daemon) : Daemon := { d with now := d.now + ms * 1000000 }

/-- Publishes a batch through the sidecar, one instant after the last call. -/
def publish (d : Daemon) (sourceId : String) (batch : List Notification) :
    Daemon × Except RelayError Unit :=
  let d := { d with now := d.now + 1 }
  let (sidecar, r) := d.sidecar.publish Transport.unreachable d.now sourceId batch
  ({ d with sidecar }, r)

end Daemon

/-- The program fronted by its control plane: its sequence, sidecar and store. -/
instance : RelayHost Daemon where
  health d := d.healthJson
  ready _ := true
  wallMs d := d.wallMs
  nextSequence d := d.sequence.next.map fun (r, g) => (r, { d with sequence := g })
  publish d sourceId batch := let (d, r) := d.publish sourceId batch; (d, some r)
  forget d k := let (store, r) := d.store.delete k; ({ d with store }, r)

/-- The number of snapshot pages one reading may ask the feed for. -/
def snapshotPageBudget : Nat := 200

/-- The control plane of the running program: deprovisioning clears every partition's cursor
and the sequence checkpoint. -/
def Daemon.plane (d : Daemon) : ControlPlane Daemon :=
  ControlPlane.withDeprovision
    { host := d, sourceId := d.config.sourceId, pages := d.feed.pages Transport.unreachable,
      pageBudget := snapshotPageBudget }
    d.config.partitions

end ChangeRelay.Program
