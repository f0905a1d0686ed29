import ChangeRelay.Config.Check
import ChangeRelay.Relay.Worker

/-!
# The supervisor

The supervisor owns everything that streams: one worker per partition, the task that checkpoints
the sequence counter, and the shutdown signal they share.

* `new` builds the supervisor of a configuration that can run, over sources that cover its
  partitions one to one.
* `start` (only from `Created`) loads the sequence checkpoint (a failure leaves the supervisor
  `Failed`), then starts the checkpoint task and the workers, and is `Running`.
* `runUntil` supervises until a deadline, a fatal fault of a worker (a worker that panicked
  counts as an internal fault), or until every worker has ended; a worker that faults on a
  transient error is left to itself. It always ends by draining: `Failed` after a fatal fault,
  `Stopped` otherwise.
* Draining signals shutdown, waits up to the shutdown timeout for the workers, abandons the ones
  still running (a worker stuck in a publish keeps its last state), lets the checkpoint task write
  its final checkpoint and checkpoints once more.

Every change of state is announced on the state channel, which keeps them in order
(`announced`): `start` announces `Starting`, then `Running` or `Failed`; draining announces
`ShuttingDown`, and the call that drained announces how it ended.

The tasks run in virtual time on one thread, as a cooperative scheduler runs them: a task runs
until it has to wait; tasks that are ready run in the order they became ready; a sleeping task is
woken at its deadline, tasks with the same deadline in the order they went to sleep; the
shutdown signal wakes every sleeping task in the order they went to sleep. The supervisor itself
(the caller) is resumed before the tasks that wake at the same instant as it does.
-/

namespace ChangeRelay

/-- The lifecycle of the supervisor. -/
inductive SupervisorState where
  | created
  | starting
  | running
  | shuttingDown
  | stopped
  | failed
  deriving DecidableEq, Inhabited, Repr

namespace SupervisorState

/-- The state's name. -/
def name : SupervisorState → String
  | .created => "Created"
  | .starting => "Starting"
  | .running => "Running"
  | .shuttingDown => "ShuttingDown"
  | .stopped => "Stopped"
  | .failed => "Failed"

/-- Whether no further transition happens. -/
def isFinal : SupervisorState → Bool
  | .stopped | .failed => true
  | _ => false

end SupervisorState

/-- A task of the scheduler. -/
inductive TaskId where
  | checkpoint
  | worker (i : Nat)
  deriving DecidableEq, Inhabited

/-- A sleeping task: its deadline, and when it went to sleep among the others. -/
structure Timer where
  deadline : Nat
  order : Nat
  task : TaskId

/-- Where the checkpoint task stands. -/
inductive CheckpointTask where
  /-- Not started. -/
  | absent
  /-- Started, not yet run. -/
  | fresh
  /-- Waiting for the tick at `next`, or shutdown. -/
  | waiting (next : Nat)
  | done
  deriving DecidableEq, Inhabited

/-- The supervisor, its workers and the scheduler they run on. -/
structure Supervisor where
  state : SupervisorState := .created
  /-- The states announced on the state channel since the supervisor was built, in order. -/
  announced : List SupervisorState := []
  world : World
  /-- The workers, in the order of their sources. -/
  workers : List Worker
  flushInterval : Duration
  shutdownTimeout : Duration
  /-- The workers started and not yet collected or abandoned. -/
  running : List Nat := []
  /-- Workers that ended, in the order they ended, not yet collected. -/
  exits : List (Nat × WorkerExit) := []
  checkpoint : CheckpointTask := .absent
  queue : List TaskId := []
  timers : List Timer := []
  /-- How many sleeps were registered so far, to order timers with the same deadline. -/
  sleeps : Nat := 0
  /-- The steps a task may take before it has to wait. -/
  budget : Nat

namespace Supervisor

/-- The texts in ascending order. -/
def sortedTexts (xs : List String) : List String := xs.mergeSort fun a b => decide (a ≤ b)

/-- The supervisor of a configuration over a world whose sources follow the partitions: one
worker per source, in the order of the sources, pulls throttled as the configuration says, and
at most `budget` steps for a task before it has to wait. Refuses a configuration that cannot run,
and sources that do not cover the configured partitions one to one. -/
def new (config : RelayConfig) (world : World) (budget : Nat) : Except RelayError Supervisor := do
  if let some e := config.validate then throw e
  let provided := sortedTexts (world.sources.map (·.partition))
  let configured := sortedTexts config.partitions
  if provided != configured then
    throw (.config ("sources " ++ Text.quotedList provided ++
      " do not match configured partitions " ++ Text.quotedList configured))
  pure {
    world := { world with limiter := config.rateLimit.map Limiter.new }
    workers := world.sources.map fun src =>
      Worker.new config.sourceId src.partition config.pollInterval config.retryPolicy
    flushInterval := config.flushInterval
    shutdownTimeout := config.shutdownTimeout
    budget }

/-- Moves to a state and announces it on the state channel. -/
def setState (s : Supervisor) (state : SupervisorState) : Supervisor :=
  { s with state, announced := s.announced ++ [state] }

/-- The worker at position `i`. -/
def worker? (s : Supervisor) (i : Nat) : Option Worker := s.workers[i]?

/-- Replaces the worker at position `i`. -/
def setWorker (s : Supervisor) (i : Nat) (w : Worker) : Supervisor :=
  { s with workers := s.workers.set i w }

/-- Puts a task to sleep until `deadline`. -/
def sleep (s : Supervisor) (task : TaskId) (deadline : Nat) : Supervisor :=
  { s with timers := s.timers ++ [⟨deadline, s.sleeps, task⟩], sleeps := s.sleeps + 1 }

/-- Writes the checkpoint when the counter moved; a failure is only logged. -/
def flushSequence (s : Supervisor) : Supervisor :=
  let (store, _, sequence) := s.world.sequence.flush s.world.store
  { s with world := { s.world with store, sequence } }

/-- Runs the checkpoint task until it waits again. -/
def runCheckpoint (s : Supervisor) : Supervisor :=
  match s.checkpoint with
  | .fresh =>
    let s := s.flushSequence
    let next := s.world.now + s.flushInterval.nanos
    { s.sleep .checkpoint next with checkpoint := .waiting next }
  | .waiting next =>
    if s.world.shutdown then { s.flushSequence with checkpoint := .done }
    else
      let s := s.flushSequence
      let next := next + s.flushInterval.nanos
      { s.sleep .checkpoint next with checkpoint := .waiting next }
  | _ => s

/-- The worker as its task reports it: the task catches a panic of the run and marks the worker
`Faulted`. -/
def reported (w : Worker) : Worker :=
  match w.phase with
  | .panicked _ => { w with state := .faulted }
  | _ => w

/-- The task of a worker: runs it until it waits again, from its start or after a sleep. -/
def workerTask (fuel : Nat) (w : Worker) (world : World) : Worker × World × Wait :=
  let r := match w.phase with
    | .load => Worker.run fuel w world
    | _ => Worker.wake fuel w world
  (reported r.1, r.2.1, r.2.2)

/-- Leaves the task of worker `i`, whose worker is now `w`, as its run ended: asleep until a
deadline, waiting for ever, or ended with its exit recorded. -/
def park (s : Supervisor) (i : Nat) (w : Worker) : Wait → Supervisor
  | .sleep t => s.sleep (.worker i) t
  | .forever => s
  | .done =>
    match w.exit? with
    | some e => { s with exits := s.exits ++ [(i, e)] }
    | none => s

/-- Runs worker `i` until it waits again. -/
def runWorker (s : Supervisor) (i : Nat) : Supervisor :=
  match s.worker? i with
  | none => s
  | some w =>
    let (w, world, wait) := workerTask s.budget w s.world
    { s.setWorker i w with world }.park i w wait

/-- Runs one task. -/
def runTask (s : Supervisor) : TaskId → Supervisor
  | .checkpoint => s.runCheckpoint
  | .worker i => s.runWorker i

/-- Runs the ready tasks, and the ones they make ready, for at most `fuel` tasks. -/
def settle : Nat → Supervisor → Supervisor
  | 0, s => s
  | fuel + 1, s =>
    match s.queue with
    | [] => s
    | t :: rest => settle fuel ({ s with queue := rest }.runTask t)

/-- The earliest deadline of a sleeping task. -/
def nextDeadline? (s : Supervisor) : Option Nat :=
  s.timers.foldl (fun acc t => some (match acc with
    | some d => min d t.deadline
    | none => t.deadline)) none

/-- Moves the clock to `d` and wakes the tasks sleeping until then, in the order they slept. -/
def wakeAt (s : Supervisor) (d : Nat) : Supervisor :=
  let due := (s.timers.filter (·.deadline ≤ d)).mergeSort fun a b => decide (a.order ≤ b.order)
  { s with
    world := { s.world with now := max s.world.now d }
    timers := s.timers.filter (d < ·.deadline)
    queue := s.queue ++ due.map (·.task) }

/-- Signals shutdown: every sleeping task wakes, in the order they slept. -/
def signalShutdown (s : Supervisor) : Supervisor :=
  let due := s.timers.mergeSort fun a b => decide (a.order ≤ b.order)
  { s with
    world := { s.world with shutdown := true }
    timers := []
    queue := s.queue ++ due.map (·.task) }

/-- Runs the tasks until the clock would pass `deadline`; the caller resumes at `deadline`. -/
def sleepUntil (deadline : Nat) : Nat → Supervisor → Supervisor
  | 0, s => s
  | fuel + 1, s =>
    let s := settle s.budget s
    match s.nextDeadline? with
    | some d =>
      if d < deadline then sleepUntil deadline fuel (s.wakeAt d)
      else { s with world := { s.world with now := max s.world.now deadline } }
    | none => { s with world := { s.world with now := max s.world.now deadline } }

/-- Whether every started worker has been collected. -/
def allCollected (s : Supervisor) : Bool := s.running.isEmpty

/-- Collects the workers of `ended` in order, until a fatal fault: the fault, if one. -/
def collectFrom (s : Supervisor) : List (Nat × WorkerExit) → Supervisor × Option RelayError
  | [] => ({ s with exits := [] }, none)
  | (i, e) :: rest =>
    let s := { s with running := s.running.filter (· != i) }
    match e with
    | .faulted err => if err.isFatal then ({ s with exits := rest }, some err) else s.collectFrom rest
    | .stopped => s.collectFrom rest

/-- Collects ended workers in the order they ended, until a fatal fault: the fault, if one. -/
def collect (s : Supervisor) : Supervisor × Option RelayError := s.collectFrom s.exits

/-- Drains: signals shutdown, waits for the workers up to the timeout, abandons the rest, and
checkpoints. -/
def drain (fuel : Nat) (s : Supervisor) : Supervisor :=
  let s := s.signalShutdown.setState .shuttingDown
  let deadline := s.world.now + s.shutdownTimeout.nanos
  let rec wait : Nat → Supervisor → Supervisor
    | 0, s => s
    | fuel + 1, s =>
      let s := settle s.budget s
      let s := { s with running := s.running.filter fun i => !s.exits.any (·.1 == i), exits := [] }
      if s.allCollected then s
      else
        match s.nextDeadline? with
        | some d => if d < deadline then wait fuel (s.wakeAt d) else
            { s with world := { s.world with now := max s.world.now deadline } }
        | none => { s with world := { s.world with now := max s.world.now deadline } }
  let s := wait fuel s
  let s := { s with running := [], queue := s.queue.filter (· == .checkpoint) }
  let s := settle s.budget s
  let s := if s.checkpoint == .absent then s else { s with checkpoint := .done }
  s.flushSequence

/-- Starts the supervisor: loads the checkpoint, then starts the checkpoint task and the workers. -/
def start (s : Supervisor) : Supervisor × Option RelayError :=
  if s.state != .created then
    (s, some (.invalidState "Created" s.state.name))
  else
    let s := s.setState .starting
    match s.world.sequence.load s.world.store with
    | .error e => (s.setState .failed, some e)
    | .ok (_, sequence) =>
      let n := s.workers.length
      ({ s with
          world := { s.world with sequence }
          checkpoint := .fresh
          running := List.range n
          queue := s.queue ++ [TaskId.checkpoint] ++ (List.range n).map TaskId.worker }.setState .running,
        none)

/-- Supervises until `deadline`, a fatal fault or the end of every worker, then drains. -/
def runUntil (deadline fuel : Nat) (s : Supervisor) : Supervisor × Option RelayError :=
  let rec go : Nat → Supervisor → Supervisor × Option RelayError
    | 0, s => (s, none)
    | fuel + 1, s =>
      let s := settle s.budget s
      match s.collect with
      | (s, some e) => (s, some e)
      | (s, none) =>
        if s.allCollected then (s, none)
        else
          match s.nextDeadline? with
          | some d =>
            if d < deadline then go fuel (s.wakeAt d)
            else ({ s with world := { s.world with now := max s.world.now deadline } }, none)
          | none => ({ s with world := { s.world with now := max s.world.now deadline } }, none)
  let (s, fault) := go fuel s
  let s := drain fuel s
  match fault with
  | some e => (s.setState .failed, some e)
  | none => (s.setState .stopped, none)

/-- Shuts down, unless the supervisor already reached a final state. -/
def shutdown (fuel : Nat) (s : Supervisor) : Supervisor :=
  if s.state.isFinal then s else (drain fuel s).setState .stopped

/-- Whether the supervisor is ready: running. -/
def ready (s : Supervisor) : Bool := s.state == .running

/-- The health of the supervisor: its state, whether it is ready, each worker's state in the
order of the sources, and the last sequence number given out. -/
def healthJson (s : Supervisor) : Json :=
  Json.mkObj [("state", .str s.state.name), ("ready", .bool s.ready),
    ("workers", .arr (s.workers.map fun w =>
      Json.mkObj [("partition", .str w.partition), ("state", .str w.state.name)])),
    ("sequence", Json.ofNat s.world.sequence.value)]

/-- Lets the tasks run for `ms` milliseconds. -/
def pause (fuel ms : Nat) (s : Supervisor) : Supervisor :=
  sleepUntil (s.world.now + ms * 1000000) fuel s

end Supervisor

end ChangeRelay
