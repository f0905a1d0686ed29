import ChangeRelay.Event.Mapping
import ChangeRelay.Relay.World
import ChangeRelay.Resilience.Retry
import ChangeRelay.Text.Quoted

/-!
# The sync worker

One worker runs per partition: it reads the partition's cursor from the store (a failure faults
the worker; no cursor means the source's initial cursor), then loops:

1. stop when shutdown was signalled;
2. retry writing a cursor whose write failed before;
3. take a token from the rate limiter, if there is one;
4. pull after the cursor. A fatal failure (configuration, credentials, internal) faults the
   worker; any other backs off by the retry schedule, counting consecutive failures until a pull
   succeeds.
5. An empty batch stores its next cursor when it moved, then the worker sleeps the poll interval.
   A batch with events must move the cursor, or the worker faults: it would pull the same events
   forever. Its events are mapped in order (unmappable ones and ones that map to nothing are
   dropped), stamped with sequence numbers and published, retrying with a fresh backoff until
   the publisher takes the batch; then the cursor is stored. A change to stamp waits for the
   sequence generator to be loaded, for ever if it never is. A failed write keeps the cursor in
   memory, and step 2 retries it.

Shutdown ends every wait (a sleep, a backoff, the limiter) but never a publish in flight. So a
stopped worker never leaves a published batch without trying to store its cursor.

A worker here is a resumable process: `Worker.run` runs it from where it stands until it has to
wait, and says for what.
-/

namespace ChangeRelay

/-- The lifecycle of a worker. -/
inductive WorkerState where
  | loading
  | streaming
  | faulted
  | stopped
  deriving DecidableEq, Inhabited, Repr

/-- The state's name. -/
def WorkerState.name : WorkerState → String
  | .loading => "Loading"
  | .streaming => "Streaming"
  | .faulted => "Faulted"
  | .stopped => "Stopped"

/-- Whether a worker in this state has ended. -/
def WorkerState.isTerminal : WorkerState → Bool
  | .faulted | .stopped => true
  | _ => false

/-- How a worker's run ended. -/
inductive WorkerExit where
  | stopped
  | faulted (e : RelayError)
  deriving Inhabited

/-- Where a worker resumes. -/
inductive Phase where
  /-- Before reading its cursor. -/
  | load
  /-- At the top of the loop. -/
  | top
  /-- About to pull, the limiter passed. -/
  | pull
  /-- About to offer a batch to the publisher, with the cursor after it and the backoff. -/
  | publish (batch : List Notification) (next : Option String) (backoff : Backoff)
  /-- In a call that never completes: a publish the publisher never answers, or a draw from a
  sequence generator that is not loaded. -/
  | hung
  | finished (exit : WorkerExit)
  /-- The run panicked, with a text payload or, for none, another payload. -/
  | panicked (payload : Option String)
  deriving Inhabited

/-- What a worker waits for. -/
inductive Wait where
  /-- A time, or shutdown if that comes first. -/
  | sleep (deadline : Nat)
  | forever
  | done
  deriving DecidableEq, Inhabited

/-- A worker and where it stands. -/
structure Worker where
  sourceId : String
  partition : String
  pollInterval : Duration
  retry : RetryPolicy
  state : WorkerState := .loading
  cursor : Option String := none
  /-- Whether the cursor moved in memory but its write failed. -/
  unpersisted : Bool := false
  backoff : Backoff
  phase : Phase := .load

namespace Worker

/-- A worker of a partition, before its run. -/
def new (sourceId partition : String) (pollInterval : Duration) (retry : RetryPolicy) : Worker :=
  { sourceId, partition, pollInterval, retry, backoff := Backoff.new retry }

/-- The topic batches go to. -/
def topic (w : Worker) : String := w.sourceId ++ "-change"

/-- The worker stopped. -/
def stop (w : Worker) : Worker := { w with state := .stopped, phase := .finished .stopped }

/-- The worker faulted on `e`. -/
def fault (w : Worker) (e : RelayError) : Worker :=
  { w with state := .faulted, phase := .finished (.faulted e) }

/-- Writes the cursor: whether the write failed, and the world after. -/
def persist (w : Worker) (world : World) (c : String) : Bool × World :=
  match world.store.set w.partition c with
  | (store, .ok ()) => (false, { world with store })
  | (store, .error _) => (true, { world with store })

/-- Maps one event of a batch and stamps its change onto the list so far: none when the change
waits for a sequence generator that is not loaded. -/
def stampStep (w : Worker) (batch : SourceBatch) :
    Except String (List Notification) × World → SourceEvent →
      Option (Except String (List Notification) × World) :=
  fun (acc, world) ev =>
    match acc with
    | .error m => some (.error m, world)
    | .ok ns =>
      match ev.toChange world.wallMs with
      | .ok (some c) =>
        match world.sequence.next with
        | some (.ok n, g) =>
          some (.ok (ns ++ [c.stamp n w.sourceId w.partition batch.nextCursor]),
            { world with sequence := g })
        | some (.error m, g) => some (.error m, { world with sequence := g })
        | none => none
      | _ => some (.ok ns, world)

/-- Maps the events of a batch and stamps the survivors; a sequence overflow panics, and none
means a survivor waits for ever for a sequence generator that is not loaded. -/
def stamp (w : Worker) (world : World) (batch : SourceBatch) :
    Option (Except String (List Notification) × World) :=
  batch.events.foldlM (w.stampStep batch) (.ok [], world)

/-- The fault of a batch with events that does not move the cursor. -/
def stalled (count : Nat) (cursor : Option String) : RelayError :=
  .config ("source returned " ++ toString count ++ " events without advancing the cursor past " ++
    Text.quotedOption cursor)

/-- Handles a batch with events that moves the cursor: publishes it, or goes on at once when
nothing in it maps. -/
def deliver (w : Worker) (world : World) (batch : SourceBatch) : Worker × World × Option Wait :=
  match w.stamp world batch with
  | none => ({ w with phase := .hung }, world, some Wait.forever)
  | some (.error m, world) => ({ w with phase := .panicked (some m) }, world, some Wait.done)
  | some (.ok [], world) =>
    match batch.nextCursor with
    | some next =>
      let (failed, world) := w.persist world next
      ({ w with unpersisted := failed, cursor := some next, phase := .top }, world, none)
    | none => ({ w with phase := .top }, world, none)
  | some (.ok ns, world) =>
    ({ w with phase := .publish ns batch.nextCursor (Backoff.new w.retry) }, world, none)

/-- The outcome of a step: the worker and world after, and what the worker waits for, or none
to go on at once. -/
abbrev Outcome := Worker × World × Option Wait

/-- Reads the cursor to start from. -/
def load (w : Worker) (world : World) : Outcome :=
  match world.store.get w.partition with
  | .error e => (w.fault e, world, some Wait.done)
  | .ok stored =>
    let cursor := match stored with
      | some c => some c
      | none => (world.source? w.partition).bind (·.initialCursor)
    ({ w with cursor, state := .streaming, phase := .top }, world, none)

/-- The top of the loop: shutdown, a pending cursor write, the rate limiter. -/
def top (w : Worker) (world : World) : Outcome :=
  if world.shutdown then (w.stop, world, some Wait.done)
  else
    let (w, world) := match w.unpersisted, w.cursor with
      | true, some c =>
        let (failed, world) := w.persist world c
        ({ w with unpersisted := failed }, world)
      | _, _ => (w, world)
    match world.limiter with
    | some l =>
      let (at_, l) := l.acquire world.now
      let world := { world with limiter := some l }
      if world.now < at_ then ({ w with phase := .pull }, world, some (Wait.sleep at_))
      else ({ w with phase := .pull }, world, none)
    | none => ({ w with phase := .pull }, world, none)

/-- Backs off after a failed pull. -/
def backOff (w : Worker) (world : World) : Outcome :=
  match w.backoff.next with
  | (.ok d, b) => ({ w with backoff := b, phase := .top }, world, some (Wait.sleep (world.now + d.nanos)))
  | (.error m, _) => ({ w with phase := .panicked (some m) }, world, some Wait.done)

/-- Handles an empty batch: stores a moved cursor, then sleeps the poll interval. -/
def idle (w : Worker) (world : World) (next : Option String) : Outcome :=
  let (w, world) := match next with
    | some c =>
      if w.cursor == some c then (w, world)
      else
        let (failed, world) := w.persist world c
        ({ w with unpersisted := failed, cursor := some c }, world)
    | none => (w, world)
  ({ w with phase := .top }, world, some (Wait.sleep (world.now + w.pollInterval.nanos)))

/-- Handles a batch that was pulled. -/
def received (w : Worker) (world : World) (batch : SourceBatch) : Outcome :=
  let w := { w with backoff := w.backoff.reset }
  if batch.isEmpty then w.idle world batch.nextCursor
  else
    match batch.nextCursor with
    | some next =>
      if w.cursor == some next then (w.fault (stalled batch.events.length w.cursor), world, some Wait.done)
      else w.deliver world batch
    | none => (w.fault (stalled batch.events.length w.cursor), world, some Wait.done)

/-- Pulls after the cursor. -/
def pullNext (w : Worker) (world : World) : Outcome :=
  if world.shutdown then (w.stop, world, some Wait.done)
  else
    match world.pull w.partition w.cursor with
    | (.panic p, world) => ({ w with phase := .panicked p }, world, some Wait.done)
    | (.fail e, world) => if e.isFatal then (w.fault e, world, some Wait.done) else w.backOff world
    | (.batch batch, world) => w.received world batch

/-- Offers a batch to the publisher; after it took the batch, stores the cursor. -/
def offer (w : Worker) (world : World) (ns : List Notification) (next : Option String)
    (b : Backoff) : Outcome :=
  match world.publish w.partition w.topic ns with
  | (.ok, world) =>
    match next with
    | some c =>
      let (failed, world) := w.persist world c
      ({ w with unpersisted := failed, cursor := some c, phase := .top }, world, none)
    | none => ({ w with phase := .top }, world, none)
  | (.hang, world) => ({ w with phase := .hung }, world, some Wait.forever)
  | (.fail, world) =>
    match b.next with
    | (.ok d, b) =>
      ({ w with phase := .publish ns next b }, world, some (Wait.sleep (world.now + d.nanos)))
    | (.error m, _) => ({ w with phase := .panicked (some m) }, world, some Wait.done)

/-- Takes one step from where the worker stands. -/
def step (w : Worker) (world : World) : Outcome :=
  match w.phase with
  | .load => w.load world
  | .top => w.top world
  | .pull => w.pullNext world
  | .publish ns next b => w.offer world ns next b
  | .hung => (w, world, some Wait.forever)
  | .finished _ => (w, world, some Wait.done)
  | .panicked _ => (w, world, some Wait.done)

/-- Runs the worker until it has to wait, for at most `fuel` steps. A sleep that would begin
after shutdown was signalled ends the run at once. -/
def run : Nat → Worker → World → Worker × World × Wait
  | 0, w, world => (w, world, .forever)
  | fuel + 1, w, world =>
    match w.step world with
    | (w, world, some (.sleep t)) =>
      if world.shutdown then (w.stop, world, .done) else (w, world, .sleep t)
    | (w, world, some wait) => (w, world, wait)
    | (w, world, none) => run fuel w world

/-- Resumes a worker that slept: shutdown, if signalled, ends the sleep and the run. -/
def wake (fuel : Nat) (w : Worker) (world : World) : Worker × World × Wait :=
  if world.shutdown then (w.stop, world, Wait.done) else run fuel w world

/-- How the run ended, once it has. -/
def exit? (w : Worker) : Option WorkerExit :=
  match w.phase with
  | .finished e => some e
  | .panicked p => some (.faulted (.internal ("worker panicked: " ++ p.getD "non-string panic payload")))
  | _ => none

end Worker

end ChangeRelay
