import ChangeRelay.Command.Store
import ChangeRelay.Config.Check
import ChangeRelay.Relay.Worker

/-!
# Commands on a worker

A worker of one partition runs against a scripted source, a publisher that follows a list of
deliveries, and a store in memory shared with the sequence generator (loaded before the run). The
source asks the worker to stop once its script is used up, so the run ends; the answer tells how,
with the pulls and publish attempts as they happened in virtual time.
-/

namespace ChangeRelay.Command

open Decode Store

/-- A script step of a source. -/
def cueOf (j : Json) : Except Refusal Cue := do
  let failReads ← option j "fail_reads" (Decode.option bool) none
  let failWrites ← option j "fail_writes" (Decode.option bool) none
  let reply ← match j.field? "batch", j.field? "fail" with
    | some b, _ => Reply.batch <$> typed SourceBatch.decode b
    | none, some f => Reply.fail <$> errorOf f
    | none, none =>
      match j.field? "panic", j.field? "panic_static", j.field? "panic_any" with
      | some m, _, _ => pure (Reply.panic (some (m.str?.getD "")))
      | none, some _, _ => pure (Reply.panic (some "scripted static panic"))
      | none, none, some _ => pure (Reply.panic none)
      | none, none, none => throw (.badInput "unknown script step")
  pure { reply, failReads, failWrites }

/-- A publish outcome: `true`, `false` or `"hang"`. -/
def deliveryOf : Json → Except Refusal Delivery
  | .bool true => .ok .ok
  | .bool false => .ok .fail
  | .str "hang" => .ok .hang
  | _ => .error (.badInput "unknown publish outcome")

/-- Milliseconds of virtual time. -/
def millis (nanos : Nat) : Nat := nanos / 1000000

/-- A pull as a report. -/
def pullJson (p : PullRecord) : Json :=
  Json.mkObj [("at_ms", Json.ofNat (millis p.at_)), ("cursor", Json.ofOption p.cursor),
    ("stored", Json.ofOption p.stored)]

/-- A delivery as a report member. -/
def deliveryJson : Delivery → Json
  | .ok => .bool true
  | .fail => .bool false
  | .hang => .str "hang"

/-- A publish attempt as a report. -/
def attemptJson (a : Attempt) : Json :=
  Json.mkObj [("at_ms", Json.ofNat (millis a.at_)), ("topic", .str a.topic),
    ("ok", deliveryJson a.delivery), ("sequences", .arr (a.sequences.map Json.ofNat))]

/-- How a run ended, as a report member. -/
def exitJson : Option WorkerExit → Json
  | some .stopped => .str "Stopped"
  | some (.faulted e) => Json.mkObj [("Faulted", errorJson e)]
  | none => .null

/-- Runs a worker alone, sleeping through its waits, for at most `fuel` waits. -/
def runAlone (budget : Nat) : Nat → Worker → World → Wait → Worker × World
  | 0, w, world, _ => (w, world)
  | fuel + 1, w, world, .sleep t =>
    let world := { world with now := max world.now t }
    let (w, world, wait) := Worker.wake budget w world
    runAlone budget fuel w world wait
  | _ + 1, w, world, _ => (w, world)

/-- Runs the worker a request describes. -/
def workerRun (now : Nat) (req : Json) : Answer := do
  let cues ← (← option req "script" (list value) []).mapM cueOf
  let deliveries ← (← option req "publish" (list value) []).mapM deliveryOf
  let entries ← entriesOf req "store"
  let initial ← option req "initial_cursor" (Decode.option string) none
  let partition ← option req "partition" string "p0"
  let sourceId ← option req "source_id" string "src"
  let settings ← option req "config" (Form.decode WorkerSettings.form "struct WorkerConfig") {}
  let failReads ← option req "fail_reads" bool false
  let failWrites ← option req "fail_writes" bool false
  let describe ← option req "describe" bool false
  let limit ← match req.field? "rate_limit" with
    | none | some .null => pure none
    | some j => do
      let burst ← input j "burst" u32
      let refill ← input j "refill" u32
      pure (some (Limiter.new ⟨burst, refill⟩))
  let store := MemoryStore.ofPairs entries
  let (_, sequence) ← relayed (({} : Sequence).load store)
  let world : World :=
    { wallMs := now, store := { store with failReads, failWrites }, sequence, limiter := limit,
      deliveries, sources := [{ partition, initialCursor := initial, script := cues }],
      stopWhenDone := true }
  let w := Worker.new sourceId partition settings.pollDuration settings.retryPolicy
  let budget := 16 * (cues.length + deliveries.length + 4)
  let (w, world, wait) := Worker.run budget w world
  let (w, world) := runAlone budget budget w world wait
  if let .panicked p := w.phase then
    throw (.halt (p.getD "non-string panic payload"))
  let described := if describe then
    [("initial_state", Json.str WorkerState.loading.name), ("partition", Json.str partition)]
    else []
  return Json.mkObj ([("exit", exitJson w.exit?), ("state", .str w.state.name),
    ("end_ms", Json.ofNat (millis world.now)), ("pulls", .arr (world.pulls.map pullJson)),
    ("publish_attempts", .arr (world.attempts.map attemptJson)),
    ("published", .arr (world.published.map fun (_, ns) => .arr (ns.map Notification.toJson))),
    ("store", entriesJson world.store.list), ("sequence", Json.ofNat world.sequence.value)] ++
    described)

end ChangeRelay.Command
