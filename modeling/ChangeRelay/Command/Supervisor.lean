import ChangeRelay.Command.Worker
import ChangeRelay.Relay.Supervisor
import ChangeRelay.Text.Quoted

/-!
# Commands on the supervisor

A supervisor over scripted sources (by default one idle source per partition), a publisher that
follows a list of deliveries and a store in memory, driven by steps: `start`, `shutdown`,
`health`, `state`, `sleep`, `run_until`, `store` and the store's failure switches. A source whose
script is used up answers empty batches for ever.

Sequence numbers are left out of the published changes: which partition gets which number
depends on the order the workers run in.
-/

namespace ChangeRelay.Command

open Decode Store

/-- The events the scheduler handles in one step of a command, at most. -/
def eventFuel : Nat := 1000000

/-- A source of the request. -/
def sourceOf (j : Json) : Except Refusal ScriptedSource := do
  let partition ← input j "partition" string
  let script ← (← option j "script" (list value) []).mapM cueOf
  let initialCursor ← option j "initial_cursor" (Decode.option string) none
  pure { partition, initialCursor, script }

/-- The configuration a request gives, or the one for tests. -/
def supervisorConfigOf (req : Json) : Except Refusal RelayConfig := do
  match req.field? "config" with
  | some j =>
    if j.isNull then pure (RelayConfig.forTesting "src" ["p0"])
    else typed (Form.decode RelayConfig.form "struct ReactivatorConfig") j
  | none =>
    let sourceId ← option req "source_id" string "src"
    let partitions ← option req "partitions" (list string) ["p0"]
    pure (RelayConfig.forTesting sourceId partitions)

/-- Builds the supervisor a request describes, refusing a configuration that cannot run and
sources that do not match its partitions one to one. -/
def supervisorOf (now : Nat) (req : Json) : Except Refusal Supervisor := do
  let config ← supervisorConfigOf req
  let sources ← match req.field? "sources" with
    | none | some .null => pure (config.partitions.map fun p => ({ partition := p } : ScriptedSource))
    | some j => (← typed (list value) j).mapM sourceOf
  let deliveries ← (← option req "publish" (list value) []).mapM deliveryOf
  let entries ← entriesOf req "store"
  let budget := 16 * (sources.foldl (fun n s => n + s.script.length) 0 + deliveries.length + 4)
  let world : World :=
    { wallMs := now, store := MemoryStore.ofPairs entries, deliveries, sources,
      stopWhenDone := false }
  match Supervisor.new config world budget with
  | .ok s => pure s
  | .error e => throw (.relay e)

/-- The state as a report. -/
def stateJson (s : Supervisor) : Json := Json.mkObj [("state", .str s.state.name)]

/-- A step's name and its object: a bare name stands for `{op: name}`. -/
def stepOf (st : Json) : String × Json :=
  match st with
  | .str name => (name, Json.mkObj [("op", .str name)])
  | _ => (textOf st "op", st)

/-- Runs one step of a supervisor command. -/
def supervisorStep (s : Supervisor) (st : Json) : Except Refusal (Supervisor × Json) := do
  let (name, body) := stepOf st
  match name with
  | "start" =>
    let (s, r) := s.start
    pure (s, Json.mkObj [("result", outcomeJson r), ("state", .str s.state.name)])
  | "shutdown" =>
    let s := s.shutdown eventFuel
    pure (s, stateJson s)
  | "health" => pure (s, s.healthJson)
  | "state" => pure (s, stateJson s)
  | "sleep" =>
    let ms ← option body "ms" u64 0
    let s := s.pause eventFuel ms
    pure (s, Json.mkObj [("at_ms", Json.ofNat (millis s.world.now))])
  | "run_until" =>
    let ms ← option body "ms" u64 1000
    let (s, r) := s.runUntil (s.world.now + ms * 1000000) eventFuel
    pure (s, Json.mkObj [("result", outcomeJson r), ("state", .str s.state.name),
      ("at_ms", Json.ofNat (millis s.world.now))])
  | "store" => pure (s, entriesJson s.world.store.list)
  | "fail_reads" =>
    let v ← option body "value" bool false
    pure ({ s with world := { s.world with store := { s.world.store with failReads := v } } }, .null)
  | "fail_writes" =>
    let v ← option body "value" bool false
    pure ({ s with world := { s.world with store := { s.world.store with failWrites := v } } }, .null)
  | other => throw (.badInput ("unknown supervisor step '" ++ other ++ "'"))

/-- A published change as reported, without its sequence number. -/
def unnumbered (n : Notification) : Json :=
  match n.toJson with
  | .obj fs => .obj (Json.Fields.erase "sequence" fs)
  | j => j

/-- Drops consecutive repeats. -/
def collapse : List (Option String) → List (Option String)
  | a :: b :: rest => if a == b then collapse (b :: rest) else a :: collapse (b :: rest)
  | xs => xs

/-- The pulls of each partition, repeats collapsed. -/
def pullsJson (s : Supervisor) : Json :=
  .obj (s.world.sources.map fun src =>
    (src.partition, .arr ((collapse ((s.world.pulls.filter (·.partition == src.partition)).map
      (·.cursor))).map Json.ofOption)))

/-- The changes each partition published. -/
def publishedJson (s : Supervisor) : Json :=
  let parts := s.world.published.foldl (fun ps (p, _) => if ps.contains p then ps else ps ++ [p]) []
  .obj (parts.map fun p =>
    (p, .arr ((s.world.published.filter (·.1 == p)).flatMap fun (_, ns) => ns.map unnumbered)))

/-- Runs the steps of a request on the supervisor it describes. -/
def supervisorRun (now : Nat) (req : Json) : Answer := do
  let s ← supervisorOf now req
  let steps ← option req "steps" (list value) []
  let (s, results) ← steps.foldlM (fun (s, rs) st => do
    let (s, r) ← supervisorStep s st
    pure (s, rs ++ [r])) (s, ([] : List Json))
  return Json.mkObj [("steps", .arr results), ("final", s.healthJson), ("published", publishedJson s),
    ("pulls", pullsJson s), ("store", entriesJson s.world.store.list)]

end ChangeRelay.Command
