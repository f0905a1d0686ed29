import ChangeRelay.Command.Store
import ChangeRelay.Sequence

/-!
# Commands on the sequence generator

A generator on a store in memory that holds the request's `entries`, driven by steps: `load`,
`next`, `current`, `is_loaded` and `flush` by name, and the steps of the store commands as
objects, which work on the generator's store.
-/

namespace ChangeRelay.Command

open Store Decode

/-- Runs one step on a generator and its store. -/
def sequenceStep (g : Sequence) (b : Backend) (st : Json) : Sequence × Backend × Json :=
  match st with
  | .str "load" =>
    match g.load b with
    | .ok (n, g) => (g, b, Json.mkObj [("loaded", Json.ofNat n)])
    | .error e => (g, b, errorJson e)
  | .str "next" =>
    match g.next with
    | some (.ok n, g) => (g, b, Json.ofNat n)
    | some (.error m, g) => (g, b, (Refusal.halt m).toJson)
    | none => (g, b, Json.mkObj [("blocked", .bool true)])
  | .str "current" => (g, b, Json.ofNat g.value)
  | .str "is_loaded" => (g, b, .bool g.loaded)
  | .str "flush" =>
    match g.flush b with
    | (b, .ok w, g) => (g, b, Json.mkObj [("flushed", .bool w)])
    | (b, .error e, g) => (g, b, errorJson e)
  | .str other => (g, b, (Refusal.badInput ("unknown step '" ++ other ++ "'")).toJson)
  | st => let (b, r) := b.step st; (g, b, r)

/-- Runs the steps of a request on a fresh generator. -/
def sequenceSteps (req : Json) : Answer := do
  let entries ← entriesOf req "entries"
  let steps ← option req "steps" (list value) []
  let (_, _, results) := steps.foldl (fun (g, b, rs) st =>
    let (g, b, r) := sequenceStep g b st
    (g, b, rs ++ [r])) (({} : Sequence), Backend.memory (MemoryStore.ofPairs entries), ([] : List Json))
  return Json.mkObj [("results", .arr results)]

end ChangeRelay.Command
