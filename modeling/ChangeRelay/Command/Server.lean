import ChangeRelay.Command.Supervisor
import ChangeRelay.Command.Bootstrap
import ChangeRelay.Relay.ControlPlane
import ChangeRelay.Json.Text

/-!
# Commands on the control plane

The control plane over a supervisor as the `supervisor` command builds it, a snapshot source of
pages as the `bootstrap` command reads them, and the publisher and store of the supervisor's
world. A step with a `path` is an HTTP request; the other steps are the supervisor's.

A request that gets no response within a minute of virtual time is given up: the tasks run for
that minute, and the step answers `{"timeout": true}`.
-/

namespace ChangeRelay.Command

open Decode Http

/-- How long a request may wait for its response, in milliseconds. -/
def requestTimeoutMs : Nat := 60000

/-- The HTTP request of a step: a `json` body is sent as JSON text, with its content type unless
the step names one. -/
def requestOf (st : Json) : Except Refusal Request := do
  let method ← option st "method" string "GET"
  let target ← input st "path" string
  let contentType ← option st "content_type" (Decode.option string) none
  match st.field? "json" with
  | some j =>
    pure { method, target, contentType := contentType.orElse fun _ => some "application/json",
           body := j.render }
  | none =>
    let body ← option st "body" string ""
    pure { method, target, contentType, body }

/-- A response as a report: its status, content type and body, and the error that broke a
stream off. -/
def responseJson (r : Response) : Json :=
  let head := [("status", Json.ofNat r.status), ("content_type", Json.ofOption r.contentType)]
  match r.body with
  | .empty => Json.mkObj (head ++ [("body", .str "")])
  | .text s => Json.mkObj (head ++ [("body", .str s)])
  | .json j => Json.mkObj (head ++ [("body", j)])
  | .lines items broken =>
    Json.mkObj (head ++ [("body", .arr items)] ++ (broken.map fun m => ("stream_error", Json.str m)).toList)

/-- Runs one step on the control plane. -/
def serverStep (c : ControlPlane Supervisor) (st : Json) :
    Except Refusal (ControlPlane Supervisor × Json) := do
  if (st.field? "path").isSome then
    let req ← requestOf st
    match c.handle req with
    | (c, .response r) => pure (c, responseJson r)
    | (c, .pending) =>
      let s := c.host.pause eventFuel requestTimeoutMs
      pure ({ c with host := s }, Json.mkObj [("timeout", .bool true)])
    | (c, .panic m) => pure (c, (Refusal.halt m).toJson)
  else
    let (s, r) ← supervisorStep c.host st
    pure ({ c with host := s }, r)

/-- Runs the steps of a request on the control plane it describes. -/
def serverRun (now : Nat) (req : Json) : Answer := do
  let s ← supervisorOf now req
  let fields ← option req "pages" object []
  let pages ← fields.mapM fun (k, v) => do pure (k, ← pageOf v)
  let sourceId ← option req "source_id" string "src"
  let persisted ← option req "deprovision" (Decode.option (list string)) none
  let loadSequence ← option req "load_sequence" bool false
  let s ← if loadSequence then
      match s.world.sequence.load s.world.store with
      | .ok (_, g) => pure { s with world := { s.world with sequence := g } }
      | .error e => throw (.relay e)
    else pure s
  let c : ControlPlane Supervisor :=
    { host := s, sourceId, pages := pageSource pages, pageBudget := pageLimit + 1 }
  let c := match persisted with
    | some partitions => c.withDeprovision partitions
    | none => c
  let steps ← option req "steps" (list value) []
  let (c, results) ← steps.foldlM (fun (c, rs) st => do
    let (c, r) ← serverStep c st
    pure (c, rs ++ [r])) (c, ([] : List Json))
  let world := c.host.world
  return Json.mkObj [("steps", .arr results),
    ("published", .arr (world.published.map fun (_, ns) => .arr (ns.map Notification.toJson))),
    ("publish_attempts", Json.ofNat world.attempts.length), ("page_calls", callsJson c.pageCalls),
    ("store", entriesJson world.store.list), ("sequence", Json.ofNat world.sequence.value)]

end ChangeRelay.Command
