import ChangeRelay.Command.Graph
import ChangeRelay.Command.Config
import ChangeRelay.Command.Resilience
import ChangeRelay.Command.Sequence
import ChangeRelay.Command.Bootstrap
import ChangeRelay.Command.Supervisor
import ChangeRelay.Command.Server
import ChangeRelay.Command.Network
import ChangeRelay.Command.Program

/-!
# Running a command

`Command.run` answers one request object by the operation its `op` names, in an environment
that gives the wall clock (the time of events received and of control changes) and the port of
the loopback server.
-/

namespace ChangeRelay.Command

/-- The operations by name. -/
def operations (env : Environment) : List (String × (Json → Answer)) :=
  let now := env.wallMs
  [("map", mapEvent), ("map_change", mapChange), ("notification", readNotification),
    ("entity", readEntity), ("subscription", readSubscription), ("shape", checkShape),
    ("edge_id", deriveEdgeId), ("snapshot", buildSnapshot), ("error", describeError),
    ("config", explainConfig), ("retry", retryDelays), ("backoff", backoffSteps),
    ("rate_limiter", rateLimiter), ("circuit", circuitCalls), ("cursor_store", cursorStore now),
    ("sequence", sequenceSteps), ("bootstrap", bootstrapSnapshot),
    ("worker", workerRun now), ("supervisor", supervisorRun now), ("server", serverRun now),
    ("feed", feedRun env), ("dapr", daprRun env), ("cli", programRun env)]

/-- The report on a request, or its refusal as a report. -/
def run (env : Environment) (req : Json) : Json :=
  let name := textOf req "op"
  match (operations env).find? (·.1 == name) with
  | some (_, f) =>
    match f req with
    | .ok j => j
    | .error r => r.toJson
  | none => (Refusal.badInput ("unknown op '" ++ name ++ "'")).toJson

end ChangeRelay.Command
