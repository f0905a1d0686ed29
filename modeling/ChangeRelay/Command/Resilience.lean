import ChangeRelay.Command.Basic
import ChangeRelay.Resilience.Retry
import ChangeRelay.Resilience.RateLimit
import ChangeRelay.Resilience.Circuit

/-!
# Commands on the resilience tools

Commands that compute retry schedules, drive a backoff counter, take tokens from a rate limiter
and run calls through a circuit breaker.
-/

namespace ChangeRelay.Command

open Decode

/-- A delay as a report member, or the fault that stopped computing it. -/
def delayJson : Except String Duration → Json
  | .ok d => d.toJson
  | .error m => (Refusal.halt m).toJson

/-- The retry schedule a request describes. -/
def policyOf (req : Json) : Except Refusal RetryPolicy := do
  let initial ← option req "initial_ns" u64 1000000000
  let ceiling ← option req "max_ns" u64 300000000000
  let factor ← option req "factor" float 2.0
  return ⟨⟨initial⟩, ⟨ceiling⟩, factor⟩

/-- The waits before each of `attempts`. -/
def retryDelays (req : Json) : Answer := do
  let p ← policyOf req
  let attempts ← input req "attempts" (list u64)
  return Json.mkObj [("delays", .arr (attempts.map fun a => delayJson (p.delayFor a)))]

/-- Runs one backoff step. -/
def backoffStep (b : Backoff) : String → Except Refusal (Json × Backoff)
  | "next" => let (d, b) := b.next; .ok (delayJson d, b)
  | "reset" => .ok (.null, b.reset)
  | "attempts" => .ok (Json.ofNat b.attempts, b)
  | other => .error (.badInput ("unknown step '" ++ other ++ "'"))

/-- Drives a backoff counter through `steps`. -/
def backoffSteps (req : Json) : Answer := do
  let p ← policyOf req
  let steps ← input req "steps" (list string)
  let (results, _) ← steps.foldlM (fun (acc, b) s => do
    let (j, b) ← backoffStep b s
    pure (acc ++ [j], b)) (([] : List Json), Backoff.new p)
  return Json.mkObj [("results", .arr results)]

/-- Takes `acquire` tokens waiting, then tries `count` more at once. -/
def rateLimiter (req : Json) : Answer := do
  let standard ← option req "default" bool false
  let limit ← if standard then pure ({} : RateLimit) else do
    let burst ← input req "burst" u32
    let refill ← input req "refill" u32
    pure (⟨burst, refill⟩ : RateLimit)
  let waited ← option req "acquire" (Decode.option u64) none
  let count ← input req "count" u64
  let l := (List.range (waited.getD 0)).foldl (fun l _ => (l.acquire 0).2) (Limiter.new limit)
  let (acquired, _) := l.checkMany 0 count
  let base := [("acquired", Json.arr (acquired.map Json.bool))]
  return Json.mkObj (base ++ (waited.map fun n => ("acquired_async", Json.ofNat n)).toList)

/-- A call's outcome as a report member. -/
def callJson : CallOutcome String Unit → Json
  | .ran (.ok ()) => Json.mkObj [("result", .str "ok"), ("ran", .bool true)]
  | .ran (.error e) => Json.mkObj [("result", .str "inner"), ("ran", .bool true),
      ("display", .str ("operation failed: " ++ e)), ("inner", .str e)]
  | .rejected => Json.mkObj [("result", .str "rejected"), ("ran", .bool false),
      ("display", .str "circuit breaker open, request rejected")]

/-- The recovery time a request names. -/
def recoveryOf : String → Except Refusal Duration
  | "long" => .ok (.ofSecs 3600)
  | "zero" => .ok ⟨0⟩
  | other => .error (.badInput ("unknown recovery '" ++ other ++ "'"))

/-- Runs `calls` through a breaker, the breaker's clock ticking once a call. -/
def circuitCalls (req : Json) : Answer := do
  let standard ← option req "default" bool false
  let settings ← if standard then pure ({} : CircuitSettings) else do
    let failures ← input req "failure_threshold" u32
    let successes ← input req "success_threshold" u32
    let recovery ← recoveryOf (textOf req "recovery")
    pure (⟨failures, successes, recovery⟩ : CircuitSettings)
  let name ← option req "name" string "c"
  let calls ← input req "calls" (list string)
  let results ← calls.mapM fun c => match c with
    | "ok" => pure (Except.ok ())
    | "err" => pure (Except.error "boom")
    | other => throw (Refusal.badInput ("unknown call '" ++ other ++ "'"))
  let (outcomes, _, circuit) := results.foldl (fun (acc, tick, c) r =>
    let (o, c) := c.call tick r
    (acc ++ [callJson o], tick + 1, c)) (([] : List Json), 1, Circuit.new name settings)
  return Json.mkObj [("calls", .arr outcomes), ("name", .str circuit.name),
    ("calls_total", Json.ofNat circuit.callsTotal), ("failures", Json.ofNat circuit.failures),
    ("rejections", Json.ofNat circuit.rejections)]

end ChangeRelay.Command
