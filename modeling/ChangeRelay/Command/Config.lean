import ChangeRelay.Command.Basic
import ChangeRelay.Config.Check
import ChangeRelay.Config.Yaml

/-!
# The configuration command

A configuration comes from YAML text, from a JSON object, or from a preset, then takes the
overrides of an environment given as an object of texts. The report shows it re-written with
every member present, whether it validates, and what it means: durations, retry schedule, rate
limit, circuit and bus endpoint.
-/

namespace ChangeRelay.Command

open Decode

/-- What a configuration means, as a report member. -/
def derivedJson (c : RelayConfig) : Json :=
  let circuit := c.circuitSettings
  Json.mkObj [("poll_interval", c.pollInterval.toJson),
    ("retry", Json.mkObj [("initial_delay", c.retryPolicy.initialDelay.toJson),
      ("max_delay", c.retryPolicy.maxDelay.toJson),
      ("backoff_factor", .num (.float c.retryPolicy.factor))]),
    ("rate_limit", match c.rateLimit with
      | some r => Json.mkObj [("burst_size", Json.ofNat r.burstSize),
          ("refill_rate", Json.ofNat r.refillRate)]
      | none => .null),
    ("flush_interval", c.flushInterval.toJson), ("shutdown_timeout", c.shutdownTimeout.toJson),
    ("publisher_timeout", c.publisherTimeout.toJson),
    ("circuit_reset_timeout", c.circuitResetTimeout.toJson),
    ("feed_timeout", c.feedTimeout.toJson), ("publish_base_url", .str c.publishBaseUrl),
    ("topic", .str c.topic), ("publish_url", .str c.publishUrl),
    ("circuit", Json.mkObj [("failure_threshold", Json.ofNat circuit.failureThreshold),
      ("success_threshold", Json.ofNat circuit.successThreshold),
      ("recovery_timeout", circuit.recoveryTimeout.toJson)])]

/-- An object of texts. -/
def texts : Decoder (List (String × String))
  | .obj fs => fs.mapM fun (k, v) => (fun s => (k, s)) <$> string v
  | j => mismatch "a map" j

/-- The configuration a request names, before the environment. -/
def configOf (req : Json) : Except Refusal RelayConfig :=
  match req.field? "yaml" with
  | some y => do
    let text ← typed string y
    relayed (RelayConfig.ofYaml text)
  | none =>
    match req.field? "json" with
    | some j => typed RelayConfig.read j
    | none =>
      match textOf req "preset" with
      | "default" => .ok RelayConfig.standard
      | "for_testing" => do
        let sourceId ← input req "source_id" string
        let partitions ← input req "partitions" (list string)
        return RelayConfig.forTesting sourceId partitions
      | other => .error (.badInput ("unknown preset '" ++ other ++ "'"))

/-- Reads, overrides, validates and explains a configuration. -/
def explainConfig (req : Json) : Answer := do
  let c ← configOf req
  let env ← option req "env" texts []
  let c := c.applyEnv fun k => (env.find? (·.1 == k)).map (·.2)
  return Json.mkObj [("config", c.toJson), ("validate", outcomeJson c.validate),
    ("derived", derivedJson c)]

end ChangeRelay.Command
