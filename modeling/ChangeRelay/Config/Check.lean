import ChangeRelay.Config.Basic
import ChangeRelay.Time.DurationText
import ChangeRelay.Resilience.Retry
import ChangeRelay.Resilience.RateLimit
import ChangeRelay.Resilience.Circuit
import ChangeRelay.Text.Blank
import ChangeRelay.Text.Integer
import ChangeRelay.Error

/-!
# What a configuration means

The durations of a configuration are read as they are needed; one that does not read falls back
to its standard value (`Duration.ofTextOr`), so a configuration never fails for a bad duration.
From them come the retry schedule, the rate limit, the publish circuit and the bus endpoint.

`RelayConfig.validate` refuses a configuration that cannot run, with the first reason in this
order: a blank source, no partitions, a blank, reserved (`sequence`, the key of the sequence
counter) or repeated partition, a zero duration (in the order of `durationFields`), an initial
backoff above the ceiling.

`RelayConfig.applyEnv` lets the environment name the source, the pub/sub component and the
sidecar's host and port; a port that is not a 16-bit number is ignored.
-/

namespace ChangeRelay

namespace WorkerSettings

variable (w : WorkerSettings)

/-- The wait after an empty pull. -/
def pollDuration : Duration := Duration.ofTextOr w.pollInterval (.ofSecs 1)

/-- The retry schedule of a worker. -/
def retryPolicy : RetryPolicy :=
  { RetryPolicy.standard with
    initialDelay := Duration.ofTextOr w.backoffInitial (.ofSecs 1)
    maxDelay := Duration.ofTextOr w.backoffMax (.ofSecs 300) }

/-- The rate limit of pulls, when enabled. -/
def rateLimit : Option RateLimit :=
  if w.rateLimitEnabled then some ⟨w.rateLimitBurst, w.rateLimitPerSec⟩ else none

end WorkerSettings

namespace PublisherSettings

variable (p : PublisherSettings)

/-- The time a publish may take. -/
def timeoutDuration : Duration := Duration.ofTextOr p.timeout (.ofSecs 10)

/-- How long the publish circuit stays open. -/
def circuitResetDuration : Duration := Duration.ofTextOr p.circuitResetTimeout (.ofSecs 30)

/-- The publish circuit: it weighs at least one call. -/
def circuitSettings : CircuitSettings :=
  { failureThreshold := max p.circuitFailureThreshold 1, recoveryTimeout := p.circuitResetDuration }

/-- The sidecar's publish endpoint for the pub/sub component. -/
def publishBaseUrl : String :=
  "http://" ++ p.daprHost ++ ":" ++ toString p.daprPort ++ "/v1.0/publish/" ++ p.pubsub

end PublisherSettings

namespace RelayConfig

variable (c : RelayConfig)

/-- The wait after an empty pull. -/
def pollInterval : Duration := c.settings.worker.pollDuration

/-- The retry schedule of the workers. -/
def retryPolicy : RetryPolicy := c.settings.worker.retryPolicy

/-- The rate limit of pulls, when enabled. -/
def rateLimit : Option RateLimit := c.settings.worker.rateLimit

/-- The interval between checkpoints of the sequence counter. -/
def flushInterval : Duration := Duration.ofTextOr c.settings.sequence.flushInterval (.ofSecs 1)

/-- How long workers get to stop. -/
def shutdownTimeout : Duration :=
  Duration.ofTextOr c.settings.supervisor.shutdownTimeout (.ofSecs 10)

/-- The time a publish may take. -/
def publisherTimeout : Duration := c.settings.publisher.timeoutDuration

/-- How long the publish circuit stays open. -/
def circuitResetTimeout : Duration := c.settings.publisher.circuitResetDuration

/-- The time a feed request may take. -/
def feedTimeout : Duration := Duration.ofTextOr c.feed.timeout (.ofSecs 30)

/-- The publish circuit: it weighs at least one call. -/
def circuitSettings : CircuitSettings := c.settings.publisher.circuitSettings

/-- The sidecar's publish endpoint for the pub/sub component. -/
def publishBaseUrl : String := c.settings.publisher.publishBaseUrl

/-- The bus topic of the source. -/
def topic : String := c.sourceId ++ "-change"

/-- Where batches are published. -/
def publishUrl : String := c.publishBaseUrl ++ "/" ++ c.topic

/-- The key the sequence counter persists under; no partition may take it. -/
def sequenceKey : String := "sequence"

/-- The durations that must not be zero, by name. -/
def durationFields : List (String × Duration) :=
  [("worker.poll_interval", c.pollInterval),
    ("worker.backoff_initial", c.retryPolicy.initialDelay),
    ("worker.backoff_max", c.retryPolicy.maxDelay),
    ("sequence.flush_interval", c.flushInterval),
    ("supervisor.shutdown_timeout", c.shutdownTimeout),
    ("publisher.timeout", c.publisherTimeout),
    ("publisher.circuit_reset_timeout", c.circuitResetTimeout),
    ("feed.timeout", c.feedTimeout)]

/-- The first partition that is blank, reserved or repeated, after those in `seen`. -/
def partitionFault (seen : List String) : List String → Option String
  | [] => none
  | p :: ps =>
    if Text.isBlankText p then some "partition ids must not be empty"
    else if p = sequenceKey then some ("partition id '" ++ p ++ "' is reserved")
    else if seen.contains p then some ("duplicate partition '" ++ p ++ "'")
    else partitionFault (p :: seen) ps

/-- Why the configuration cannot run, if it cannot. -/
def fault : Option String :=
  if Text.isBlankText c.sourceId then some "source_id must not be empty"
  else if c.partitions.isEmpty then some "at least one partition is required"
  else match partitionFault [] c.partitions with
    | some f => some f
    | none =>
      match c.durationFields.find? (·.2.isZero) with
      | some (name, _) => some (name ++ " must be greater than zero")
      | none =>
        if c.retryPolicy.maxDelay.nanos < c.retryPolicy.initialDelay.nanos then
          some "worker.backoff_initial must not exceed worker.backoff_max"
        else none

/-- The refusal of a configuration that cannot run. -/
def validate : Option RelayError := c.fault.map RelayError.config

end RelayConfig

/-- Overrides from the environment, looked up by name. -/
def RelayConfig.applyEnv (lookup : String → Option String) (c : RelayConfig) : RelayConfig :=
  let c := match lookup "SOURCE_ID" with
    | some s => { c with sourceId := s }
    | none => c
  let c := match lookup "PUBSUB" with
    | some s => { c with settings.publisher.pubsub := s }
    | none => c
  let c := match lookup "DAPR_HOST" with
    | some s => { c with settings.publisher.daprHost := s }
    | none => c
  match (lookup "DAPR_PORT").bind (Text.boundedOfText 16) with
  | some p => { c with settings.publisher.daprPort := p }
  | none => c

theorem RelayConfig.validate_eq_none_iff (c : RelayConfig) :
    c.validate = none ↔ c.fault = none := by
  unfold validate
  cases c.fault <;> simp

theorem RelayConfig.fault_of_no_partitions (c : RelayConfig) (h : c.partitions = [])
    (hs : Text.isBlankText c.sourceId = false) :
    c.fault = some "at least one partition is required" := by
  unfold fault
  simp [h, hs]

end ChangeRelay
