import ChangeRelay.Decode.Document

/-!
# The relay's configuration

A `RelayConfig` names the source the relay watches, the partitions it follows (one worker
each), where cursors persist, the feed it pulls from, and the settings of each component. Every
member but `source_id` may be left out and then takes its standard value (`cursor` as a whole may
be left out, but a `cursor` given must name its `sqlite_path`). Durations are kept as the text
they were written in; `ChangeRelay.Config.Check` reads them.

`RelayConfig.form` reads a configuration from any kind of document (`Decode.Document`), and
`RelayConfig.toJson` writes it back with every member present.
-/

namespace ChangeRelay

open Decode

/-- Where a partition without a persisted cursor starts. -/
inductive StartFrom where
  /-- Only changes after startup. -/
  | now
  /-- The source's retained history. -/
  | beginning
  deriving DecidableEq, Repr

namespace StartFrom

/-- The variants by name. -/
def names : List (String × StartFrom) := [("now", .now), ("beginning", .beginning)]

/-- The variant's name. -/
def name : StartFrom → String
  | .now => "now"
  | .beginning => "beginning"

end StartFrom

/-- The per-partition sync loop. -/
structure WorkerSettings where
  /-- The wait after an empty pull. -/
  pollInterval : String := "1s"
  /-- The first backoff after a retryable failure. -/
  backoffInitial : String := "1s"
  /-- The backoff ceiling. -/
  backoffMax : String := "5m"
  /-- Whether pulls are throttled. -/
  rateLimitEnabled : Bool := false
  rateLimitPerSec : Nat := 100
  rateLimitBurst : Nat := 10
  deriving Repr

/-- Checkpointing of the sequence counter. -/
structure SequenceSettings where
  flushInterval : String := "1s"
  deriving Repr

/-- Shutdown of the workers. -/
structure SupervisorSettings where
  /-- How long workers get to stop before they are abandoned. -/
  shutdownTimeout : String := "10s"
  deriving Repr

/-- The event bus endpoint. -/
structure PublisherSettings where
  daprHost : String := "127.0.0.1"
  daprPort : Nat := 3500
  /-- The pub/sub component. -/
  pubsub : String := "drasi-pubsub"
  /-- The time a publish request may take. -/
  timeout : String := "10s"
  /-- Consecutive failures before the publish circuit opens. -/
  circuitFailureThreshold : Nat := 5
  /-- How long the open circuit waits before probing. -/
  circuitResetTimeout : String := "30s"
  deriving Repr

/-- The HTTP endpoint. -/
structure ServerSettings where
  bindAddr : String := "0.0.0.0:80"
  deriving Repr

/-- The tunable settings, by component. -/
structure Settings where
  worker : WorkerSettings := {}
  sequence : SequenceSettings := {}
  supervisor : SupervisorSettings := {}
  publisher : PublisherSettings := {}
  server : ServerSettings := {}
  deriving Repr

/-- The feed changes and snapshots are pulled from. -/
structure FeedSettings where
  baseUrl : String := "http://127.0.0.1:8080"
  /-- The bearer token sent with every request, if any. -/
  bearerToken : Option String := none
  startFrom : StartFrom := .now
  timeout : String := "30s"
  deriving Repr

/-- Where cursors persist. -/
structure CursorSettings where
  sqlitePath : String := "reactivator_cursors.db"
  deriving Repr

/-- The configuration of a relay. -/
structure RelayConfig where
  /-- The source watched; the bus topic is named after it. -/
  sourceId : String
  settings : Settings := {}
  /-- The partitions followed, one worker and one cursor each. -/
  partitions : List String := []
  cursor : CursorSettings := {}
  feed : FeedSettings := {}
  deriving Repr

namespace RelayConfig

/-- The configuration of a source with no partitions. -/
def standard : RelayConfig := { sourceId := "local-source" }

/-- Short timings and cursors in memory, for `sourceId` over `partitions`. -/
def forTesting (sourceId : String) (partitions : List String) : RelayConfig :=
  { sourceId, partitions
    settings := { worker := { pollInterval := "10ms", backoffInitial := "5ms", backoffMax := "50ms" }
                  sequence := { flushInterval := "20ms" }
                  supervisor := { shutdownTimeout := "1s" } }
    cursor := { sqlitePath := ":memory:" } }

end RelayConfig

/-! ## Reading -/

section Forms

variable {ν ε : Type} [Document ν ε]

/-- The members of the worker settings. -/
def WorkerSettings.form : Form ν ε WorkerSettings :=
  let d : WorkerSettings := {}
  (fun p bi bm e r b => WorkerSettings.mk p bi bm e r b)
    <$> Form.withDefault "poll_interval" Document.string d.pollInterval
    <*> Form.withDefault "backoff_initial" Document.string d.backoffInitial
    <*> Form.withDefault "backoff_max" Document.string d.backoffMax
    <*> Form.withDefault "rate_limit_enabled" Document.bool d.rateLimitEnabled
    <*> Form.withDefault "rate_limit_per_sec" (Document.unsigned 32 "u32") d.rateLimitPerSec
    <*> Form.withDefault "rate_limit_burst" (Document.unsigned 32 "u32") d.rateLimitBurst

/-- The members of the sequence settings. -/
def SequenceSettings.form : Form ν ε SequenceSettings :=
  SequenceSettings.mk <$> Form.withDefault "flush_interval" Document.string
    ({} : SequenceSettings).flushInterval

/-- The members of the supervisor settings. -/
def SupervisorSettings.form : Form ν ε SupervisorSettings :=
  SupervisorSettings.mk <$> Form.withDefault "shutdown_timeout" Document.string
    ({} : SupervisorSettings).shutdownTimeout

/-- The members of the publisher settings. -/
def PublisherSettings.form : Form ν ε PublisherSettings :=
  let d : PublisherSettings := {}
  (fun h p s t f r => PublisherSettings.mk h p s t f r)
    <$> Form.withDefault "dapr_host" Document.string d.daprHost
    <*> Form.withDefault "dapr_port" (Document.unsigned 16 "u16") d.daprPort
    <*> Form.withDefault "pubsub" Document.string d.pubsub
    <*> Form.withDefault "timeout" Document.string d.timeout
    <*> Form.withDefault "circuit_failure_threshold" (Document.unsigned 32 "u32")
      d.circuitFailureThreshold
    <*> Form.withDefault "circuit_reset_timeout" Document.string d.circuitResetTimeout

/-- The members of the server settings. -/
def ServerSettings.form : Form ν ε ServerSettings :=
  ServerSettings.mk <$> Form.withDefault "bind_addr" Document.string ({} : ServerSettings).bindAddr

/-- The members of the settings. -/
def Settings.form : Form ν ε Settings :=
  (fun w q s p v => Settings.mk w q s p v)
    <$> Form.withDefault "worker" (Document.record WorkerSettings.form "struct WorkerConfig") {}
    <*> Form.withDefault "sequence"
      (Document.record SequenceSettings.form "struct SequenceConfig") {}
    <*> Form.withDefault "supervisor"
      (Document.record SupervisorSettings.form "struct SupervisorConfig") {}
    <*> Form.withDefault "publisher"
      (Document.record PublisherSettings.form "struct PublisherConfig") {}
    <*> Form.withDefault "server" (Document.record ServerSettings.form "struct ServerConfig") {}

/-- The members of the feed settings. -/
def FeedSettings.form : Form ν ε FeedSettings :=
  let d : FeedSettings := {}
  (fun u b s t => FeedSettings.mk u b s t)
    <$> Form.withDefault "base_url" Document.string d.baseUrl
    <*> Form.withDefault "bearer_token" (Document.option Document.string) none
    <*> Form.withDefault "start_from" (Document.unitVariant StartFrom.names) d.startFrom
    <*> Form.withDefault "timeout" Document.string d.timeout

/-- The members of the cursor settings: the path is required. -/
def CursorSettings.form : Form ν ε CursorSettings :=
  CursorSettings.mk <$> Form.required "sqlite_path" Document.string

/-- The members of a configuration. -/
def RelayConfig.form : Form ν ε RelayConfig :=
  (fun i s p c f => RelayConfig.mk i s p c f)
    <$> Form.required "source_id" Document.string
    <*> Form.withDefault "settings" (Document.record Settings.form "struct ReactivatorSettings") {}
    <*> Form.withDefault "partitions" (Document.list Document.string) []
    <*> Form.withDefault "cursor" (Document.record CursorSettings.form "struct CursorConfig") {}
    <*> Form.withDefault "feed" (Document.record FeedSettings.form "struct FeedConfig") {}

/-- A configuration from a document's root. -/
def RelayConfig.read : ν → Except ε RelayConfig :=
  Document.record RelayConfig.form "struct ReactivatorConfig"

end Forms

/-! ## Writing -/

/-- The worker settings as a JSON object. -/
def WorkerSettings.toJson (w : WorkerSettings) : Json :=
  Json.mkObj [("poll_interval", .str w.pollInterval), ("backoff_initial", .str w.backoffInitial),
    ("backoff_max", .str w.backoffMax), ("rate_limit_enabled", .bool w.rateLimitEnabled),
    ("rate_limit_per_sec", Json.ofNat w.rateLimitPerSec),
    ("rate_limit_burst", Json.ofNat w.rateLimitBurst)]

/-- The publisher settings as a JSON object. -/
def PublisherSettings.toJson (p : PublisherSettings) : Json :=
  Json.mkObj [("dapr_host", .str p.daprHost), ("dapr_port", Json.ofNat p.daprPort),
    ("pubsub", .str p.pubsub), ("timeout", .str p.timeout),
    ("circuit_failure_threshold", Json.ofNat p.circuitFailureThreshold),
    ("circuit_reset_timeout", .str p.circuitResetTimeout)]

/-- The settings as a JSON object. -/
def Settings.toJson (s : Settings) : Json :=
  Json.mkObj [("worker", s.worker.toJson),
    ("sequence", Json.mkObj [("flush_interval", .str s.sequence.flushInterval)]),
    ("supervisor", Json.mkObj [("shutdown_timeout", .str s.supervisor.shutdownTimeout)]),
    ("publisher", s.publisher.toJson),
    ("server", Json.mkObj [("bind_addr", .str s.server.bindAddr)])]

/-- The feed settings as a JSON object. -/
def FeedSettings.toJson (f : FeedSettings) : Json :=
  Json.mkObj [("base_url", .str f.baseUrl), ("bearer_token", Json.ofOption f.bearerToken),
    ("start_from", .str f.startFrom.name), ("timeout", .str f.timeout)]

/-- The configuration as a JSON object, every member present. -/
def RelayConfig.toJson (c : RelayConfig) : Json :=
  Json.mkObj [("source_id", .str c.sourceId), ("settings", c.settings.toJson),
    ("partitions", Json.ofStrings c.partitions),
    ("cursor", Json.mkObj [("sqlite_path", .str c.cursor.sqlitePath)]),
    ("feed", c.feed.toJson)]

end ChangeRelay
