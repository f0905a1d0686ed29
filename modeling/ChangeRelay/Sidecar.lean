import ChangeRelay.Http.Client
import ChangeRelay.Config.Check
import ChangeRelay.Graph.Change
import ChangeRelay.Json.Text

/-!
# Publishing through the sidecar

Batches go to the event bus through a sidecar's pub/sub API: a batch is posted as one JSON array
to `<base>/<source>-change`, where the base is `http://<host>:<port>/v1.0/publish/<pubsub>`. An
empty batch is taken without a request. Any 2xx status is a success; another status is a publish
fault worded `<code> <reason>: <body>`, and so is a request that gets no response.

Posts go through a circuit breaker named `publish`: after enough failures it rejects posts
without sending them (`circuit open`) until its recovery time is up.
-/

namespace ChangeRelay

open Http

/-- A publisher posting to a sidecar, with its circuit breaker. -/
structure Sidecar where
  /-- The pub/sub endpoint, without the topic. -/
  base : String
  circuit : Circuit

namespace Sidecar

/-- The publisher of the publisher settings. -/
def ofSettings (s : PublisherSettings) : Sidecar :=
  ⟨s.publishBaseUrl, Circuit.new "publish" s.circuitSettings⟩

/-- Where a topic's batches are posted. -/
def publishUrl (p : Sidecar) (topic : String) : String := p.base ++ "/" ++ topic

/-- Posts a batch through a transport, without the breaker. -/
def post (p : Sidecar) (t : Transport) (topic : String) (batch : List Notification) :
    Except RelayError Unit :=
  match Url.parse? (p.publishUrl topic) with
  | none => .error (.publish topic ClientFault.badUrl.message)
  | some url =>
    match t { method := "POST", url, body := some (Json.arr (batch.map Notification.toJson)).render } with
    | .error _ => .error (.publish topic (ClientFault.unsent url).message)
    | .ok resp =>
      if isSuccess resp.status then .ok ()
      else .error (.publish topic (statusText resp.status ++ ": " ++ Text.trimBlank resp.body))

/-- Publishes a source's batch at `now`: the publisher after it, and the outcome. -/
def publish (p : Sidecar) (t : Transport) (now : Nat) (sourceId : String)
    (batch : List Notification) : Sidecar × Except RelayError Unit :=
  if batch.isEmpty then (p, .ok ())
  else
    let topic := sourceId ++ "-change"
    match p.circuit.call now (p.post t topic batch) with
    | (.rejected, c) => ({ p with circuit := c }, .error (.publish topic "circuit open"))
    | (.ran r, c) => ({ p with circuit := c }, r)

end Sidecar

end ChangeRelay
