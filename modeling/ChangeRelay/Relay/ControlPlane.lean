import ChangeRelay.Relay.Supervisor
import ChangeRelay.Sequence
import ChangeRelay.Graph.Bootstrap
import ChangeRelay.Http.Message

/-!
# The control plane

Over HTTP the query layer takes snapshots, announces and withdraws its queries, clears the
relay's persisted state and asks for its health:

* `POST /acquire`: the snapshot for a subscription, as `{nodes, rels}`;
* `POST /acquire-stream`: the same snapshot as JSON lines, one entity a line;
* `POST /subscription`: announces a query, then answers its snapshot;
* `DELETE /subscription/<queryNodeId>/<queryId>`: announces that a query is gone;
* `POST /deprovision`: forgets the cursor of every partition and the sequence checkpoint, when
  the plane was given them; otherwise it does nothing;
* `GET /health`: the supervisor's health, with status 503 unless it runs.

A path the routes do not know is 404; a known path with another method is 405.

An announcement is a control change on the data's topic, stamped from the same sequence, so
consumers see it in order with the data. It waits while the sequence is not loaded and while the
publisher does not answer. The streamed snapshot commits to success with its first entity: a
failure before it is an error response, a later one breaks the stream off.

A reading of the snapshot asks for at most `pageBudget` pages. One whose pages go on past the
budget never answers, as a reading whose pages go on for ever does not.

Errors are `{"error": text}` with a status by cause: 400 for an invalid request (a body that is
not a subscription among them), 502 when the snapshot source failed, 503 when the publisher
refused, 500 otherwise.

The plane fronts any relay that can report its health, give out sequence numbers, publish and
forget stored keys (`RelayHost`): the supervisor of scripted workers is one, the running program
another.
-/

namespace ChangeRelay

open Http Store

/-- The status of a response reporting an error. -/
def RelayError.status : RelayError → Nat
  | .invalidRequest _ => 400
  | .bootstrap _ | .source .. | .auth _ => 502
  | .publish .. => 503
  | _ => 500

/-- The response reporting an error. -/
def RelayError.response (e : RelayError) : Response :=
  Response.json e.status (Json.mkObj [("error", .str e.message)])

/-- A route of the control plane. -/
inductive Route where
  | acquire
  | acquireStream
  | subscribe
  /-- Withdrawal, with the path's two segments as sent. -/
  | unsubscribe (queryNodeId queryId : String)
  | deprovision
  | health
  deriving DecidableEq, Repr

/-- What a request's method and target select. -/
inductive Dispatch where
  | route (r : Route)
  | notFound
  | methodNotAllowed
  deriving DecidableEq, Repr

/-- The route of a method and target. `HEAD` is served wherever `GET` is. -/
def Route.dispatch (method target : String) : Dispatch :=
  let only (m : String) (r : Route) : Dispatch := if method == m then .route r else .methodNotAllowed
  match segmentsOf (pathOf target) with
  | some ["acquire"] => only "POST" .acquire
  | some ["acquire-stream"] => only "POST" .acquireStream
  | some ["subscription"] => only "POST" .subscribe
  | some ["subscription", a, b] =>
    if a.isEmpty || b.isEmpty then .notFound else only "DELETE" (.unsubscribe a b)
  | some ["deprovision"] => only "POST" .deprovision
  | some ["health"] => if method == "HEAD" then .route .health else only "GET" .health
  | _ => .notFound

/-- How a request ends. -/
inductive Served where
  | response (r : Response)
  /-- The handler waits for ever. -/
  | pending
  /-- The handler stopped on a broken invariant. -/
  | panic (message : String)
  deriving Inhabited

/-- What the control plane needs of the relay it fronts. -/
class RelayHost (σ : Type) where
  /-- The health report. -/
  health : σ → Json
  /-- Whether the relay runs. -/
  ready : σ → Bool
  /-- The wall clock in milliseconds. -/
  wallMs : σ → Nat
  /-- The next sequence number and the relay after it; none while the sequence is not loaded,
  an error when it would overflow. -/
  nextSequence : σ → Option (Except String Nat × σ)
  /-- Publishes a source's batch: done or refused, or none while the publisher does not answer. -/
  publish : σ → String → List Notification → σ × Option (Except RelayError Unit)
  /-- Forgets a stored key. -/
  forget : σ → String → σ × Except RelayError Unit

/-- The control plane over a relay and a snapshot source. -/
structure ControlPlane (σ : Type) where
  host : σ
  /-- The source the control changes are published for. -/
  sourceId : String
  /-- The snapshot source, by the number of pages asked for before. -/
  pages : PageSource
  /-- The most pages one reading asks for. -/
  pageBudget : Nat
  /-- The tokens asked for, over every reading. -/
  pageCalls : List (Option String) := []
  /-- The store keys a deprovision clears; none when it is not enabled. -/
  persisted : Option (List String) := none

namespace ControlPlane

variable {σ : Type} [RelayHost σ]

/-- Lets a deprovision clear the cursors of `partitions` and the sequence checkpoint. -/
def withDeprovision (c : ControlPlane σ) (partitions : List String) : ControlPlane σ :=
  { c with persisted := some (partitions ++ [sequenceKey]) }

/-- Reads the snapshot for a subscription from the first page on. -/
def read (c : ControlPlane σ) (s : Subscription) : ControlPlane σ × Walk :=
  let prior := c.pageCalls.length
  let w := readSnapshot (fun n t => c.pages (prior + n) t) s none c.pageBudget
  ({ c with pageCalls := c.pageCalls ++ w.calls }, w)

/-- The snapshot as one document, or the error that ended the reading; no answer when the
reading used up its pages. -/
def acquire (c : ControlPlane σ) (s : Subscription) : ControlPlane σ × Served :=
  let (c, w) := c.read s
  if w.exhausted then (c, .pending)
  else
    match w.failed with
    | some e => (c, .response e.response)
    | none => (c, .response (Response.json 200 (Snapshot.ofList w.items).toJson))

/-- The snapshot as JSON lines: an error before the first entity is an error response, a
later one breaks the stream off; a stream whose reading used up its pages never ends. -/
def acquireStream (c : ControlPlane σ) (s : Subscription) : ControlPlane σ × Served :=
  let (c, w) := c.read s
  if w.exhausted then (c, .pending)
  else
    match w.failed, w.items with
    | some e, [] => (c, .response e.response)
    | failed, items =>
      (c, .response (Response.lines (items.map Entity.toJson) (failed.map (·.message))))

/-- Publishes a control change with the next sequence number: done, or how the request ends
instead. -/
def announce (c : ControlPlane σ) (change : Change) : ControlPlane σ × Except Served Unit :=
  match RelayHost.nextSequence c.host with
  | none => (c, .error .pending)
  | some (.error m, h) => ({ c with host := h }, .error (.panic m))
  | some (.ok n, h) =>
    let note := (change.withTable subscriptionTable).stamp n controlDb subscriptionTable none
    match RelayHost.publish h c.sourceId [note] with
    | (h, some (.ok ())) => ({ c with host := h }, .ok ())
    | (h, some (.error e)) => ({ c with host := h }, .error (.response e.response))
    | (h, none) => ({ c with host := h }, .error .pending)

/-- The subscription of a request's JSON body, validated. -/
def subscriptionOf (req : Request) : Except RelayError Subscription :=
  if !((req.contentType.bind MediaType.parse?).map MediaType.isJson).getD false then
    .error (.invalidRequest "Expected request with `Content-Type: application/json`")
  else
    match Subscription.readText req.body with
    | .error f =>
      .error (.invalidRequest ((if f.isMalformed then "Failed to parse the request body as JSON: "
        else "Failed to deserialize the JSON body into the target type: ") ++ f.message))
    | .ok s =>
      match s.validate with
      | some e => .error e
      | none => .ok s

/-- Runs a handler on the subscription of a request's body. -/
def withSubscription (c : ControlPlane σ) (req : Request)
    (k : ControlPlane σ → Subscription → ControlPlane σ × Served) : ControlPlane σ × Served :=
  match subscriptionOf req with
  | .error e => (c, .response e.response)
  | .ok s => k c s

/-- Announces a query, then answers its snapshot. -/
def subscribe (c : ControlPlane σ) (s : Subscription) : ControlPlane σ × Served :=
  match c.announce (Change.insert s.controlEntity (RelayHost.wallMs c.host)) with
  | (c, .error served) => (c, served)
  | (c, .ok ()) => c.acquire s

/-- Announces that a query is gone; the ids are the path's segments, percent-decoded. -/
def unsubscribe (c : ControlPlane σ) (queryNodeId queryId : String) : ControlPlane σ × Served :=
  let invalid (name : String) : Served :=
    .response (Response.text 400 ("Invalid URL: Invalid UTF-8 in `" ++ name ++ "`"))
  match decodeSegment queryNodeId, decodeSegment queryId with
  | none, _ => (c, invalid "query_node_id")
  | _, none => (c, invalid "query_id")
  | some qn, some q =>
    let s : Subscription := ⟨q, qn, Labels.empty, Labels.empty⟩
    match s.validate with
    | some e => (c, .response e.response)
    | none =>
      match c.announce (Change.delete s.controlEntity (RelayHost.wallMs c.host)) with
      | (c, .error served) => (c, served)
      | (c, .ok ()) => (c, .response (Response.bare 204))

/-- Forgets the keys in order, stopping at the first failure. -/
def clear (h : σ) : List String → σ × Option RelayError
  | [] => (h, none)
  | k :: ks =>
    match RelayHost.forget h k with
    | (h, .ok ()) => clear h ks
    | (h, .error e) => (h, some e)

/-- Forgets the persisted state, when the plane was given it. -/
def deprovision (c : ControlPlane σ) : ControlPlane σ × Served :=
  match c.persisted with
  | none => (c, .response (Response.bare 204))
  | some keys =>
    let (h, failed) := clear c.host keys
    let c := { c with host := h }
    match failed with
    | some e => (c, .response e.response)
    | none => (c, .response (Response.bare 204))

/-- The relay's health: 200 when it runs, else 503. -/
def health (c : ControlPlane σ) : Response :=
  Response.json (if RelayHost.ready c.host then 200 else 503) (RelayHost.health c.host)

/-- Serves a request. -/
def handle (c : ControlPlane σ) (req : Request) : ControlPlane σ × Served :=
  match Route.dispatch req.method req.target with
  | .notFound => (c, .response (Response.bare 404))
  | .methodNotAllowed => (c, .response (Response.bare 405))
  | .route .acquire => c.withSubscription req acquire
  | .route .acquireStream => c.withSubscription req acquireStream
  | .route .subscribe => c.withSubscription req subscribe
  | .route (.unsubscribe qn q) => c.unsubscribe qn q
  | .route .deprovision => c.deprovision
  | .route .health =>
    let r := c.health
    (c, .response (if req.method == "HEAD" then { r with body := .empty } else r))

end ControlPlane

/-- The supervisor fronted by the control plane: its world's sequence, publisher and store. A
control change is published for the subscription table's partition. -/
instance : RelayHost Supervisor where
  health s := s.healthJson
  ready s := s.ready
  wallMs s := s.world.wallMs
  nextSequence s := s.world.sequence.next.map fun (r, g) => (r, { s with world := { s.world with sequence := g } })
  publish s sourceId batch :=
    let topic := sourceId ++ "-change"
    let (d, world) := s.world.publish subscriptionTable topic batch
    let s := { s with world }
    match d with
    | .ok => (s, some (.ok ()))
    | .fail => (s, some (.error (.publish topic World.refusal)))
    | .hang => (s, none)
  forget s k :=
    let (store, r) := s.world.store.delete k
    ({ s with world := { s.world with store } }, r)

end ChangeRelay
