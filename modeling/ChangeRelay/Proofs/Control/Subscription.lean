import ChangeRelay.Relay.ControlPlane
import ChangeRelay.Proofs.Basic
import ChangeRelay.Proofs.Graph.Paging

/-!
# The subscription routes

A query announces itself with `POST /subscription` and withdraws with
`DELETE /subscription/<queryNodeId>/<queryId>`. Each route first reads the subscription: from a
JSON body on `POST`, from the two decoded path segments (with no labels) on `DELETE`. A request
that does not read as one, or whose ids are blank, is answered 400 and changes nothing.

Otherwise the route announces the subscription's control node on the data's topic
(`ControlPlane.announce`). While the sequence is not loaded the request waits at the gate, and
nothing is drawn or published (`ControlPlane.announce_of_closed`). Once it is loaded the route
draws one number and offers the publisher the one notification `controlNote` with it; the plane
keeps the host the publish leaves, and the request ends as the publish does
(`ControlPlane.AnnouncedThen`): a refusal is answered with the refusal's status, a publish that
does not answer keeps the request waiting, and a done publish goes on. A withdrawal then answers
204; an announcement reads the snapshot (`ControlPlane.acquire`). When the page chain ends within
the plane's page budget, the answer is 200 with what the subscription wants of its pages, or 502
when the chain ended with a failure, every such failure being a bootstrap error; when it does not
(a chain that goes round for ever among them), the request waits (`ControlPlane.acquire_answer`).

Main statement: `ControlPlane.subscription_routes`. A call of `next` that finds the counter at its
largest value is left out: see `issuance_exact`.
-/

namespace ChangeRelay

open Http

/-- The notification that announces a subscription's control node `e`: its insert when the query
comes (`added`), its delete when it goes, numbered `n` at time `ts`, from the partition and table
`SourceSubscription` of the database `Drasi`, with no cursor. -/
def controlNote (added : Bool) (e : Entity) (n ts : Nat) : Notification where
  op := if added then .insert else .delete
  tsMs := ts
  sequence := n
  source := ⟨"Drasi", "SourceSubscription", none, "SourceSubscription", ts⟩
  before := if added then none else some e
  after := if added then some e else none

/-- A request ends with a response of this status. -/
def Served.Answers (out : Served) (status : Nat) : Prop := ∃ r, out = .response r ∧ r.status = status

@[simp] theorem RelayError.response_status (e : RelayError) : e.response.status = e.status := rfl

/-- A request that cannot be read is a client error. -/
@[simp] theorem RelayError.invalidRequest_status (m : String) :
    (RelayError.invalidRequest m).status = 400 := rfl

/-- A refused publish is the bus being unavailable. -/
@[simp] theorem RelayError.publish_status (topic m : String) :
    (RelayError.publish topic m).status = 503 := rfl

namespace Subscription

/-- A subscription passes its check exactly when neither id is blank. -/
theorem validate_eq_none_iff (s : Subscription) :
    s.validate = none ↔
      Text.isBlankText s.queryId = false ∧ Text.isBlankText s.queryNodeId = false := by
  unfold validate
  cases Text.isBlankText s.queryId <;> cases Text.isBlankText s.queryNodeId <;> simp

/-- A subscription that fails its check is a client error. -/
theorem validate_status {s : Subscription} {e : RelayError} (h : s.validate = some e) :
    e.status = 400 := by
  unfold validate at h
  split at h
  · cases h
    rfl
  · split at h
    · cases h
      rfl
    · cases h

end Subscription

/-! ## Reading the snapshot -/

namespace ControlPlane

variable {σ : Type}

/-- Reading the snapshot touches only the pages asked for, never the relay. -/
@[simp] theorem read_host (c : ControlPlane σ) (s : Subscription) : (c.read s).1.host = c.host :=
  rfl

/-- The reading does not depend on the relay behind the plane. -/
@[simp] theorem read_with_host (c : ControlPlane σ) (h : σ) (s : Subscription) :
    ({ c with host := h }.read s).2 = (c.read s).2 := rfl

/-- The pages the plane's next reading asks for: its source's, counted after the pages asked for
before. -/
def nextPages (c : ControlPlane σ) : PageSource := fun n t => c.pages (c.pageCalls.length + n) t

theorem read_walk (c : ControlPlane σ) (s : Subscription) :
    (c.read s).2 = readSnapshot c.nextPages s none c.pageBudget := rfl

/-- `acquire` answers from its reading, and keeps the plane the reading leaves. -/
theorem acquire_eq (c : ControlPlane σ) (s : Subscription) :
    c.acquire s = ((c.read s).1,
      if (c.read s).2.exhausted then .pending
      else match (c.read s).2.failed with
        | some e => .response e.response
        | none => .response (Response.json 200 (Snapshot.ofList (c.read s).2.items).toJson)) := by
  unfold acquire
  split
  next c' w hr =>
    rw [hr]
    by_cases hx : w.exhausted = true
    · simp only [hx, ↓reduceIte]
    · simp only [hx, Bool.false_eq_true, ↓reduceIte]
      cases w.failed <;> rfl

/-- What `acquire` answers, leaving the relay as it was. Along a page chain that ends within the
page budget, the snapshot of what the subscription wants of the chain's pages with 200, or the
failure that ended the chain with 502; along a chain that does not end within it, nothing. -/
theorem acquire_answer (c : ControlPlane σ) (s : Subscription) :
    (c.acquire s).1.host = c.host ∧
    (∀ pages o, Paged c.nextPages 0 none pages o → pages.length ≤ c.pageBudget →
      (o = none →
        (c.acquire s).2 = .response (Response.json 200 (Snapshot.ofList (keptOf s.wants pages)).toJson)) ∧
      ∀ e, o = some e → (c.acquire s).2 = .response e.response ∧ e.status = 502) ∧
    ((∀ pages o, Paged c.nextPages 0 none pages o → c.pageBudget < pages.length) →
      (c.acquire s).2 = .pending) := by
  refine ⟨by rw [acquire_eq]; rfl, fun pages o hp hlen => ?_, fun hlong => ?_⟩
  · have hw : (c.read s).2 = { calls := pages.map (·.1), items := keptOf s.wants pages, failed := o } := by
      rw [read_walk, readSnapshot_of_paged s hp hlen]
    refine ⟨fun ho => ?_, fun e ho => ⟨?_, ?_⟩⟩
    · rw [acquire_eq, hw, ho]
      rfl
    · rw [acquire_eq, hw, ho]
      rfl
    · obtain ⟨m, rfl⟩ := hp.bootstrap_failure e ho
      rfl
  · have hex : (c.read s).2.exhausted = true := by
      rw [read_walk, readSnapshot_exhausted_iff]
      exact hlong
    rw [acquire_eq, if_pos hex]

/-! ## Announcing -/

variable [RelayHost σ]

/-- How a request that announces `note` ends, from the host `h` its number was drawn on: the plane
keeps the host the publish leaves, a refusal is answered with the refusal's response, a publish
that does not answer leaves the request waiting, and a done publish goes on with `next`. -/
def AnnouncedThen (c : ControlPlane σ) (h : σ) (note : Notification)
    (next : ControlPlane σ → ControlPlane σ × Served) (result : ControlPlane σ × Served) : Prop :=
  ∀ h' r, RelayHost.publish h c.sourceId [note] = (h', r) →
    match r with
    | some (.ok ()) => result = next { c with host := h' }
    | some (.error e) => result = ({ c with host := h' }, .response e.response)
    | none => result = ({ c with host := h' }, .pending)

/-- While the sequence is not loaded an announcement waits, and nothing is drawn or published. -/
theorem announce_of_closed (c : ControlPlane σ) (change : Change)
    (h : RelayHost.nextSequence c.host = none) : c.announce change = (c, .error .pending) := by
  simp [announce, h]

/-- The stamped control change is the control notification. -/
theorem stamp_control (added : Bool) (e : Entity) (n ts : Nat) :
    ((if added then Change.insert e ts else .delete e ts).withTable subscriptionTable).stamp n
      controlDb subscriptionTable none = controlNote added e n ts := by
  cases added <;> rfl

/-- Once the sequence is loaded an announcement draws one number and publishes the one control
notification with it, and ends as the publish does. -/
theorem announce_of_open (c : ControlPlane σ) (added : Bool) (e : Entity) (ts : Nat) {n : Nat}
    {h : σ} (hn : RelayHost.nextSequence c.host = some (.ok n, h))
    (next : ControlPlane σ → ControlPlane σ × Served) :
    AnnouncedThen c h (controlNote added e n ts) next
      (match c.announce (if added then .insert e ts else .delete e ts) with
        | (c, .error served) => (c, served)
        | (c, .ok ()) => next c) := by
  intro h' r hp
  rw [← stamp_control added e n ts] at hp
  rcases r with _ | _ | _ <;> simp [announce, hn, hp]

/-! ## The routes -/

/-- What reading a request's subscription gives: a subscription that passes its check, or a
client error. -/
theorem subscriptionOf_cases (req : Request) :
    match subscriptionOf req with
    | .ok s => s.validate = none
    | .error e => e.status = 400 := by
  unfold subscriptionOf
  by_cases hj : (!((req.contentType.bind MediaType.parse?).map MediaType.isJson).getD false) = true
  · rw [if_pos hj]
    rfl
  rw [if_neg hj]
  cases hr : Subscription.readText req.body with
  | error f => rfl
  | ok s =>
    dsimp only
    cases hv : s.validate with
    | some e => exact Subscription.validate_status hv
    | none => exact hv

/-- A request's subscription, once read, has no blank id. -/
theorem subscriptionOf_eq_ok {req : Request} {s : Subscription} (h : subscriptionOf req = .ok s) :
    Text.isBlankText s.queryId = false ∧ Text.isBlankText s.queryNodeId = false := by
  have hc := subscriptionOf_cases req
  rw [h] at hc
  exact (Subscription.validate_eq_none_iff s).1 hc

/-- A request that is not read as a subscription is a client error. -/
theorem subscriptionOf_error_status {req : Request} {e : RelayError}
    (h : subscriptionOf req = .error e) : e.status = 400 := by
  have hc := subscriptionOf_cases req
  rw [h] at hc
  exact hc

/-- `POST /subscription` reads the subscription of the body, then announces it. -/
theorem handle_of_subscribe (c : ControlPlane σ) {req : Request}
    (hr : Route.dispatch req.method req.target = .route .subscribe) :
    c.handle req = match subscriptionOf req with
      | .error e => (c, .response e.response)
      | .ok s => c.subscribe s := by
  simp only [handle, hr]
  rfl

/-- `DELETE /subscription/<a>/<b>` withdraws the subscription of the decoded segments. -/
theorem handle_of_unsubscribe (c : ControlPlane σ) {req : Request} {a b : String}
    (hr : Route.dispatch req.method req.target = .route (.unsubscribe a b)) :
    c.handle req = c.unsubscribe a b := by
  simp only [handle, hr]

/-- The effects of the subscription routes. A request the plane cannot read as a subscription (a
body that is not a JSON subscription, a path segment that does not decode) or whose subscription
has a blank id is answered 400 and leaves the plane as it was. While the sequence is not loaded a
request waits, drawing and publishing nothing. Otherwise it draws one number and publishes the
one control notification with it, the insert of the subscription's control node (`POST`) or the
delete of the withdrawn one's, with no labels (`DELETE`), and ends as the publish does: a refusal
is answered with its status, a publish that does not answer keeps the request waiting; once
published, a withdrawal is answered 204, and an announcement reads the snapshot, which leaves the
relay and what it published as they are: along a page chain that ends within the page budget it
answers 200 with what the subscription wants of the chain's pages, or 502 when the chain ended
with a failure, and along a chain that does not end within the budget it never answers. -/
theorem subscription_routes (c : ControlPlane σ) (req : Request) :
    (Route.dispatch req.method req.target = .route .subscribe →
      (∀ e, subscriptionOf req = .error e →
        c.handle req = (c, .response e.response) ∧ e.status = 400) ∧
      ∀ s, subscriptionOf req = .ok s →
        (Text.isBlankText s.queryId = false ∧ Text.isBlankText s.queryNodeId = false) ∧
        (RelayHost.nextSequence c.host = none → c.handle req = (c, .pending)) ∧
        ∀ n h, RelayHost.nextSequence c.host = some (.ok n, h) →
          AnnouncedThen c h (controlNote true s.controlEntity n (RelayHost.wallMs c.host))
            (fun c => c.acquire s) (c.handle req)) ∧
    (∀ a b, Route.dispatch req.method req.target = .route (.unsubscribe a b) →
      ((decodeSegment a = none ∨ decodeSegment b = none) →
        (c.handle req).1 = c ∧ (c.handle req).2.Answers 400) ∧
      ∀ qn q, decodeSegment a = some qn → decodeSegment b = some q →
        ((Text.isBlankText q = true ∨ Text.isBlankText qn = true) →
          (c.handle req).1 = c ∧ (c.handle req).2.Answers 400) ∧
        (Text.isBlankText q = false → Text.isBlankText qn = false →
          (RelayHost.nextSequence c.host = none → c.handle req = (c, .pending)) ∧
          ∀ n h, RelayHost.nextSequence c.host = some (.ok n, h) →
            AnnouncedThen c h
              (controlNote false (Subscription.controlEntity ⟨q, qn, .empty, .empty⟩) n
                (RelayHost.wallMs c.host))
              (fun c => (c, .response (Response.bare 204))) (c.handle req))) ∧
    ∀ (c' : ControlPlane σ) (s : Subscription),
      (c'.acquire s).1.host = c'.host ∧
      (∀ pages o, Paged c'.nextPages 0 none pages o → pages.length ≤ c'.pageBudget →
        (o = none →
          (c'.acquire s).2 =
            .response (Response.json 200 (Snapshot.ofList (keptOf s.wants pages)).toJson)) ∧
        ∀ e, o = some e → (c'.acquire s).2 = .response e.response ∧ e.status = 502) ∧
      ((∀ pages o, Paged c'.nextPages 0 none pages o → c'.pageBudget < pages.length) →
        (c'.acquire s).2 = .pending) := by
  refine ⟨fun hr => ?_, fun a b hr => ?_, acquire_answer⟩
  · rw [handle_of_subscribe c hr]
    refine ⟨fun e he => ?_, fun s hs => ⟨subscriptionOf_eq_ok hs, fun hn => ?_, fun n h hn => ?_⟩⟩
    · exact ⟨by simp only [he], subscriptionOf_error_status he⟩
    · simp only [hs, subscribe, announce_of_closed c _ hn]
    · simp only [hs]
      exact announce_of_open c true s.controlEntity (RelayHost.wallMs c.host) hn _
  · rw [handle_of_unsubscribe c hr]
    refine ⟨fun hd => ?_, fun qn q ha hb => ⟨fun hblank => ?_, fun hq hqn => ?_⟩⟩
    · rcases hd with hd | hd
      · simp [unsubscribe, hd, Served.Answers, Response.text]
      · cases ha : decodeSegment a <;> simp [unsubscribe, ha, hd, Served.Answers, Response.text]
    · have hv : (⟨q, qn, .empty, .empty⟩ : Subscription).validate ≠ none := fun hv => by
        rcases hblank with hb' | hb' <;>
          simp_all [(Subscription.validate_eq_none_iff _).1 hv]
      obtain ⟨e, he⟩ := Option.ne_none_iff_exists'.1 hv
      simp only [unsubscribe, ha, hb, he, Served.Answers, true_and]
      exact ⟨_, rfl, Subscription.validate_status he⟩
    · have hv : (⟨q, qn, .empty, .empty⟩ : Subscription).validate = none :=
        (Subscription.validate_eq_none_iff _).2 ⟨hq, hqn⟩
      simp only [unsubscribe, ha, hb, hv]
      exact ⟨fun hn => by simp only [announce_of_closed c _ hn],
        fun n h hn => announce_of_open c false _ (RelayHost.wallMs c.host) hn _⟩

end ControlPlane

/-- A relay with no workers whose sequence was never loaded. -/
def unloadedRelay : Supervisor :=
  { world := { wallMs := 0, sources := [], stopWhenDone := false }, workers := [],
    flushInterval := ⟨1⟩, shutdownTimeout := ⟨1⟩, budget := 1 }

/-- The control plane of that relay, over an empty snapshot. -/
def unloadedPlane : ControlPlane Supervisor :=
  { host := unloadedRelay, sourceId := "src", pages := fun _ _ => .ok {}, pageBudget := 1 }

/-- The announcement of the query `q` of the node `n`. -/
def announceRequest : Request :=
  { method := "POST", target := "/subscription", contentType := some "application/json",
    body := "\x7b\"queryId\":\"q\",\"queryNodeId\":\"n\"\x7d" }

/-- Before its sequence is loaded, the relay's `POST /subscription` handler, given a valid
subscription, draws no number, offers nothing to the publisher and never answers. -/
theorem announcement_waits_unloaded :
    (unloadedPlane.withSubscription announceRequest ControlPlane.subscribe).2 = .pending ∧
    (unloadedPlane.withSubscription announceRequest ControlPlane.subscribe).1.host.world.sequence =
      unloadedRelay.world.sequence ∧
    (unloadedPlane.withSubscription announceRequest ControlPlane.subscribe).1.host.world.attempts =
      [] := by
  have hs : (ControlPlane.subscriptionOf announceRequest).isOk = true := by decide +kernel
  obtain ⟨s, hs⟩ : ∃ s, ControlPlane.subscriptionOf announceRequest = .ok s := by
    cases h : ControlPlane.subscriptionOf announceRequest with
    | error e => rw [h] at hs; cases hs
    | ok s => exact ⟨s, rfl⟩
  have hn : RelayHost.nextSequence unloadedPlane.host = none := rfl
  have hw : unloadedPlane.withSubscription announceRequest ControlPlane.subscribe =
      (unloadedPlane, .pending) := by
    simp only [ControlPlane.withSubscription, hs, ControlPlane.subscribe,
      ControlPlane.announce_of_closed _ _ hn]
  rw [hw]
  exact ⟨rfl, rfl, rfl⟩

/-- A pod named `web-0`. -/
def podNode : Entity := .node "web-0" (Labels.ofList ["Pod"]) []

/-- The relay with its sequence loaded at 0; its publisher takes every batch. -/
def loadedRelay : Supervisor :=
  { unloadedRelay with world := { unloadedRelay.world with sequence := { loaded := true } } }

/-- The control plane of that relay, over a snapshot of one page holding the pod. -/
def loadedPlane : ControlPlane Supervisor :=
  { host := loadedRelay, sourceId := "src", pages := fun _ _ => .ok { entities := [podNode] },
    pageBudget := 1 }

/-- A query of the node `n` that wants pods. -/
def podSubscription : Subscription := ⟨"q", "n", Labels.ofList ["Pod"], .empty⟩

/-- The announcement of that query. -/
def podRequest : Request :=
  { method := "POST", target := "/subscription", contentType := some "application/json",
    body := "\x7b\"queryId\":\"q\",\"queryNodeId\":\"n\",\"nodeLabels\":[\"Pod\"]\x7d" }

/-- Once its sequence is loaded, the relay's `POST /subscription` handler, given a valid
subscription, publishes the control insert of the query with the number 1, then reads the
snapshot and answers 200 with the pod. -/
theorem announcement_answers_snapshot :
    (loadedPlane.handle podRequest).1.host.world.published =
      [(subscriptionTable, [controlNote true podSubscription.controlEntity 1 0])] ∧
    (loadedPlane.handle podRequest).2 =
      .response (Response.json 200 (Snapshot.ofList [podNode]).toJson) := by
  have hr : Route.dispatch podRequest.method podRequest.target = .route .subscribe := by
    simp +decide [podRequest, Route.dispatch, segmentsOf, pathOf, String.splitOn, String.splitOnAux]
  have hfields : (ControlPlane.subscriptionOf podRequest).toOption.map
      (fun s => (s.queryId, s.queryNodeId, s.nodeLabels.toList, s.relLabels.toList)) =
      some ("q", "n", ["Pod"], []) := by
    decide +kernel
  have hs : ControlPlane.subscriptionOf podRequest = .ok podSubscription := by
    revert hfields
    cases ControlPlane.subscriptionOf podRequest with
    | error e => intro h; cases h
    | ok s =>
      obtain ⟨q, n, ⟨nl, hnl⟩, ⟨rl, hrl⟩⟩ := s
      intro h
      simp only [Except.toOption, Option.map_some, Option.some.injEq, Prod.mk.injEq] at h
      obtain ⟨rfl, rfl, rfl, rfl⟩ := h
      rfl
  let drawn : Supervisor :=
    { loadedRelay with world := { loadedRelay.world with sequence := { value := 1, loaded := true } } }
  have hn : RelayHost.nextSequence loadedPlane.host = some (.ok 1, drawn) := rfl
  let note := controlNote true podSubscription.controlEntity 1 (RelayHost.wallMs loadedPlane.host)
  let announced : Supervisor := (RelayHost.publish drawn loadedPlane.sourceId [note]).1
  have hp : RelayHost.publish drawn loadedPlane.sourceId [note] = (announced, some (.ok ())) := rfl
  have routes := ControlPlane.subscription_routes loadedPlane podRequest
  have hhandle : loadedPlane.handle podRequest =
      { loadedPlane with host := announced }.acquire podSubscription :=
    ((routes.1 hr).2 podSubscription hs).2.2 1 drawn hn announced _ hp
  have hpaged : Paged ({ loadedPlane with host := announced }.nextPages) 0 none
      [(none, [podNode])] none :=
    @Paged.last _ 0 none { entities := [podNode] } rfl rfl
  obtain ⟨hhost, hanswer, -⟩ := routes.2.2 { loadedPlane with host := announced } podSubscription
  rw [hhandle, hhost, (hanswer _ _ hpaged (Nat.le_refl 1)).1 rfl]
  exact ⟨rfl, rfl⟩

end ChangeRelay
