import ChangeRelay.Command.Basic
import ChangeRelay.Command.Bootstrap
import ChangeRelay.Config.Check
import ChangeRelay.Feed
import ChangeRelay.Sidecar

/-!
# Commands on the feed client and the sidecar publisher

These commands talk to a server on the loopback interface, at the port the environment names. The
server never answers: every request fails to be sent, so each call reports its transport fault,
and the list of requests the server saw stays empty.

The feed command reads a feed configuration (its base URL is the loopback server's, followed by
`base_suffix`) and runs pulls and snapshot pages. The sidecar command reads a publisher
configuration (its host and port are the loopback server's) and publishes batches through the
breaker, one instant apart.
-/

namespace ChangeRelay.Command

open Decode Http

/-- What a command runs against besides its request: the wall clock in milliseconds, and the
port of the loopback server. -/
structure Environment where
  wallMs : Nat
  loopbackPort : Nat

/-- The loopback server's address. -/
def Environment.loopbackHost (env : Environment) : String :=
  "127.0.0.1:" ++ toString env.loopbackPort

/-- A step of the feed command. -/
def feedStep (f : Feed) (t : Transport) (st : Json) : Except Refusal Json := do
  match st.field? "pull" with
  | some p =>
    let partition ← typed string p
    let cursor ← option st "cursor" (Decode.option string) none
    let result := match f.pull t partition cursor with
      | .ok b => Json.mkObj [("batch", b.toJson)]
      | .error e => errorJson e
    pure (Json.mkObj [("partition", .str partition), ("initial_cursor", .null), ("result", result)])
  | none =>
    let token ← option st "page" (Decode.option string) none
    match f.page t token with
    | .ok p => pure (Json.mkObj [("page", p.toJson)])
    | .error e => pure (errorJson e)

/-- Runs pulls and pages against the loopback server. -/
def feedRun (env : Environment) (req : Json) : Answer := do
  let settings ← option req "feed" (Form.decode FeedSettings.form "struct FeedConfig") {}
  let suffix ← option req "base_suffix" string ""
  let f := Feed.ofSettings { settings with baseUrl := "http://" ++ env.loopbackHost ++ suffix }
  let steps ← option req "steps" (list value) []
  let results ← steps.mapM (feedStep f Transport.unreachable)
  return Json.mkObj [("results", .arr results), ("requests", .arr [])]

/-- Publishes the batches of the steps against the loopback server. -/
def daprRun (env : Environment) (req : Json) : Answer := do
  let settings ← option req "publisher" (Form.decode PublisherSettings.form "struct PublisherConfig") {}
  let settings := { settings with daprHost := "127.0.0.1", daprPort := env.loopbackPort }
  let steps ← option req "steps" (list value) []
  let calls ← steps.mapM fun st => do
    let sourceId ← option st "source_id" string "src"
    let batch ← option st "batch" (list Notification.decode) []
    pure (sourceId, batch)
  let (p, results, _) := calls.foldl (fun (p, rs, now) (sourceId, batch) =>
    let (p, r) := p.publish Transport.unreachable now sourceId batch
    let url := p.publishUrl (sourceId ++ "-change")
    let result := match r with
      | .ok () => Json.null
      | .error e => errorJson e
    (p, rs ++ [Json.mkObj [("url", .str url), ("result", result)]], now + 1))
    (Sidecar.ofSettings settings, ([] : List Json), 1)
  let c := p.circuit
  return Json.mkObj [("results", .arr results), ("requests", .arr []),
    ("circuit", Json.mkObj [("name", .str c.name), ("calls_total", Json.ofNat c.callsTotal),
      ("failures", Json.ofNat c.failures), ("rejections", Json.ofNat c.rejections)])]

end ChangeRelay.Command
