import ChangeRelay.Http.Client
import ChangeRelay.Config.Basic
import ChangeRelay.Event.Batch
import ChangeRelay.Graph.Bootstrap
import ChangeRelay.Json.Reader
import ChangeRelay.Text.Blank

/-!
# The HTTP feed

A source adapter serves its changes and its snapshot over HTTP:

* `GET <base>/changes/<partition>?cursor=<token>` answers the batch after a cursor;
* `GET <base>/changes/<partition>?from=now` (or `from=beginning`) the first batch, without one;
* `GET <base>/snapshot?page=<token>` a page of the snapshot, the first without a token.

The base URL loses its trailing slashes; the partition is put into the URL text as it is, so the
URL's reading encodes it; query values are form-encoded. A bearer token, when configured, is
sent with every request.

A success must carry the JSON the caller wants; anything else is a malformed response. A
failure status is worded `<code> <reason>: <body>`, and says by its code who is to blame: 401 and
403 the credentials, 429 and 5xx a passing fault of the source, any other the request itself. A
request that gets no response is a passing fault of the source. Faults are scoped by the
partition, or by `snapshot`.
-/

namespace ChangeRelay

open Http

/-- A client of a source adapter's HTTP feed. -/
structure Feed where
  /-- The base URL without trailing slashes. -/
  base : String
  bearerToken : Option String
  startFrom : StartFrom
  deriving Repr

namespace Feed

/-- The client of a feed's settings. -/
def ofSettings (s : FeedSettings) : Feed :=
  ⟨String.ofList (s.baseUrl.toList.reverse.dropWhile (· == '/')).reverse, s.bearerToken, s.startFrom⟩

/-- The fault of a status that is not a success. -/
def statusFault (scope : String) (code : Nat) (body : String) : RelayError :=
  let message := statusText code ++ ": " ++ Text.trimBlank body
  if code == 401 || code == 403 then .auth (message ++ " (" ++ scope ++ ")")
  else if code == 429 || isServerError code then .source scope message
  else .config ("Feed rejected request for " ++ scope ++ ": " ++ message)

/-- Gets a JSON document from URL text with query pairs, through a transport. -/
def fetch {α : Type} (f : Feed) (t : Transport) (scope urlText : String)
    (pairs : List (String × String)) (decode : Decode.Decoder α) : Except RelayError α :=
  match Url.parse? urlText with
  | none => .error (.source scope ClientFault.badUrl.message)
  | some url =>
    let url := url.withPairs pairs
    match t { method := "GET", url, authorization := f.bearerToken.map ("Bearer " ++ ·) } with
    | .error _ => .error (.source scope (ClientFault.unsent url).message)
    | .ok resp =>
      if !isSuccess resp.status then .error (statusFault scope resp.status resp.body)
      else
        match (Json.parse resp.body).toOption.bind fun j => (decode j).toOption with
        | some a => .ok a
        | none =>
          .error (.source scope ("Malformed feed response: " ++ (ClientFault.undecodable url).message))

/-- The query of a pull: the cursor, or where to start without one. -/
def pullPairs (f : Feed) : Option String → List (String × String)
  | some c => [("cursor", c)]
  | none => [("from", f.startFrom.name)]

/-- Pulls the changes of a partition after a cursor. -/
def pull (f : Feed) (t : Transport) (partition : String) (cursor : Option String) :
    Except RelayError SourceBatch :=
  f.fetch t partition (f.base ++ "/changes/" ++ partition) (f.pullPairs cursor) SourceBatch.decode

/-- Lists a page of the snapshot, the first without a token. -/
def page (f : Feed) (t : Transport) (token : Option String) : Except RelayError SnapshotPage :=
  f.fetch t "snapshot" (f.base ++ "/snapshot") (token.map (fun p => [("page", p)])).toList.flatten
    SnapshotPage.decode

/-- The feed's snapshot as a page source. -/
def pages (f : Feed) (t : Transport) : PageSource := fun _ token => f.page t token

end Feed

end ChangeRelay
