import ChangeRelay.Command.Basic
import ChangeRelay.Graph.Bootstrap

/-!
# Commands on the bootstrap

The request lists the pages of a snapshot source by token (the first page's token is empty), each
a page or the error asking for it gives. A token without a page fails as the source would
(`no such page`), and so does every call after the first `pageLimit`, which bounds a source whose
pages go round in a circle.
-/

namespace ChangeRelay.Command

open Decode

/-- The number of pages the source serves. -/
def pageLimit : Nat := 200

/-- A page of the request, or the error asking for it gives. -/
def pageOf (j : Json) : Except Refusal (Except RelayError SnapshotPage) :=
  match j.field? "fail" with
  | some spec => .error <$> errorOf spec
  | none => .ok <$> typed SnapshotPage.decode j

/-- The source serving pages by token. -/
def pageSource (pages : List (String × Except RelayError SnapshotPage)) : PageSource := fun n token =>
  if pageLimit ≤ n then .error (.source "snapshot" "driver page limit reached")
  else
    match pages.find? (·.1 == token.getD "") with
    | some (_, p) => p
    | none => .error (.source "snapshot" "no such page")

/-- The tokens asked for as a report member. -/
def callsJson (calls : List (Option String)) : Json := .arr (calls.map Json.ofOption)

/-- Reads the snapshot the request describes: the whole of it, or at most `limit` entities. -/
def bootstrapSnapshot (req : Json) : Answer := do
  let fields ← option req "pages" object []
  let pages ← fields.mapM fun (k, v) => do pure (k, ← pageOf v)
  let s ← input req "request" Subscription.decode
  let limit ← option req "limit" (Decode.option u64) none
  let source := pageSource pages
  match limit with
  | none =>
    let (calls, r) := acquireSnapshot source s (pageLimit + 1)
    match r with
    | .ok snap => return Json.mkObj [("snapshot", snap.toJson), ("calls", callsJson calls)]
    | .error e => return Json.mkObj [("failed", errorJson e), ("calls", callsJson calls)]
  | some l =>
    let w := readSnapshot source s (some l) (pageLimit + 1)
    return Json.mkObj [("items", .arr (w.items.map Entity.toJson)), ("failed", outcomeJson w.failed),
      ("calls", callsJson w.calls)]

end ChangeRelay.Command
