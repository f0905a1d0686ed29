import ChangeRelay.Graph.Snapshot
import ChangeRelay.Graph.Subscription

/-!
# Bootstrap: the snapshot a new query starts from

A new continuous query needs the present state of every node and relation it wants before it can
apply live changes. The snapshot is read page by page from a source, starting with the first page
(no token) and following each page's `nextPage` until a page has none, and only the entities that
share a label with the query's labels of their kind are kept; an empty set of labels keeps
nothing of its kind.

Reading is lazy: a reader that wants at most `limit` entities stops asking for pages as soon as it
has them. A reading asks for at most a given number of pages; one that would ask for more is
marked `exhausted`. A page that fails ends the reading with `listing page <token> failed: <why>` (`<first>`
for the first page), and a page whose `nextPage` is the token it was asked with ends it with
`page token '<t>' did not advance`, before its entities are read.
-/

namespace ChangeRelay

/-- A page of a snapshot listing. -/
structure SnapshotPage where
  entities : List Entity := []
  /-- The token of the following page, none on the last page. -/
  nextPage : Option String := none
  deriving Inhabited

open Decode in
/-- The members of a snapshot page. -/
def SnapshotPage.shape : Shape SnapshotPage :=
  (fun es n => SnapshotPage.mk es n) <$> Form.withDefault "entities" (list Entity.decode) []
    <*> Form.withDefault "nextPage" (option string) none

/-- A snapshot page from its JSON object. -/
def SnapshotPage.decode : Decode.Decoder SnapshotPage := SnapshotPage.shape.decode "struct SnapshotPage"

/-- The page as a JSON object. -/
def SnapshotPage.toJson (p : SnapshotPage) : Json :=
  Json.mkObj [("entities", .arr (p.entities.map Entity.toJson)), ("nextPage", Json.ofOption p.nextPage)]

/-- A source of snapshot pages: the page of a token, given the number of pages asked for before. -/
abbrev PageSource := Nat → Option String → Except RelayError SnapshotPage

/-- How far a reading of the snapshot got. -/
structure Walk where
  /-- The tokens asked for, in order, none for the first page. -/
  calls : List (Option String) := []
  /-- The entities kept, in order. -/
  items : List Entity := []
  failed : Option RelayError := none
  /-- Whether the reading used up the pages it may ask for with the next page still unasked. -/
  exhausted : Bool := false
  deriving Inhabited

/-- Whether a reading has all the entities it wants. -/
def Walk.full (w : Walk) (limit : Option Nat) : Bool :=
  match limit with
  | some l => l ≤ w.items.length
  | none => false

/-- Whether an entity is wanted by a query with these labels. -/
def Subscription.wants (s : Subscription) (e : Entity) : Bool :=
  e.hasAnyLabel (if e.isRelation then s.relLabels else s.nodeLabels)

/-- The failure that ends a reading when the page of `token` cannot be listed. -/
def listingFailed (token : Option String) (e : RelayError) : RelayError :=
  .bootstrap ("listing page " ++ token.getD "<first>" ++ " failed: " ++ e.message)

/-- The failure that ends a reading when a page names the token it was asked with as the next
one. -/
def stalled (token : String) : RelayError :=
  .bootstrap ("page token '" ++ token ++ "' did not advance")

/-- Reads pages from `token` on, keeping what `wanted` keeps, at most `limit` entities, and at
most `fuel` pages. -/
def walkFrom (source : PageSource) (wanted : Entity → Bool) (limit : Option Nat) :
    Nat → Option String → Walk → Walk
  | 0, _, w => { w with exhausted := true }
  | fuel + 1, token, w =>
    if w.full limit then w
    else
      let asked := w.calls.length
      let w := { w with calls := w.calls ++ [token] }
      match source asked token with
      | .error e => { w with failed := some (listingFailed token e) }
      | .ok page =>
        if page.nextPage.isSome && page.nextPage == token then
          { w with failed := some (stalled (page.nextPage.getD "")) }
        else
          let kept := w.items ++ page.entities.filter wanted
          let w := { w with items := match limit with
            | some l => kept.take l
            | none => kept }
          match page.nextPage with
          | some next => walkFrom source wanted limit fuel (some next) w
          | none => w

/-- Reads the snapshot for a subscription, at most `limit` entities and `fuel` pages. -/
def readSnapshot (source : PageSource) (s : Subscription) (limit : Option Nat) (fuel : Nat) : Walk :=
  walkFrom source s.wants limit fuel none {}

/-- The whole snapshot for a subscription, or the failure that ended the reading; no part of
the snapshot is kept on a failure. -/
def acquireSnapshot (source : PageSource) (s : Subscription) (fuel : Nat) :
    List (Option String) × Except RelayError Snapshot :=
  let w := readSnapshot source s none fuel
  (w.calls, match w.failed with
    | some e => .error e
    | none => .ok (Snapshot.ofList w.items))

/-- A reading that wants no entity asks for no page. -/
theorem walkFrom_zero_limit (source : PageSource) (wanted : Entity → Bool) (fuel : Nat)
    (token : Option String) : walkFrom source wanted (some 0) (fuel + 1) token {} = {} := by
  simp [walkFrom, Walk.full]

end ChangeRelay
