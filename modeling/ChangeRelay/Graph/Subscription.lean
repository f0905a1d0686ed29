import ChangeRelay.Graph.Change
import ChangeRelay.Decode.Streaming
import ChangeRelay.Text.Blank

/-!
# Subscriptions

A continuous query subscribes to the relay with its id, the id of the query node that runs it,
and the node and relation labels it wants. The relay announces a subscription as a control node
`queryNodeId.queryId` labelled `SourceSubscription`, published like any change, so consumers see
it in order with the data.
-/

namespace ChangeRelay

/-- The database name of control changes. -/
def controlDb : String := "Drasi"

/-- The table, partition and label of subscription control changes. -/
def subscriptionTable : String := "SourceSubscription"

/-- A query's subscription. -/
structure Subscription where
  queryId : String
  queryNodeId : String
  nodeLabels : Labels
  relLabels : Labels
  deriving Inhabited

namespace Subscription

/-- The id of a subscription's control node. -/
def entityIdOf (queryNodeId queryId : String) : String := queryNodeId ++ "." ++ queryId

/-- Both ids must be more than blanks, the query's first. -/
def validate (s : Subscription) : Option RelayError :=
  if Text.isBlankText s.queryId then some (.invalidRequest "queryId is required")
  else if Text.isBlankText s.queryNodeId then some (.invalidRequest "queryNodeId is required")
  else none

/-- The control node announcing the subscription. -/
def controlEntity (s : Subscription) : Entity :=
  .node (entityIdOf s.queryNodeId s.queryId) (Labels.ofList [subscriptionTable])
    (Json.Fields.ofList [("queryId", .str s.queryId), ("queryNodeId", .str s.queryNodeId),
      ("nodeLabels", s.nodeLabels.toJson), ("relLabels", s.relLabels.toJson)])

/-- The subscription as a JSON object. -/
def toJson (s : Subscription) : Json :=
  Json.mkObj [("queryId", .str s.queryId), ("queryNodeId", .str s.queryNodeId),
    ("nodeLabels", s.nodeLabels.toJson), ("relLabels", s.relLabels.toJson)]

open Decode in
/-- The members of a subscription. -/
def shape : Shape Subscription :=
  (fun q n nl rl => Subscription.mk q n nl rl) <$> Form.required "queryId" string
    <*> Form.required "queryNodeId" string
    <*> Form.withDefault "nodeLabels" Labels.decode Labels.empty
    <*> Form.withDefault "relLabels" Labels.decode Labels.empty

/-- A subscription from its JSON object. -/
def decode : Decode.Decoder Subscription := shape.decode "struct SubscriptionRequest"

/-- The members of a subscription as its text gives them: both ids, then the label sets, which
may be left out. -/
def members : List Decode.Member :=
  [⟨"queryId", .string, false⟩, ⟨"queryNodeId", .string, false⟩,
    ⟨"nodeLabels", .strings, true⟩, ⟨"relLabels", .strings, true⟩]

/-- A subscription read straight from its text, or the first fault in the text. -/
def readText (text : String) : Except Decode.ReadFault Subscription :=
  match Decode.readRecord "SubscriptionRequest" members text with
  | .error e => .error e
  | .ok got =>
    let labels (k : String) : Labels := match got.lookup k with
      | some (.arr xs) => Labels.ofList (xs.filterMap Json.str?)
      | _ => Labels.empty
    let text (k : String) : String := ((got.lookup k).bind Json.str?).getD ""
    .ok ⟨text "queryId", text "queryNodeId", labels "nodeLabels", labels "relLabels"⟩

end Subscription

end ChangeRelay
