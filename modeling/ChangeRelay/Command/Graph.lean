import ChangeRelay.Command.Basic
import ChangeRelay.Event.Mapping
import ChangeRelay.Graph.Subscription
import ChangeRelay.Graph.Snapshot

/-!
# Commands on the graph model

Commands that map source events, read back notifications, entities, subscriptions and
snapshots, check the shape rule, derive relation ids, and describe errors.
-/

namespace ChangeRelay.Command

open Decode

/-- An optional entity as a report member. -/
def entityJson : Option Entity → Json
  | some e => e.toJson
  | none => .null

/-- Maps `event` received at `received_ms` and stamps the change with `sequence`, `db`,
`partition` and `cursor`. -/
def mapEvent (req : Json) : Answer := do
  let ev ← typed SourceEvent.decode (member req "event")
  let received ← option req "received_ms" u64 0
  let seq ← option req "sequence" u64 1
  let db ← option req "db" string "src"
  let partition ← option req "partition" string "p"
  let cursor ← option req "cursor" (Decode.option string) none
  match ← relayed (ev.toChange received) with
  | none => return Json.mkObj [("change", .null)]
  | some c =>
    let n := c.stamp seq db partition cursor
    return Json.mkObj [("change", n.toJson), ("entity_id", Json.ofOption n.entityId),
      ("valid", outcomeJson n.validate)]

/-- Maps `event` and shows the change before it is stamped. -/
def mapChange (req : Json) : Answer := do
  let ev ← typed SourceEvent.decode (member req "event")
  let received ← option req "received_ms" u64 0
  match ← relayed (ev.toChange received) with
  | none => return Json.mkObj [("mapped", .null)]
  | some c =>
    return Json.mkObj [("mapped", Json.mkObj [("op", .str c.op.letter),
      ("ts_ms", Json.ofNat c.tsMs), ("before", entityJson c.before), ("after", entityJson c.after)])]

/-- Reads a notification back and checks it. -/
def readNotification (req : Json) : Answer := do
  let n ← typed Notification.decode (member req "value")
  return Json.mkObj [("notification", n.toJson), ("validate", outcomeJson n.validate),
    ("entity_id", Json.ofOption n.entityId)]

/-- Reads an entity back, and tests it against `wanted` labels when given. -/
def readEntity (req : Json) : Answer := do
  let e ← typed Entity.decode (member req "value")
  let wanted ← option req "wanted" (fun j => some <$> Labels.decode j) none
  let base := [("entity", e.toJson), ("id", Json.str e.id), ("is_relation", Json.bool e.isRelation),
    ("labels", e.labels.toJson), ("properties", Json.obj e.properties)]
  let extra := match wanted with
    | some w => [("has_any_label", Json.bool (e.hasAnyLabel w))]
    | none => []
  return Json.mkObj (base ++ extra)

/-- Reads a subscription back, checks it and shows its control node. -/
def readSubscription (req : Json) : Answer := do
  let s ← typed Subscription.decode (member req "value")
  return Json.mkObj [("request", s.toJson), ("validate", outcomeJson s.validate),
    ("control_entity", s.controlEntity.toJson),
    ("entity_id", .str (Subscription.entityIdOf s.queryNodeId s.queryId))]

/-- Checks the shape rule for an op and the presence of before and after. -/
def checkShape (req : Json) : Answer := do
  let op ← typed ChangeOp.decode (member req "change_op")
  let before ← input req "before" bool
  let after ← input req "after" bool
  return Json.mkObj [("validate", outcomeJson (op.shapeError before after)),
    ("display", .str op.letter)]

/-- The id of a derived relation. -/
def deriveEdgeId (req : Json) : Answer := do
  let s ← input req "start" string
  let l ← input req "label" string
  let e ← input req "end" string
  return Json.mkObj [("edge_id", .str (edgeId s l e))]

/-- Builds a snapshot from entities in order. -/
def buildSnapshot (req : Json) : Answer := do
  let es ← typed (list Entity.decode) (member req "entities")
  let s := Snapshot.ofList es
  return Json.mkObj [("snapshot", s.toJson), ("len", Json.ofNat s.size),
    ("is_empty", Json.bool s.isEmpty)]

/-- Describes an error: its kind, words and classes. -/
def describeError (req : Json) : Answer := do
  let e ← errorOf (member req "value")
  return Json.mkObj [("kind", .str e.kind), ("display", .str e.message),
    ("retryable", Json.bool e.isRetryable), ("fatal", Json.bool e.isFatal)]

end ChangeRelay.Command
