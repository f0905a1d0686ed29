import ChangeRelay.Event.Source
import ChangeRelay.Event.Payload
import ChangeRelay.Graph.Change
import ChangeRelay.Json.Reader

/-!
# Event Hub messages

A message body must be JSON. A body in graph shape, an object with `op` one of `i`, `u`, `d` and
an entity (`graphEntity`: an id, labels as an array or one string, properties, and both endpoint
ids for a relation), becomes that change; an update needs a `before` in graph shape too, else it
is an insert. Any other body becomes the insert of a node `partition-sequence` labelled
`EventHubMessage`, whose properties are the body object (or `{value: body}`). The change's time
is the message's enqueued time. A message with application properties records them, with its
partition and sequence number, as the property `_eventhub` of the entity after (or deleted).
-/

namespace ChangeRelay.EventHub

/-- The label of messages without graph shape. -/
def plainLabel : String := "EventHubMessage"

/-- The entity an object in graph shape describes. -/
def graphEntity (obj : Json.Fields) : Option Entity := do
  let id ← (Json.Fields.get? "id" obj).bind idText
  let labels : List String := match Json.Fields.get? "labels" obj with
    | some (.arr items) => items.map fun l => match l with
      | .str s => s
      | other => other.render
    | some (.str s) => [s]
    | _ => []
  let props : Json.Fields := match Json.Fields.get? "properties" obj with
    | some (.obj p) => p
    | some .null | none => []
    | some other => [("value", other)]
  let start := (Json.Fields.get? "startId" obj).bind idText
  let finish := (Json.Fields.get? "endId" obj).bind idText
  match start, finish with
  | some s, some e => return .relation id (Labels.ofList labels) props s e
  | _, _ => return .node id (Labels.ofList labels) props

/-- An entity with the message's application properties recorded, if there are any. -/
def withMetadata (e : Entity) (partition : String) (seq : Int) (props : Json.Fields) : Entity :=
  if props.isEmpty then e
  else
    let record := Json.mkObj [("partition", .str partition), ("sequenceNumber", Json.ofInt seq),
      ("properties", .obj props)]
    match e with
    | .node i ls ps => .node i ls (Json.Fields.insert "_eventhub" record ps)
    | .relation i ls ps s f => .relation i ls (Json.Fields.insert "_eventhub" record ps) s f

/-- The op, entity and entity before of a body in graph shape. -/
def shaped (body : Json) : Option (String × Entity × Option Entity) := do
  let obj ← body.obj?
  let op ← (Json.Fields.get? "op" obj).bind Json.str?
  if !(op == "i" || op == "u" || op == "d") then none
  let entity ← graphEntity obj
  let before := ((Json.Fields.get? "before" obj).bind Json.obj?).bind graphEntity
  return (op, entity, before)

/-- The change a message carries. -/
def change (partition : String) (seq : Int) (enqueued : Nat) (body : String)
    (props : Json.Fields) : Except RelayError Change := do
  let value ← match Json.parse body with
    | .ok v => pure v
    | .error e => throw (.mapping ("event hub body at " ++ partition ++ ":" ++ toString seq ++
        " is not JSON: " ++ e.message))
  match shaped value with
  | some (op, entity, before) =>
    let entity := withMetadata entity partition seq props
    if op == "d" then return .delete entity enqueued
    match op, before with
    | "u", some b => return .update b entity enqueued
    | _, _ => return .insert entity enqueued
  | none =>
    let fields : Json.Fields := match value with
      | .obj fs => fs
      | other => [("value", other)]
    let entity := Entity.node (partition ++ "-" ++ toString seq) (Labels.ofList [plainLabel]) fields
    return .insert (withMetadata entity partition seq props) enqueued

end ChangeRelay.EventHub
