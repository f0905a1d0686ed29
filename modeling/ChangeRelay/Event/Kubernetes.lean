import ChangeRelay.Event.Source
import ChangeRelay.Event.Payload
import ChangeRelay.Graph.Change

/-!
# Kubernetes watch events

A watched object becomes a node labelled with its `kind` (`Resource` when it has none), whose id
is `namespace/name` (just `name` outside a namespace). Its properties are its name and namespace,
the metadata fields `uid`, `resourceVersion`, `labels`, `annotations` and `creationTimestamp`,
and then every top-level member but `apiVersion`, `kind` and `metadata`, which win over the
earlier ones. A `Binding` instead becomes the relation `SCHEDULED_ON` from the bound object to
its target.

An added object is an insert, a modified one an update from the previous object when the watcher
supplies it (else an insert), a deleted one a delete at its deletion time. Bookmarks carry no
change.
-/

namespace ChangeRelay.Kubernetes

/-- The label of a binding's relation. -/
def scheduledOn : String := "SCHEDULED_ON"

/-- Top-level members that describe the object rather than belong to it. -/
def envelope : List String := ["apiVersion", "kind", "metadata"]

/-- Metadata fields kept as properties. -/
def keptMetadata : List String := ["uid", "resourceVersion", "labels", "annotations",
  "creationTimestamp"]

/-- A member of an optional object. -/
def member? (fs : Option Json.Fields) (k : String) : Option Json := fs.bind (Json.Fields.get? k)

/-- The entity a watched object stands for. -/
def entityOf (object : Json) : Except RelayError Entity := do
  let obj ← match object with
    | .obj fs => pure fs
    | _ => throw (.mapping "kubernetes object is not a JSON object")
  let kind := ((Json.Fields.get? "kind" obj).bind Json.str?).getD "Resource"
  let metadata := (Json.Fields.get? "metadata" obj).bind Json.obj?
  let name ← match (member? metadata "name").bind Json.str? with
    | some n => if n.isEmpty then throw (.mapping (kind ++ " has no metadata.name")) else pure n
    | none => throw (.mapping (kind ++ " has no metadata.name"))
  let nsName := (member? metadata "namespace").bind Json.str?
  let id := match nsName with
    | some ns => if ns.isEmpty then name else ns ++ "/" ++ name
    | none => name
  if kind = "Binding" then
    let target := Json.Fields.get? "target" obj
    let targetName ← match (target.bind (·.field? "name")).bind Json.str? with
      | some t => pure t
      | none => throw (.mapping "Binding has no target.name")
    let props := match target.bind (·.field? "kind") with
      | some k => [("targetKind", k)]
      | none => []
    return .relation (edgeId id scheduledOn targetName) (Labels.ofList [scheduledOn]) props id
      targetName
  let props : Json.Fields := Json.Fields.insert "name" (.str name) []
  let props := match nsName with
    | some ns => Json.Fields.insert "namespace" (.str ns) props
    | none => props
  let props := keptMetadata.foldl (fun acc k =>
    match member? metadata k with
    | some v => Json.Fields.insert k v acc
    | none => acc) props
  let props := obj.foldl (fun acc (k, v) =>
    if envelope.contains k then acc else Json.Fields.insert k v acc) props
  return .node id (Labels.ofList [kind]) props

/-- The change a watch event reports, received at `received`. -/
def change (kind : WatchKind) (object : Json) (previous : Option Json) (received : Nat) :
    Except RelayError (Option Change) := do
  if kind = .bookmark then return none
  let entity ← entityOf object
  match kind with
  | .added => return some (.insert entity received)
  | .modified =>
    match previous with
    | some p => return some (.update (← entityOf p) entity received)
    | none => return some (.insert entity received)
  | .deleted =>
    let ts := (instantMillis ((object.field? "metadata").bind (·.field? "deletionTimestamp"))).getD
      received
    return some (.delete entity ts)
  | .bookmark => return none

end ChangeRelay.Kubernetes
