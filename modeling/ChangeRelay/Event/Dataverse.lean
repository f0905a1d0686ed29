import ChangeRelay.Event.Source
import ChangeRelay.Event.Payload
import ChangeRelay.Graph.Change

/-!
# Dataverse change records

A record becomes a node labelled with its entity name, whose properties are the record's
attributes. A new or updated record is an insert, or an update from the previous attributes when
the feed supplies them, at its `modifiedon` time; a removed record is a delete at its
`deletetime`. Without a readable time the change takes the time it was received.
-/

namespace ChangeRelay.Dataverse

/-- The change a record reports, received at `received`. -/
def change (entity : String) (c : DataverseChange) (received : Nat) : Change :=
  let labels := Labels.ofList [entity]
  match c with
  | .newOrUpdated id attrs previous =>
    let ts := (instantMillis (Json.Fields.get? "modifiedon" attrs)).getD received
    let after := Entity.node id labels attrs
    match previous with
    | some prev => .update (.node id labels prev) after ts
    | none => .insert after ts
  | .removedOrDeleted id attrs =>
    let attrs := attrs.getD []
    let ts := (instantMillis (Json.Fields.get? "deletetime" attrs)).getD received
    .delete (.node id labels attrs) ts

end ChangeRelay.Dataverse
