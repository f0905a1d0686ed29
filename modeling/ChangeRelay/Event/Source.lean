import ChangeRelay.Json.Basic
import ChangeRelay.Decode.Basic

/-!
# Source events

What a change source hands the relay, before it becomes a change: a Kubernetes watch event, an
Event Hub message, a Dataverse change record, a row change of a relational capture, or a
heartbeat. On the wire each is an object whose `kind` names which (`SourceEvent.decode`); the
Dataverse record is itself tagged by `type`.
-/

namespace ChangeRelay

/-- What a Kubernetes watch event reports. -/
inductive WatchKind where
  | added
  | modified
  | deleted
  | bookmark
  deriving DecidableEq, Repr

/-- A Dataverse change record. -/
inductive DataverseChange where
  /-- A record created or updated, with the attributes before when the feed knows them. -/
  | newOrUpdated (id : String) (attributes : Json.Fields) (previous : Option Json.Fields)
  /-- A record removed. -/
  | removedOrDeleted (id : String) (attributes : Option Json.Fields)

/-- What a relational capture did to a row. -/
inductive RowOp where
  | create
  | update
  | delete
  | read
  | truncate
  deriving DecidableEq, Repr

/-- An event of a change source. -/
inductive SourceEvent where
  | kubernetes (kind : WatchKind) (object : Json) (previous : Option Json)
  | eventHub (partition : String) (sequenceNumber : Int) (enqueuedMs : Nat) (body : String)
      (properties : Json.Fields)
  | dataverse (entity : String) (change : DataverseChange)
  | relational (op : RowOp) (table : String) (before after : Option Json) (tsMs : Nat)
  | heartbeat

namespace WatchKind

/-- The names of the watch kinds on the wire. -/
def names : List (String × WatchKind) :=
  [("ADDED", .added), ("MODIFIED", .modified), ("DELETED", .deleted), ("BOOKMARK", .bookmark)]

/-- The kind's name on the wire. -/
def name : WatchKind → String
  | .added => "ADDED"
  | .modified => "MODIFIED"
  | .deleted => "DELETED"
  | .bookmark => "BOOKMARK"

end WatchKind

namespace RowOp

/-- The letters of the row ops on the wire. -/
def letters : List (String × RowOp) :=
  [("c", .create), ("u", .update), ("d", .delete), ("r", .read), ("t", .truncate)]

/-- The op's letter on the wire. -/
def letter : RowOp → String
  | .create => "c"
  | .update => "u"
  | .delete => "d"
  | .read => "r"
  | .truncate => "t"

/-- The op's name in messages. -/
def title : RowOp → String
  | .create => "Create"
  | .update => "Update"
  | .delete => "Delete"
  | .read => "Read"
  | .truncate => "Truncate"

end RowOp

namespace DataverseChange

open Decode in
/-- A Dataverse change record, tagged by `type`. -/
def decode : Decoder DataverseChange :=
  tagged "type" "DataverseChange" [
    ("NewOrUpdated",
      ((fun i a p => DataverseChange.newOrUpdated i a p) <$> Form.required "id" string
        <*> Form.withDefault "attributes" object []
        <*> Form.withDefault "previous" (option object) none).decode
        "struct variant DataverseChange::NewOrUpdated"),
    ("RemovedOrDeleted",
      ((fun i a => DataverseChange.removedOrDeleted i a) <$> Form.required "id" string
        <*> Form.withDefault "attributes" (option object) none).decode
        "struct variant DataverseChange::RemovedOrDeleted")]

/-- An optional object as JSON. -/
def fieldsJson : Option Json.Fields → Json
  | some fs => .obj fs
  | none => .null

/-- The record as a JSON object. -/
def toJson : DataverseChange → Json
  | .newOrUpdated i a p =>
    Json.mkObj [("type", .str "NewOrUpdated"), ("id", .str i), ("attributes", .obj a),
      ("previous", fieldsJson p)]
  | .removedOrDeleted i a =>
    Json.mkObj [("type", .str "RemovedOrDeleted"), ("id", .str i), ("attributes", fieldsJson a)]

end DataverseChange

namespace SourceEvent

open Decode in
/-- A source event, tagged by `kind`. -/
def decode : Decoder SourceEvent :=
  tagged "kind" "RawEvent" [
    ("kubernetes",
      ((fun k o p => SourceEvent.kubernetes k o p)
        <$> Form.required "event_type" (unitVariant WatchKind.names)
        <*> Form.required "object" value
        <*> Form.withDefault "previous" (option value) none).decode
        "struct variant RawEvent::Kubernetes"),
    ("event_hub",
      ((fun p s e b ps => SourceEvent.eventHub p s e b ps)
        <$> Form.required "partition" string
        <*> Form.required "sequence_number" i64
        <*> Form.required "enqueued_time_ms" u64
        <*> Form.required "body" string
        <*> Form.withDefault "properties" object []).decode
        "struct variant RawEvent::EventHub"),
    ("dataverse",
      ((fun e c => SourceEvent.dataverse e c)
        <$> Form.required "entity" string
        <*> Form.required "change" DataverseChange.decode).decode
        "struct variant RawEvent::Dataverse"),
    ("relational",
      ((fun o t b a ts => SourceEvent.relational o t b a ts)
        <$> Form.required "op" (unitVariant RowOp.letters)
        <*> Form.required "table" string
        <*> Form.withDefault "before" (option value) none
        <*> Form.withDefault "after" (option value) none
        <*> Form.required "ts_ms" u64).decode
        "struct variant RawEvent::Relational"),
    ("heartbeat", fun _ => .ok .heartbeat)]

/-- An optional value as JSON. -/
def optionJson : Option Json → Json
  | some j => j
  | none => .null

/-- The event as a JSON object. -/
def toJson : SourceEvent → Json
  | .kubernetes k o p =>
    Json.mkObj [("kind", .str "kubernetes"), ("event_type", .str k.name), ("object", o),
      ("previous", optionJson p)]
  | .eventHub p s e b ps =>
    Json.mkObj [("kind", .str "event_hub"), ("partition", .str p),
      ("sequence_number", Json.ofInt s), ("enqueued_time_ms", Json.ofNat e), ("body", .str b),
      ("properties", .obj ps)]
  | .dataverse e c => Json.mkObj [("kind", .str "dataverse"), ("entity", .str e), ("change", c.toJson)]
  | .relational o t b a ts =>
    Json.mkObj [("kind", .str "relational"), ("op", .str o.letter), ("table", .str t),
      ("before", optionJson b), ("after", optionJson a), ("ts_ms", Json.ofNat ts)]
  | .heartbeat => Json.mkObj [("kind", .str "heartbeat")]

end SourceEvent

end ChangeRelay
