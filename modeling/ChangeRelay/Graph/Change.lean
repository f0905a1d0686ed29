import ChangeRelay.Graph.Entity
import ChangeRelay.Error

/-!
# Changes and notifications

A `Change` says what happened to one entity: an insert carries the entity after, a delete the
entity before, an update both (`ChangeOp.fits`), with the source's time in milliseconds and the
table it is filed under (`rel` or `node`, from the entity it carries; a control change names its
own). Stamping a change with a sequence number and its provenance (`Change.stamp`) makes the
`Notification` the relay publishes.
-/

namespace ChangeRelay

/-- What a change does. -/
inductive ChangeOp where
  | insert
  | update
  | delete
  deriving DecidableEq, Repr, Inhabited

namespace ChangeOp

/-- The op's letter on the wire. -/
def letter : ChangeOp → String
  | .insert => "i"
  | .update => "u"
  | .delete => "d"

/-- Whether an entity before and after, as present or not, fit the op. -/
def fits : ChangeOp → Bool → Bool → Bool
  | .insert, before, after => !before && after
  | .update, before, after => before && after
  | .delete, before, after => before && !after

/-- The shape rule as an error: `none` when the presence of before and after fits the op. -/
def shapeError (op : ChangeOp) (before after : Bool) : Option RelayError :=
  if op.fits before after then none
  else some (.mapping ("op '" ++ op.letter ++ "' with before=" ++ toString before ++
    " after=" ++ toString after ++ " violates change shape"))

/-- An op from its letter. -/
def decode : Decode.Decoder ChangeOp :=
  Decode.unitVariant [("i", .insert), ("u", .update), ("d", .delete)]

theorem shapeError_eq_none_iff (op : ChangeOp) (b a : Bool) :
    op.shapeError b a = none ↔ op.fits b a = true := by
  unfold shapeError
  split <;> simp_all

end ChangeOp

/-- A change to one entity, before it is stamped. -/
structure Change where
  op : ChangeOp
  tsMs : Nat
  table : String
  before : Option Entity
  after : Option Entity
  deriving Inhabited

namespace Change

/-- An entity that appeared. -/
def insert (after : Entity) (ts : Nat) : Change := ⟨.insert, ts, after.table, none, some after⟩

/-- An entity that changed from `before` to `after`. -/
def update (before after : Entity) (ts : Nat) : Change :=
  ⟨.update, ts, after.table, some before, some after⟩

/-- An entity that went away. -/
def delete (before : Entity) (ts : Nat) : Change := ⟨.delete, ts, before.table, some before, none⟩

/-- The same change filed under another table. -/
def withTable (c : Change) (table : String) : Change := { c with table := table }

end Change

/-- Where a notification came from. -/
structure Provenance where
  db : String
  partition : String
  /-- The resume position after the batch the change came in; absent for control changes. -/
  cursor : Option String
  table : String
  tsMs : Nat
  deriving Inhabited

/-- A change as published: stamped with its sequence number and provenance. -/
structure Notification where
  op : ChangeOp
  tsMs : Nat
  sequence : Nat
  source : Provenance
  before : Option Entity
  after : Option Entity
  deriving Inhabited

/-- Stamps a change with a sequence number and where it came from. -/
def Change.stamp (c : Change) (sequence : Nat) (db partition : String)
    (cursor : Option String) : Notification :=
  ⟨c.op, c.tsMs, sequence, ⟨db, partition, cursor, c.table, c.tsMs⟩, c.before, c.after⟩

namespace Provenance

/-- The provenance as a JSON object; an absent cursor is left out. -/
def toJson (p : Provenance) : Json :=
  Json.mkObj ([("db", .str p.db), ("partition", .str p.partition), ("table", .str p.table),
    ("ts_ms", Json.ofNat p.tsMs)] ++ (p.cursor.map (fun c => ("cursor", Json.str c))).toList)

open Decode in
/-- The members of a provenance. -/
def shape : Shape Provenance :=
  (fun db p c t ts => Provenance.mk db p c t ts) <$> Form.required "db" string
    <*> Form.required "partition" string
    <*> Form.withDefault "cursor" (option string) none
    <*> Form.required "table" string
    <*> Form.required "ts_ms" u64

end Provenance

namespace Notification

/-- The id of the entity the notification is about: after's, else before's. -/
def entityId (n : Notification) : Option String := (n.after.orElse fun _ => n.before).map (·.id)

/-- The shape rule on a notification read back from the wire. -/
def validate (n : Notification) : Option RelayError :=
  n.op.shapeError n.before.isSome n.after.isSome

/-- An optional entity as JSON. -/
def entityJson : Option Entity → Json
  | some e => e.toJson
  | none => .null

/-- The notification as a JSON object. -/
def toJson (n : Notification) : Json :=
  Json.mkObj [("op", .str n.op.letter), ("ts_ms", Json.ofNat n.tsMs),
    ("sequence", Json.ofNat n.sequence), ("source", n.source.toJson),
    ("before", entityJson n.before), ("after", entityJson n.after)]

open Decode in
/-- The members of a notification. -/
def shape : Shape Notification :=
  (fun op ts sq src b a => Notification.mk op ts sq src b a) <$> Form.required "op" ChangeOp.decode
    <*> Form.required "ts_ms" u64
    <*> Form.required "sequence" u64
    <*> Form.required "source" (Provenance.shape.decode "struct SourceInfo")
    <*> Form.optional "before" Entity.decode
    <*> Form.optional "after" Entity.decode

/-- A notification from its JSON object. -/
def decode : Decode.Decoder Notification := shape.decode "struct ChangeNotification"

end Notification

end ChangeRelay
