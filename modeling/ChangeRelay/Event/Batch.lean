import ChangeRelay.Event.Source

/-!
# Source batches

One pull of a partition's change source answers a batch: the events after the cursor it was
given, and the cursor after the last of them. No next cursor means the position is unchanged,
which only a batch without events may say.
-/

namespace ChangeRelay

/-- The answer to one pull. -/
structure SourceBatch where
  events : List SourceEvent := []
  /-- The position after the last event; none when unchanged. -/
  nextCursor : Option String := none
  deriving Inhabited

open Decode in
/-- A batch from its JSON object. -/
def SourceBatch.decode : Decoder SourceBatch :=
  ((fun es n => SourceBatch.mk es n) <$> Form.withDefault "events" (list SourceEvent.decode) []
    <*> Form.withDefault "nextCursor" (option string) none).decode "struct SourceBatch"

/-- The batch as a JSON object. -/
def SourceBatch.toJson (b : SourceBatch) : Json :=
  Json.mkObj [("events", .arr (b.events.map SourceEvent.toJson)), ("nextCursor", Json.ofOption b.nextCursor)]

/-- Whether a batch has no events. -/
def SourceBatch.isEmpty (b : SourceBatch) : Bool := b.events.isEmpty

end ChangeRelay
