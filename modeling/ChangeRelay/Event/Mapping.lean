import ChangeRelay.Event.Kubernetes
import ChangeRelay.Event.EventHub
import ChangeRelay.Event.Dataverse
import ChangeRelay.Event.Relational

/-!
# From source events to changes

`SourceEvent.toChange` turns one source event into at most one change, or says why the event
cannot be one. `received` is when the event arrived, the time of a change whose payload carries
none of its own. Heartbeats, bookmarks and truncates carry no change.
-/

namespace ChangeRelay

/-- The change an event carries, if any. -/
def SourceEvent.toChange (ev : SourceEvent) (received : Nat) : Except RelayError (Option Change) :=
  match ev with
  | .kubernetes kind object previous => Kubernetes.change kind object previous received
  | .eventHub p s e b ps => some <$> EventHub.change p s e b ps
  | .dataverse entity c => .ok (some (Dataverse.change entity c received))
  | .relational op t b a ts => Relational.change op t b a ts
  | .heartbeat => .ok none

end ChangeRelay
