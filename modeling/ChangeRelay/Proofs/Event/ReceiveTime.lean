import ChangeRelay.Proofs.Event.Outcome
import ChangeRelay.Proofs.Json.Members

/-!
# The time an event is received

Mapping a source event is told when the event was received, and uses that time for one thing
only: the time of a change whose payload names no time of its own. That is an added or modified
Kubernetes object, a deleted one without a deletion time, and a Dataverse record without the time
it was modified or deleted (`SourceEvent.TimedOnArrival`). A payload names a time with an RFC 3339
text at or after the epoch (`Stamp`); any other value leaves the change to its arrival.

So mapping one event at two receive times gives the same error, or nothing both times, or two
changes that differ at most in their time: an event timed on its arrival maps to the same result
moved to the later time (`Change.retimed`), and any other event maps to the very same result
(`SourceEvent.toChange_receipt_time`). Each mapper is settled by its own lemma.
-/

namespace ChangeRelay

/-- A value that names an instant: an RFC 3339 text at or after the epoch. -/
def Stamp (v : Option Json) : Prop :=
  ∃ s ms, v = some (.str s) ∧ Time.epochMillis s = some ms ∧ 0 ≤ ms

/-- A payload time is read exactly from a value that names an instant. -/
theorem instantMillis_eq_none_iff (v : Option Json) : instantMillis v = none ↔ ¬ Stamp v := by
  rcases v with _ | ⟨_ | _ | _ | s | _ | _⟩
  case some.str =>
    cases h : Time.epochMillis s with
    | none => simp [instantMillis, Stamp, h]
    | some ms => by_cases hms : 0 ≤ ms <;> simp [instantMillis, Stamp, h, hms]
  all_goals simp [instantMillis, Stamp]

/-- The time a payload names, when it names one. -/
theorem exists_instantMillis_of_stamp {v : Option Json} (h : Stamp v) :
    ∃ t, instantMillis v = some t :=
  Option.ne_none_iff_exists'.1 fun hn => (instantMillis_eq_none_iff v).1 hn h

/-- A change moved to another time. -/
def Change.retimed (c : Change) (t : Nat) : Change := { c with tsMs := t }

namespace Change

@[simp] theorem insert_retimed (e : Entity) (ts t : Nat) : (insert e ts).retimed t = insert e t :=
  rfl

@[simp] theorem update_retimed (b a : Entity) (ts t : Nat) :
    (update b a ts).retimed t = update b a t := rfl

@[simp] theorem delete_retimed (e : Entity) (ts t : Nat) : (delete e ts).retimed t = delete e t :=
  rfl

@[simp] theorem retimed_retimed (c : Change) (t t' : Nat) : (c.retimed t).retimed t' = c.retimed t' :=
  rfl

@[simp] theorem retimed_tsMs (c : Change) (t : Nat) : (c.retimed t).tsMs = t := rfl

@[simp] theorem insert_tsMs (e : Entity) (ts : Nat) : (insert e ts).tsMs = ts := rfl

@[simp] theorem update_tsMs (b a : Entity) (ts : Nat) : (update b a ts).tsMs = ts := rfl

@[simp] theorem delete_tsMs (e : Entity) (ts : Nat) : (delete e ts).tsMs = ts := rfl

end Change

/-! ## Kubernetes watch events -/

namespace Kubernetes

/-- Where a deleted object names its deletion time. -/
theorem deletionTime_path (object : Json) :
    (object.field? "metadata").bind (·.field? "deletionTimestamp") =
      object.path? ["metadata", "deletionTimestamp"] := by
  simp

/-- A watch event that names no deletion time maps alike at every receive time but for the
change's time, which is the receive time. -/
theorem change_on_arrival {kind : WatchKind} {object : Json} {previous : Option Json}
    (hk : kind = .added ∨ kind = .modified ∨
      (kind = .deleted ∧ ¬ Stamp (object.path? ["metadata", "deletionTimestamp"])))
    (r₁ r₂ : Nat) :
    change kind object previous r₂ = Option.map (·.retimed r₂) <$> change kind object previous r₁ ∧
      ∀ c, change kind object previous r₁ = .ok (some c) → c.tsMs = r₁ := by
  rcases hk with rfl | rfl | ⟨rfl, hs⟩
  · cases h : entityOf object <;> simp [change, h]
  · cases h : entityOf object with
    | error e => simp [change, h]
    | ok a =>
      cases previous with
      | none => simp [change, h]
      | some p => cases hp : entityOf p <;> simp [change, h, hp]
  · have hn : instantMillis ((object.field? "metadata").bind (·.field? "deletionTimestamp")) =
        none := by
      rw [deletionTime_path]
      exact (instantMillis_eq_none_iff _).2 hs
    cases h : entityOf object <;> simp [change, h, hn]

/-- A bookmark, and a deleted object that names its deletion time, map to the same result at every
receive time. -/
theorem change_stamped {kind : WatchKind} {object : Json} {previous : Option Json}
    (hk : kind = .bookmark ∨
      (kind = .deleted ∧ Stamp (object.path? ["metadata", "deletionTimestamp"])))
    (r₁ r₂ : Nat) : change kind object previous r₂ = change kind object previous r₁ := by
  rcases hk with rfl | ⟨rfl, hs⟩
  · simp [change]
  · obtain ⟨t, ht⟩ := exists_instantMillis_of_stamp hs
    rw [← deletionTime_path] at ht
    cases h : entityOf object <;> simp [change, h, ht]

end Kubernetes

/-! ## Dataverse records -/

namespace Dataverse

/-- The time a record names, and where: `modifiedon` among the attributes of a new or updated
record, `deletetime` among those of a removed one, when it has any. -/
def namedTime : DataverseChange → Option Json
  | .newOrUpdated _ attrs _ => Json.Fields.get? "modifiedon" attrs
  | .removedOrDeleted _ attrs => attrs.bind (Json.Fields.get? "deletetime")

/-- A record's change is its change at time `0` moved to the time it names, or else to the
receive time. -/
theorem change_eq_retimed (entity : String) (c : DataverseChange) (r : Nat) :
    change entity c r = (change entity c 0).retimed ((instantMillis (namedTime c)).getD r) := by
  cases c with
  | newOrUpdated id attrs previous => cases previous <;> simp [change, namedTime]
  | removedOrDeleted id attrs => cases attrs <;> simp [change, namedTime]

/-- A record that names no time of its own takes the receive time. -/
theorem change_on_arrival {c : DataverseChange} (hs : ¬ Stamp (namedTime c)) (entity : String)
    (r : Nat) : change entity c r = (change entity c 0).retimed r := by
  have h := change_eq_retimed entity c r
  rwa [(instantMillis_eq_none_iff _).2 hs, Option.getD_none] at h

/-- A record that names its time takes it, whatever the receive time. -/
theorem change_stamped {c : DataverseChange} (hs : Stamp (namedTime c)) (entity : String)
    (r₁ r₂ : Nat) : change entity c r₂ = change entity c r₁ := by
  obtain ⟨t, ht⟩ := exists_instantMillis_of_stamp hs
  rw [change_eq_retimed entity c r₁, change_eq_retimed entity c r₂, ht, Option.getD_some,
    Option.getD_some]

end Dataverse

/-! ## Every event -/

namespace SourceEvent

/-- An event whose change, if it has one, takes the time the event was received: a Kubernetes
object added or modified, or deleted without naming its deletion time, and a Dataverse record
that names no time of its modification or deletion. -/
def TimedOnArrival : SourceEvent → Prop
  | .kubernetes .added _ _ | .kubernetes .modified _ _ => True
  | .kubernetes .deleted object _ => ¬ Stamp (object.path? ["metadata", "deletionTimestamp"])
  | .kubernetes .bookmark _ _ => False
  | .dataverse _ c => ¬ Stamp (Dataverse.namedTime c)
  | .eventHub .. | .relational .. | .heartbeat => False

/-- The receive time feeds only the time of a change timed on its arrival. Mapping an event at two
receive times gives results that agree but for the time of the change: for an event timed on its
arrival the second is the first moved to the second time, and its change bears the receive time;
for any other event the two are the same. Either way a failure is the same mapping error. -/
theorem toChange_receipt_time (ev : SourceEvent) (r₁ r₂ : Nat) :
    (ev.TimedOnArrival →
      ev.toChange r₂ = Option.map (·.retimed r₂) <$> ev.toChange r₁ ∧
      ∀ c, ev.toChange r₁ = .ok (some c) → c.tsMs = r₁) ∧
    (¬ ev.TimedOnArrival → ev.toChange r₂ = ev.toChange r₁) ∧
    (∀ e, ev.toChange r₁ = .error e → ∃ m, e = .mapping m) := by
  refine ⟨fun ht => ?_, fun ht => ?_, (toChange_classified ev r₁).error_mapping⟩
  · cases ev with
    | kubernetes kind object previous =>
      have hk : kind = .added ∨ kind = .modified ∨
          (kind = .deleted ∧ ¬ Stamp (object.path? ["metadata", "deletionTimestamp"])) := by
        cases kind <;> simp_all [TimedOnArrival]
      exact Kubernetes.change_on_arrival hk r₁ r₂
    | dataverse entity c =>
      simp [toChange, Dataverse.change_on_arrival ht entity r₁,
        Dataverse.change_on_arrival ht entity r₂]
    | eventHub | relational | heartbeat => exact ht.elim
  · cases ev with
    | kubernetes kind object previous =>
      have hk : kind = .bookmark ∨
          (kind = .deleted ∧ Stamp (object.path? ["metadata", "deletionTimestamp"])) := by
        cases kind <;> simp_all [TimedOnArrival]
      exact Kubernetes.change_stamped hk r₁ r₂
    | dataverse entity c =>
      simp [toChange, Dataverse.change_stamped (Classical.not_not.1 ht) entity r₁ r₂]
    | eventHub | relational | heartbeat => rfl

end SourceEvent

end ChangeRelay
