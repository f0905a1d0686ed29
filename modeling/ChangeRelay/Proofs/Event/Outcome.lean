import ChangeRelay.Event.Mapping
import ChangeRelay.Proofs.Basic

/-!
# What mapping a source event comes to

`SourceEvent.toChange` has three outcomes, and which one it takes is decided by the event alone.
It gives no change for a heartbeat, a Kubernetes bookmark (whatever object it carries) and a
relational truncate (`SourceEvent.Silent`); it fails, always with a mapping error, exactly when
the event names nothing it can read (`SourceEvent.Unmappable`): a watched object that is not an
object with a non-empty `metadata.name` (and a string `target.name` for a `Binding`), an Event Hub
body that is not JSON, or a row image that is missing or carries no usable id. Dataverse records
never fail. Every change it does give is well shaped (`Change.Shaped`): the entities it carries
fit its op, so the stamped notification passes the shape check, and it is filed under the table
of the entity it is about.

The outcomes are collected per kind of source in `Classified`, one lemma per mapper, and each
mapper's reading of an entity (`Kubernetes.entityOf`, `Relational.rowEntity`) is judged by
`MapsWhen` against the condition that names the entity.
-/

namespace ChangeRelay

/-- A reading that gives a value exactly when `good` holds, and a mapping error otherwise. -/
def MapsWhen {α : Type} (r : Except RelayError α) (good : Prop) : Prop :=
  (good ∧ ∃ a, r = .ok a) ∨ (¬ good ∧ ∃ m, r = .error (.mapping m))

/-! ## Well-shaped changes -/

/-- The entity a change is about: the entity after, or for a delete the entity before. -/
def Change.subject (c : Change) : Option Entity := c.after.orElse fun _ => c.before

/-- A change whose entities fit its op (an insert carries only the entity after, a delete only the
entity before, an update both), filed under the table of the entity it is about. -/
structure Change.Shaped (c : Change) : Prop where
  fits : c.op.fits c.before.isSome c.after.isSome = true
  filed : ∃ e, c.subject = some e ∧ c.table = e.table

namespace Change

/-- The three ways to build a change give well-shaped changes. -/
theorem insert_shaped (after : Entity) (ts : Nat) : (insert after ts).Shaped :=
  ⟨rfl, after, rfl, rfl⟩

theorem update_shaped (before after : Entity) (ts : Nat) : (update before after ts).Shaped :=
  ⟨rfl, after, rfl, rfl⟩

theorem delete_shaped (before : Entity) (ts : Nat) : (delete before ts).Shaped :=
  ⟨rfl, before, rfl, rfl⟩

/-- A well-shaped change passes the shape check once stamped, whatever the stamp. -/
theorem Shaped.validate {c : Change} (h : c.Shaped) (sequence : Nat) (db partition : String)
    (cursor : Option String) : (c.stamp sequence db partition cursor).validate = none :=
  (ChangeOp.shapeError_eq_none_iff _ _ _).2 h.fits

end Change

/-! ## The three outcomes -/

/-- The ways mapping an event can end: with no change, when `silent` holds; with a mapping error,
when `bad` holds; or with a well-shaped change, when neither does. -/
inductive Classified (silent bad : Prop) : Except RelayError (Option Change) → Prop
  | nothing : silent → ¬ bad → Classified silent bad (.ok none)
  | failed (m : String) : bad → ¬ silent → Classified silent bad (.error (.mapping m))
  | change (c : Change) : c.Shaped → ¬ silent → ¬ bad → Classified silent bad (.ok (some c))

namespace Classified

variable {silent bad : Prop} {r : Except RelayError (Option Change)}

/-- No change exactly when the event is silent. -/
theorem ok_none_iff (h : Classified silent bad r) : r = .ok none ↔ silent := by
  cases h with
  | nothing hs _ => simpa using hs
  | failed m _ hs => simpa using hs
  | change c _ hs _ => simpa using hs

/-- A mapping error exactly when the event is bad. -/
theorem mapping_iff (h : Classified silent bad r) : (∃ m, r = .error (.mapping m)) ↔ bad := by
  cases h with
  | nothing _ hb => simpa using hb
  | failed m hb _ => simpa using hb
  | change c _ _ hb => simpa using hb

/-- Every error is a mapping error. -/
theorem error_mapping (h : Classified silent bad r) (e : RelayError) (he : r = .error e) :
    ∃ m, e = .mapping m := by
  cases h with
  | nothing => cases he
  | failed m => cases he; exact ⟨m, rfl⟩
  | change => cases he

/-- Every change is well shaped. -/
theorem shaped (h : Classified silent bad r) (c : Change) (hc : r = .ok (some c)) : c.Shaped := by
  cases h with
  | nothing => cases hc
  | failed => cases hc
  | change c' hs => cases hc; exact hs

end Classified

/-! ## Kubernetes watch events -/

namespace Kubernetes

/-- A watched object the relay can name: an object whose `metadata.name` is a non-empty string
and which, when its `kind` is `Binding`, has a string `target.name`. -/
def Nameable (o : Json) : Prop :=
  (∃ fs, o = .obj fs) ∧
  (∃ n, o.path? ["metadata", "name"] = some (.str n) ∧ n ≠ "") ∧
  (o.path? ["kind"] = some (.str "Binding") → ∃ t, o.path? ["target", "name"] = some (.str t))

/-- A watch event the relay cannot read: no bookmark, and its object, or for a modification the
previous object it comes with, is not nameable. -/
def Unreadable (kind : WatchKind) (object : Json) (previous : Option Json) : Prop :=
  kind ≠ .bookmark ∧ (¬ Nameable object ∨ (kind = .modified ∧ ∃ p, previous = some p ∧ ¬ Nameable p))

/-- A member of an optional object, read as a path. -/
theorem member?_bind_obj (x : Option Json) (k : String) :
    member? (x.bind Json.obj?) k = x.bind (·.field? k) := by
  cases x with
  | none => rfl
  | some v => cases v <;> rfl

/-- The kind `entityOf` reads is `Binding` exactly when the member `kind` is that string. -/
theorem kind_eq_binding (fs : Json.Fields) :
    ((Json.Fields.get? "kind" fs).bind Json.str?).getD "Resource" = "Binding" ↔
      Json.Fields.get? "kind" fs = some (.str "Binding") := by
  rw [← Json.bind_str?_eq_some]
  cases (Json.Fields.get? "kind" fs).bind Json.str? <;> simp

/-- `Nameable` on an object, in the members `entityOf` reads. -/
theorem nameable_obj_iff (fs : Json.Fields) :
    Nameable (.obj fs) ↔
      (∃ n, ((Json.Fields.get? "metadata" fs).bind (·.field? "name")).bind Json.str? = some n ∧
        n ≠ "") ∧
      (Json.Fields.get? "kind" fs = some (.str "Binding") →
        ∃ t, ((Json.Fields.get? "target" fs).bind (·.field? "name")).bind Json.str? = some t) := by
  simp [Nameable, Json.bind_str?_eq_some]

/-- A watched object becomes an entity exactly when it is nameable, and fails to with a mapping
error otherwise. -/
theorem entityOf_mapsWhen (o : Json) : MapsWhen (entityOf o) (Nameable o) := by
  unfold MapsWhen
  cases o with
  | obj fs =>
    rw [nameable_obj_iff]
    cases hn : ((Json.Fields.get? "metadata" fs).bind (·.field? "name")).bind Json.str? with
    | none =>
      right
      simp [entityOf, member?_bind_obj, hn]
    | some n =>
      by_cases hempty : n = ""
      · right
        simp [entityOf, member?_bind_obj, hn, hempty]
      · by_cases hb : Json.Fields.get? "kind" fs = some (.str "Binding")
        · cases ht : ((Json.Fields.get? "target" fs).bind (·.field? "name")).bind Json.str? with
          | none =>
            right
            simp [entityOf, member?_bind_obj, kind_eq_binding, Json.str?, hn, hempty, hb, ht]
          | some t =>
            left
            simp [entityOf, member?_bind_obj, kind_eq_binding, Json.str?, hn, hempty, hb, ht]
        · left
          simp [entityOf, member?_bind_obj, kind_eq_binding, hn, hempty, hb]
  | _ => right; simp [entityOf, Nameable]

/-- What a watch event maps to: nothing for a bookmark, a mapping error when it is unreadable, and
a well-shaped change otherwise. -/
theorem change_classified (kind : WatchKind) (object : Json) (previous : Option Json)
    (received : Nat) :
    Classified (kind = .bookmark) (Unreadable kind object previous)
      (change kind object previous received) := by
  cases kind with
  | bookmark => exact .nothing rfl (by simp [Unreadable])
  | added =>
    rcases entityOf_mapsWhen object with ⟨hn, e, he⟩ | ⟨hn, m, he⟩
    · rw [show change .added object previous received = .ok (some (.insert e received)) by
        simp [change, he]]
      exact .change _ (Change.insert_shaped e received) (by simp) (by simp [Unreadable, hn])
    · rw [show change .added object previous received = .error (.mapping m) by simp [change, he]]
      exact .failed m (by simp [Unreadable, hn]) (by simp)
  | deleted =>
    rcases entityOf_mapsWhen object with ⟨hn, e, he⟩ | ⟨hn, m, he⟩
    · obtain ⟨ts, hts⟩ : ∃ ts, change .deleted object previous received = .ok (some (.delete e ts)) :=
        ⟨_, by simp [change, he]; rfl⟩
      rw [hts]
      exact .change _ (Change.delete_shaped e ts) (by simp) (by simp [Unreadable, hn])
    · rw [show change .deleted object previous received = .error (.mapping m) by simp [change, he]]
      exact .failed m (by simp [Unreadable, hn]) (by simp)
  | modified =>
    rcases entityOf_mapsWhen object with ⟨hn, e, he⟩ | ⟨hn, m, he⟩
    · cases previous with
      | none =>
        rw [show change .modified object none received = .ok (some (.insert e received)) by
          simp [change, he]]
        exact .change _ (Change.insert_shaped e received) (by simp) (by simp [Unreadable, hn])
      | some p =>
        rcases entityOf_mapsWhen p with ⟨hp, e', he'⟩ | ⟨hp, m, he'⟩
        · rw [show change .modified object (some p) received = .ok (some (.update e' e received)) by
            simp [change, he, he']]
          exact .change _ (Change.update_shaped e' e received) (by simp)
            (by simp [Unreadable, hn, hp])
        · rw [show change .modified object (some p) received = .error (.mapping m) by
            simp [change, he, he']]
          exact .failed m (by simp [Unreadable, hp]) (by simp)
    · rw [show change .modified object previous received = .error (.mapping m) by
        simp [change, he]]
      exact .failed m (by simp [Unreadable, hn]) (by simp)

end Kubernetes

/-! ## Row changes -/

namespace Relational

/-- A row the relay can name: an object whose `id` column holds a usable id (a non-empty string or
a number), or failing that whose key column of least name holds one. -/
def Identifiable : Json → Prop
  | .obj fs => (rowId fs).isSome
  | _ => False

/-- A row event whose rows name no node: a create, read or update without an identifiable row
after, an update whose row before is there, not `null` and not identifiable, or a delete without
an identifiable row before. -/
def Unnamed (op : RowOp) (before after : Option Json) : Prop :=
  match op with
  | .create | .read => ¬ ∃ r, after = some r ∧ Identifiable r
  | .update => (¬ ∃ r, after = some r ∧ Identifiable r) ∨
      ∃ r, before = some r ∧ r ≠ .null ∧ ¬ Identifiable r
  | .delete => ¬ ∃ r, before = some r ∧ Identifiable r
  | .truncate => False

/-- A row becomes a node exactly when it is identifiable, and fails to with a mapping error
otherwise. -/
theorem rowEntity_mapsWhen (table : String) (row : Json) :
    MapsWhen (rowEntity table row) (Identifiable row) := by
  unfold MapsWhen
  cases row with
  | obj fs =>
    cases hid : rowId fs with
    | some i =>
      left
      simp [rowEntity, Identifiable, hid]
    | none =>
      right
      simp [rowEntity, Identifiable, hid]
  | _ => right; simp [rowEntity, Identifiable]

/-- What a row event maps to: nothing for a truncate, a mapping error when its rows name no node,
and a well-shaped change otherwise. -/
theorem change_classified (op : RowOp) (table : String) (before after : Option Json) (ts : Nat) :
    Classified (op = .truncate) (Unnamed op before after) (change op table before after ts) := by
  cases op with
  | truncate => exact .nothing rfl (by simp [Unnamed])
  | create | read =>
    cases after with
    | none => exact .failed _ (by simp [Unnamed]) (by simp)
    | some r =>
      rcases rowEntity_mapsWhen table r with ⟨hr, e, he⟩ | ⟨hr, m, he⟩
      · rw [show change _ table before (some r) ts = .ok (some (.insert e ts)) by simp [change, he]]
        exact .change _ (Change.insert_shaped e ts) (by simp) (by simp [Unnamed, hr])
      · rw [show change _ table before (some r) ts = .error (.mapping m) by simp [change, he]]
        exact .failed m (by simp [Unnamed, hr]) (by simp)
  | delete =>
    cases before with
    | none => exact .failed _ (by simp [Unnamed]) (by simp)
    | some r =>
      rcases rowEntity_mapsWhen table r with ⟨hr, e, he⟩ | ⟨hr, m, he⟩
      · rw [show change .delete table (some r) after ts = .ok (some (.delete e ts)) by
          simp [change, he]]
        exact .change _ (Change.delete_shaped e ts) (by simp) (by simp [Unnamed, hr])
      · rw [show change .delete table (some r) after ts = .error (.mapping m) by simp [change, he]]
        exact .failed m (by simp [Unnamed, hr]) (by simp)
  | update =>
    cases after with
    | none => exact .failed _ (by simp [Unnamed]) (by simp)
    | some r =>
      rcases rowEntity_mapsWhen table r with ⟨hr, a, ha⟩ | ⟨hr, m, ha⟩
      · cases before with
        | none =>
          rw [show change .update table none (some r) ts = .ok (some (.insert a ts)) by
            simp [change, ha]]
          exact .change _ (Change.insert_shaped a ts) (by simp) (by simp [Unnamed, hr])
        | some b =>
          by_cases hb : b = .null
          · subst hb
            rw [show change .update table (some .null) (some r) ts = .ok (some (.insert a ts)) by
              simp [change, ha, Json.isNull]]
            exact .change _ (Change.insert_shaped a ts) (by simp) (by simp [Unnamed, hr])
          · have hnull : b.isNull = false := by cases b <;> simp_all [Json.isNull]
            rcases rowEntity_mapsWhen table b with ⟨hb', e, he⟩ | ⟨hb', m, he⟩
            · rw [show change .update table (some b) (some r) ts = .ok (some (.update e a ts)) by
                simp [change, ha, he, hnull]]
              exact .change _ (Change.update_shaped e a ts) (by simp) (by simp [Unnamed, hr, hb'])
            · rw [show change .update table (some b) (some r) ts = .error (.mapping m) by
                simp [change, ha, he, hnull]]
              exact .failed m (by simp [Unnamed, hb, hb']) (by simp)
      · rw [show change .update table before (some r) ts = .error (.mapping m) by
          simp [change, ha]]
        exact .failed m (by simp [Unnamed, hr]) (by simp)

end Relational

/-! ## Event Hub messages and Dataverse records -/

namespace EventHub

/-- A message whose body is JSON carries a well-shaped change. -/
theorem change_of_parse (partition : String) (seq : Int) (enqueued : Nat) (props : Json.Fields)
    {body : String} {v : Json} (hp : Json.parse body = .ok v) :
    ∃ c, change partition seq enqueued body props = .ok c ∧ c.Shaped := by
  cases hs : shaped v with
  | none =>
    exact ⟨_, by simp [change, hp, hs]; rfl, Change.insert_shaped _ _⟩
  | some t =>
    obtain ⟨op, entity, before⟩ := t
    simp only [change, hp, Except.pure_eq, Except.ok_bind, hs]
    split
    · exact ⟨_, rfl, Change.delete_shaped _ _⟩
    · split
      · exact ⟨_, rfl, Change.update_shaped _ _ _⟩
      · exact ⟨_, rfl, Change.insert_shaped _ _⟩

/-- A message whose body is not JSON is a mapping error. -/
theorem change_of_parse_error (partition : String) (seq : Int) (enqueued : Nat)
    (props : Json.Fields) {body : String} {err : Json.SyntaxError}
    (hp : Json.parse body = .error err) :
    ∃ m, change partition seq enqueued body props = .error (.mapping m) :=
  ⟨_, by simp [change, hp]; rfl⟩

/-- What a message maps to: a mapping error when its body is not JSON, and a well-shaped change
otherwise. -/
theorem change_classified (partition : String) (seq : Int) (enqueued : Nat) (body : String)
    (props : Json.Fields) :
    Classified False (¬ ∃ v, Json.parse body = .ok v)
      (some <$> change partition seq enqueued body props) := by
  cases hp : Json.parse body with
  | error err =>
    obtain ⟨m, hm⟩ := change_of_parse_error partition seq enqueued props hp
    rw [hm]
    exact .failed m (by simp) id
  | ok v =>
    obtain ⟨c, hc, hs⟩ := change_of_parse partition seq enqueued props hp
    rw [hc]
    exact .change c hs id (by simp)

end EventHub

/-- Every Dataverse record maps to a well-shaped change. -/
theorem Dataverse.change_shaped (entity : String) (c : DataverseChange) (received : Nat) :
    (Dataverse.change entity c received).Shaped := by
  cases c with
  | newOrUpdated id attrs previous =>
    cases previous with
    | none => exact Change.insert_shaped _ _
    | some prev => exact Change.update_shaped _ _ _
  | removedOrDeleted id attrs => exact Change.delete_shaped _ _


/-! ## Every event -/

namespace SourceEvent

/-- An event that carries no change: a heartbeat, a Kubernetes bookmark, a relational truncate. -/
def Silent : SourceEvent → Prop
  | .kubernetes kind _ _ => kind = .bookmark
  | .relational op _ _ _ _ => op = .truncate
  | .heartbeat => True
  | .eventHub .. | .dataverse .. => False

/-- An event whose payload names nothing the relay can read: an unreadable watch event, an Event
Hub body that is not JSON, or row images that name no node. A Dataverse record is always read. -/
def Unmappable : SourceEvent → Prop
  | .kubernetes kind object previous => Kubernetes.Unreadable kind object previous
  | .eventHub _ _ _ body _ => ¬ ∃ v, Json.parse body = .ok v
  | .dataverse .. => False
  | .relational op _ before after _ => Relational.Unnamed op before after
  | .heartbeat => False

/-- Each kind of event is classified by its own mapper's lemma. -/
theorem toChange_classified (ev : SourceEvent) (received : Nat) :
    Classified ev.Silent ev.Unmappable (ev.toChange received) := by
  cases ev with
  | kubernetes kind object previous =>
    exact Kubernetes.change_classified kind object previous received
  | eventHub partition seq enqueued body props =>
    exact EventHub.change_classified partition seq enqueued body props
  | dataverse entity c => exact .change _ (Dataverse.change_shaped entity c received) id id
  | relational op table before after ts => exact Relational.change_classified op table before after ts
  | heartbeat => exact .nothing trivial id

/-- Mapping an event gives no change exactly for a heartbeat, a bookmark or a truncate; it fails
exactly when the event is unmappable, and then with a mapping error, never another; and any change
it gives fits its op, so that stamped it passes the shape check, and is filed under the table of
the entity it is about (`rel` for a relation, `node` for a node). -/
theorem toChange_outcome (ev : SourceEvent) (received : Nat) :
    (ev.toChange received = .ok none ↔ ev.Silent) ∧
    ((∃ m, ev.toChange received = .error (.mapping m)) ↔ ev.Unmappable) ∧
    (∀ e, ev.toChange received = .error e → ∃ m, e = .mapping m) ∧
    (∀ c, ev.toChange received = .ok (some c) →
      c.op.fits c.before.isSome c.after.isSome = true ∧
      ∀ sequence db partition cursor,
        (c.stamp sequence db partition cursor).validate = none ∧
        ∃ e, c.subject = some e ∧ (c.stamp sequence db partition cursor).source.table = e.table) := by
  have h := toChange_classified ev received
  refine ⟨h.ok_none_iff, h.mapping_iff, h.error_mapping, fun c hc => ?_⟩
  have hs : c.Shaped := h.shaped c hc
  exact ⟨hs.fits, fun sequence db partition cursor =>
    ⟨hs.validate sequence db partition cursor, hs.filed⟩⟩

end SourceEvent

end ChangeRelay
