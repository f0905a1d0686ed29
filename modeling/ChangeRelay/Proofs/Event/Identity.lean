import ChangeRelay.Proofs.Event.RowRule
import ChangeRelay.Proofs.Event.WatchRule

/-!
# The identity of mapped entities

Every entity of a mapped change is named by a non-empty id, and a relation by non-empty ids at
both ends (`Entity.Identified`), for every event that names its entities at all
(`SourceEvent.UsableIds`):

* an Event Hub message and a row change read ids through `idText`, which refuses the empty string
  and writes numbers as JSON does (never empty), and a message without an entity of its own
  becomes the node `partition-sequence`;
* a Kubernetes object is named by its non-empty name, within its namespace, and a binding stands
  for a relation whose id is a digest of its ends, from the bound object to the target name as the
  object gives it, which may be empty;
* a Dataverse record gives its node the record's id as it is, which may be empty: a Dataverse
  record is always mapped.

`SourceEvent.mapped_identity` puts these together, and `SourceEvent.empty_identities_mapped`
shows the two events it leaves out mapped with an empty id. The facts it rests on are that no
number is written as the empty text (`Number.render_ne_empty`) and that an edge id is never empty
(`edgeId_ne_empty`), since a SHA-256 digest is eight words and each is written with at least
one hex digit.
-/

namespace ChangeRelay

/-- The ends of a relation; a node has none. -/
def Entity.ends : Entity → Option (String × String)
  | .node .. => none
  | .relation _ _ _ s f => some (s, f)

/-- The entities a change carries: the entity before, then the entity after. -/
def Change.images (c : Change) : List Entity := c.before.toList ++ c.after.toList

/-- An entity named by a non-empty id, whose ends, for a relation, are non-empty ids too. -/
def Entity.Identified (e : Entity) : Prop :=
  e.id ≠ "" ∧ ∀ s f, e.ends = some (s, f) → s ≠ "" ∧ f ≠ ""

/-- The id a Dataverse record carries. -/
def DataverseChange.recordId : DataverseChange → String
  | .newOrUpdated id _ _ | .removedOrDeleted id _ => id

/-- A Kubernetes object that, when it is a binding, names its target by a non-empty name. -/
def Kubernetes.TargetNamed (o : Json) : Prop :=
  o.path? ["kind"] = some (.str "Binding") → o.path? ["target", "name"] ≠ some (.str "")

/-- An event that names what it maps: a Dataverse record by a non-empty id, and the Kubernetes
objects it carries, when they are bindings, their targets by non-empty names. -/
def SourceEvent.UsableIds : SourceEvent → Prop
  | .kubernetes _ o previous => ∀ x ∈ o :: previous.toList, Kubernetes.TargetNamed x
  | .dataverse _ record => record.recordId ≠ ""
  | .eventHub .. | .relational .. | .heartbeat => True

@[simp] theorem Change.images_insert (e : Entity) (ts : Nat) : (Change.insert e ts).images = [e] :=
  rfl

@[simp] theorem Change.images_update (e' e : Entity) (ts : Nat) :
    (Change.update e' e ts).images = [e', e] := rfl

@[simp] theorem Change.images_delete (e : Entity) (ts : Nat) : (Change.delete e ts).images = [e] :=
  rfl

/-! ## Texts that are never empty -/

namespace Decimal

/-- A decimal is never written as the empty text. -/
theorem render_decimal_ne_empty (nt : Notation) (d : Decimal) : d.render nt ≠ "" := by
  unfold Decimal.render
  simp only
  split_ifs <;> simp [String.append_eq_empty_iff]

/-- A finite double is never written as the empty text. -/
theorem renderFloat_ne_empty {nt : Notation} {x : Float} {s : String}
    (h : renderFloat nt x = some s) : s ≠ "" := by
  unfold renderFloat at h
  split at h
  · cases h
  · split at h <;> split at h <;> simp only [Option.some.injEq] at h <;> subst h <;>
      simp [String.append_eq_empty_iff, render_decimal_ne_empty, ite_eq_iff]

/-- JSON never writes a double as the empty text. -/
theorem jsonText_ne_empty (x : Float) : jsonText x ≠ "" := by
  unfold jsonText
  cases h : renderFloat Notation.json x with
  | none => decide
  | some s => exact renderFloat_ne_empty h

end Decimal

/-- JSON never writes a number as the empty text. -/
theorem Number.render_ne_empty (n : Number) : n.render ≠ "" := by
  cases n with
  | nat n => exact Nat.repr_ne_empty
  | negInt n =>
    show n.repr ≠ ""
    cases n <;> simp [Int.repr, String.append_eq_empty_iff]
  | float x => exact Decimal.jsonText_ne_empty x

/-- An id read from a payload is never empty. -/
theorem idText_ne_empty {j : Json} {s : String} (h : idText j = some s) : s ≠ "" := by
  cases j with
  | str t =>
    simp only [idText] at h
    split at h
    · cases h
    · next hne =>
      cases h
      simpa [String.isEmpty_iff] using hne
  | num n =>
    cases h
    exact Number.render_ne_empty n
  | _ => cases h

theorem bind_idText_ne_empty {x : Option Json} {s : String} (h : x.bind idText = some s) :
    s ≠ "" := by
  obtain ⟨j, -, hj⟩ := Option.bind_eq_some_iff.1 h
  exact idText_ne_empty hj

/-! ## Edge ids -/

namespace Digest

theorem size_compress (st w : Array UInt32) : (compress st w).size = 8 := by
  simp [compress]

/-- Every state the blocks pass through is eight words, as the initial state is. -/
theorem size_foldl_compress (f : Nat → Array UInt32) :
    ∀ (ks : List Nat) (st : Array UInt32), st.size = 8 →
      (ks.foldl (fun st k => compress st (f k)) st).size = 8
  | [], _, h => h
  | _ :: ks, _, _ => size_foldl_compress f ks _ (size_compress _ _)

theorem size_sha256Words (msg : ByteArray) : (sha256Words msg).size = 8 :=
  size_foldl_compress _ _ _ rfl

theorem wordHex_ne_empty (x : UInt32) : wordHex x ≠ "" := by
  intro h
  have := congrArg String.toList h
  simp [wordHex, Nat.toDigits_ne_nil] at this

theorem sha256Hex_ne_empty (s : String) : sha256Hex s ≠ "" := by
  have hne : (sha256Words s.toUTF8).toList ≠ [] := by
    rw [← List.length_pos_iff_ne_nil, Array.length_toList, size_sha256Words]
    decide
  obtain ⟨w, ws, hw⟩ := List.exists_cons_of_ne_nil hne
  rw [sha256Hex, hw, List.map_cons, String.join_cons]
  simp [String.append_eq_empty_iff, wordHex_ne_empty]

end Digest

/-- An edge id is never empty: it is the head of a digest's hex text. -/
theorem edgeId_ne_empty (start label finish : String) : edgeId start label finish ≠ "" := by
  have hne : (Digest.sha256Hex (start ++ ":" ++ label ++ ":" ++ finish)).toList ≠ [] := by
    simpa using Digest.sha256Hex_ne_empty _
  intro h
  have := congrArg String.toList h
  simp [edgeId, List.take_eq_nil_iff, hne] at this

/-! ## Each source -/

theorem Entity.identified_node {i : String} (ls : Labels) (ps : Json.Fields) (h : i ≠ "") :
    (Entity.node i ls ps).Identified :=
  ⟨h, by simp [Entity.ends]⟩

namespace Kubernetes

/-- An object's id is never empty when its name is not. -/
theorem idOf_ne_empty (o : Json) {name : String} (h : name ≠ "") : idOf o name ≠ "" := by
  unfold idOf
  split
  · split_ifs <;> simp [String.append_eq_empty_iff, h]
  · exact h

/-- The entity a watched object stands for is named by a non-empty id; a binding's relation
ends at the target's name, so it is named at both ends when the target is. -/
theorem Describes.identified {o : Json} {e : Entity} (h : Describes o e) (ht : TargetNamed o) :
    e.Identified := by
  cases h with
  | binding _ hname hkind htarget =>
    refine ⟨edgeId_ne_empty _ _ _, fun s f hsf => ?_⟩
    simp only [Entity.ends, Option.some.injEq, Prod.mk.injEq] at hsf
    obtain ⟨rfl, rfl⟩ := hsf
    refine ⟨idOf_ne_empty _ hname, fun hf => ht hkind ?_⟩
    rw [htarget, hf]
  | node _ hname _ _ _ => exact Entity.identified_node _ _ (idOf_ne_empty _ hname)

/-- Every entity of a change by the rule stands for the object or the previous one. -/
theorem Reports.images {received : Nat} {kind : WatchKind} {o : Json} {previous : Option Json}
    {c : Change} (h : Reports received kind o previous c) :
    ∀ e ∈ c.images, ∃ x ∈ o :: previous.toList, Describes x e := by
  cases h with
  | added hd | upsert hd | deleted hd =>
    intro e he
    simp only [Change.images_insert, Change.images_delete, List.mem_singleton] at he
    subst he
    exact ⟨_, List.mem_cons_self .., hd⟩
  | modified hd hd' =>
    intro e he
    rcases List.mem_pair.1 he with rfl | rfl
    · exact ⟨_, by simp, hd'⟩
    · exact ⟨_, by simp, hd⟩

end Kubernetes

namespace EventHub

/-- An entity in graph shape has a non-empty id, and a relation non-empty ids at both ends. -/
theorem graphEntity_identified {obj : Json.Fields} {e : Entity} (h : graphEntity obj = some e) :
    e.Identified := by
  unfold graphEntity at h
  cases hid : (Json.Fields.get? "id" obj).bind idText with
  | none => simp [hid] at h
  | some i =>
    have hi := bind_idText_ne_empty hid
    cases hs : (Json.Fields.get? "startId" obj).bind idText <;>
      cases hf : (Json.Fields.get? "endId" obj).bind idText <;>
      simp [hid, hs, hf] at h <;> subst h
    case some.some.some s f =>
      refine ⟨hi, fun s' f' hsf => ?_⟩
      simp only [Entity.ends, Option.some.injEq, Prod.mk.injEq] at hsf
      rw [← hsf.1, ← hsf.2]
      exact ⟨bind_idText_ne_empty hs, bind_idText_ne_empty hf⟩
    all_goals exact Entity.identified_node _ _ hi

@[simp] theorem id_withMetadata (e : Entity) (partition : String) (seq : Int) (props : Json.Fields) :
    (withMetadata e partition seq props).id = e.id := by
  unfold withMetadata
  split_ifs
  · rfl
  · cases e <;> rfl

@[simp] theorem ends_withMetadata (e : Entity) (partition : String) (seq : Int)
    (props : Json.Fields) : (withMetadata e partition seq props).ends = e.ends := by
  unfold withMetadata
  split_ifs
  · rfl
  · cases e <;> rfl

theorem identified_withMetadata {e : Entity} (h : e.Identified) (partition : String)
    (seq : Int) (props : Json.Fields) : (withMetadata e partition seq props).Identified := by
  simpa [Entity.Identified] using h

/-- A body in graph shape names its entity, and the entity before, by non-empty ids. -/
theorem shaped_identified {body : Json} {op : String} {e : Entity} {before : Option Entity}
    (h : shaped body = some (op, e, before)) : e.Identified ∧ ∀ b ∈ before, b.Identified := by
  simp [shaped, Option.bind_eq_some_iff] at h
  obtain ⟨obj, -, -, -, he, rfl⟩ := h
  refine ⟨graphEntity_identified he, fun b hb => ?_⟩
  obtain ⟨_, -, hb⟩ := Option.bind_eq_some_iff.1 (Option.mem_def.1 hb)
  exact graphEntity_identified hb

/-- Every entity of a message's change is named by a non-empty id. -/
theorem change_identified {partition : String} {seq : Int} {enqueued : Nat} {body : String}
    {props : Json.Fields} {c : Change} (h : change partition seq enqueued body props = .ok c) :
    ∀ e ∈ c.images, e.Identified := by
  cases hp : Json.parse body with
  | error err =>
    simp [change, hp] at h
  | ok v =>
    cases hs : shaped v with
    | none =>
      simp only [change, hp, Except.pure_eq, Except.ok_bind, hs] at h
      obtain rfl := Except.ok.inj h
      have hid : partition ++ "-" ++ toString seq ≠ "" := by simp [String.append_eq_empty_iff]
      simpa using identified_withMetadata (Entity.identified_node _ _ hid) partition seq props
    | some t =>
      obtain ⟨op, entity, before⟩ := t
      obtain ⟨he, hb⟩ := shaped_identified hs
      simp only [change, hp, Except.pure_eq, Except.ok_bind, hs] at h
      split at h
      · obtain rfl := Except.ok.inj h
        simpa using identified_withMetadata he partition seq props
      · split at h
        · obtain rfl := Except.ok.inj h
          simpa using ⟨hb _ rfl, identified_withMetadata he partition seq props⟩
        · obtain rfl := Except.ok.inj h
          simpa using identified_withMetadata he partition seq props

end EventHub

/-- A Dataverse record's change carries nodes named by the record's id. -/
theorem Dataverse.images_recordId (entity : String) (r : DataverseChange) (received : Nat) :
    ∀ e ∈ (Dataverse.change entity r received).images, e.id = r.recordId ∧ e.ends = none := by
  cases r with
  | newOrUpdated id attrs previous =>
    cases previous <;> simp [Dataverse.change, DataverseChange.recordId, Entity.ends, Entity.id]
  | removedOrDeleted id attrs =>
    simp [Dataverse.change, DataverseChange.recordId, Entity.ends, Entity.id]

namespace Relational

/-- A row's node is named by a non-empty id: its `id` column or its least key column, as `idText`
reads them. -/
theorem rowEntity_identified {table : String} {row : Json} {e : Entity}
    (h : rowEntity table row = .ok e) : e.Identified := by
  cases row with
  | obj fs =>
    simp [rowEntity] at h
    split at h
    · next i hi =>
      obtain rfl := Except.ok.inj h
      refine Entity.identified_node _ _ ?_
      simp only [rowId, Option.orElse_eq_or] at hi
      rcases Option.or_eq_some_iff.1 hi with hid | ⟨-, hkey⟩
      · exact bind_idText_ne_empty hid
      · obtain ⟨k, -, hk⟩ := Option.bind_eq_some_iff.1 hkey
        exact bind_idText_ne_empty hk
    · cases h
  | _ => simp [rowEntity] at h

/-- Every entity of a change by the rule is the node of a row. -/
theorem Reports.images {node : Json → Entity → Prop} {ts : Nat} {op : RowOp}
    {before after : Option Json} {c : Change} (h : Reports node ts op before after c) :
    ∀ e ∈ c.images, ∃ r, node r e := by
  cases h with
  | insert _ hr | upsert _ hr | delete hr => simpa using ⟨_, hr⟩
  | update _ hb ha =>
    intro e he
    rcases List.mem_pair.1 he with rfl | rfl
    · exact ⟨_, hb⟩
    · exact ⟨_, ha⟩

end Relational

/-! ## Every mapped change -/

namespace SourceEvent

/-- Every entity of a mapped change is named by a non-empty id, and a relation at both ends, when
the event names what it maps. -/
theorem mapped_identity (ev : SourceEvent) (received : Nat) (c : Change)
    (h : ev.toChange received = .ok (some c)) (hu : ev.UsableIds) :
    ∀ e ∈ c.images, e.Identified := by
  cases ev with
  | kubernetes kind o previous =>
    intro e he
    obtain ⟨x, hx, hd⟩ := (Kubernetes.reports_of_change h).images e he
    exact hd.identified (hu x hx)
  | eventHub partition seq enqueued body props =>
    cases hc : EventHub.change partition seq enqueued body props with
    | error err => simp [toChange, hc] at h
    | ok c' =>
      simp only [toChange, hc, Except.map_ok, Except.ok.injEq, Option.some.injEq] at h
      subst h
      exact EventHub.change_identified hc
  | dataverse entity r =>
    simp only [toChange, Except.ok.injEq, Option.some.injEq] at h
    subst h
    intro e he
    obtain ⟨hid, hends⟩ := Dataverse.images_recordId entity r received e he
    exact ⟨hid ▸ hu, by simp [hends]⟩
  | relational op table before after ts =>
    intro e he
    obtain ⟨r, hr⟩ := (Relational.reports_of_change h).images e he
    exact Relational.rowEntity_identified hr
  | heartbeat => cases h

/-- A Dataverse record with an id is inserted as the node of that id. -/
theorem account_record_identity :
    (SourceEvent.dataverse "account" (.newOrUpdated "a1" [] none)).toChange 1000 =
        .ok (some (.insert (.node "a1" (Labels.ofList ["account"]) []) 1000)) ∧
      (SourceEvent.dataverse "account" (.newOrUpdated "a1" [] none)).UsableIds ∧
      ∀ e ∈ (Change.insert (.node "a1" (Labels.ofList ["account"]) []) 1000).images,
        e.Identified :=
  have h : (SourceEvent.dataverse "account" (.newOrUpdated "a1" [] none)).toChange 1000 =
      .ok (some (.insert (.node "a1" (Labels.ofList ["account"]) []) 1000)) := rfl
  have hu : (SourceEvent.dataverse "account" (.newOrUpdated "a1" [] none)).UsableIds := by
    simp [UsableIds, DataverseChange.recordId]
  ⟨h, hu, mapped_identity _ _ _ h hu⟩

/-- A binding of `web-0` to a node whose name is empty. -/
def unnamedTargetBinding : Json :=
  .obj [("kind", .str "Binding"),
    ("metadata", .obj [("name", .str "web-0"), ("namespace", .str "default")]),
    ("target", .obj [("kind", .str "Node"), ("name", .str "")])]

/-- Not every mapped entity has a non-empty id at each end: a Dataverse record with an empty id
becomes a node of the empty id, and a binding to a target with an empty name a relation that ends
at the empty id. -/
theorem empty_identities_mapped :
    (∃ c, (SourceEvent.dataverse "account" (.newOrUpdated "" [] none)).toChange 1000 = .ok (some c) ∧
      ∃ e ∈ c.images, e.id = "") ∧
    (∃ c, (SourceEvent.kubernetes .added unnamedTargetBinding none).toChange 1000 = .ok (some c) ∧
      ∃ e ∈ c.images, ∃ s, e.ends = some (s, "")) :=
  ⟨⟨_, rfl, _, List.mem_singleton_self _, rfl⟩,
    ⟨_, Kubernetes.change_of_reports (@Kubernetes.Reports.added 1000 _ none _
        (.binding rfl (by simp) rfl rfl)),
      _, List.mem_singleton_self _, _, rfl⟩⟩

end SourceEvent

end ChangeRelay
