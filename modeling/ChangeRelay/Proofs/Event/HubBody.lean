import ChangeRelay.Proofs.Event.Identity
import ChangeRelay.Proofs.Graph.Wire
import ChangeRelay.Proofs.Json.DepthLimit

/-!
# Event Hub messages that carry an entity

A message in graph shape carries the JSON of an entity with its op, and for an update the JSON of
the entity before (`EventHub.graphBody`). The mapper reads the body and takes the entities out of
it again, so the message maps to the op on the entity itself, at the message's enqueued time, with
the message's application properties recorded on the entity after (`EventHub.Recorded`):
`EventHub.graph_body_round_trip`.

Two guards make that hold, each named rather than assumed away. The entity must be one the mapper
takes out of JSON: named by non-empty ids, with its properties in key order (`Entity.Carried`).
And its property values must read back where they stand in the body: the reader's depth limit
counts the body and the properties object, and for the entity before the `before` object too, so
the values get two levels fewer than a text of their own, and three for the entity before. A
value that reads back alone may be refused inside a body: `EventHub.deep_property_refused` is an
array nested 126 deep, which reads back on its own, and whose message is not JSON to the mapper.
-/

namespace ChangeRelay

/-- A value with member `k` set to `v`, when it is an object. -/
def Json.withMember (j : Json) (k : String) (v : Json) : Json :=
  match j with
  | .obj fs => .obj (Json.Fields.insert k v fs)
  | j => j

/-- An entity whose JSON a message carries and gives back, when its property values are read
with `d` levels of the reader's depth left: it is named by non-empty ids, its properties hold their
keys in order, and each property value reads back there. -/
structure Entity.Carried (d : Nat) (e : Entity) : Prop where
  identified : e.Identified
  ordered : e.properties.Ordered
  readable : ∀ kv ∈ e.properties, Json.Readable d kv.2

namespace Json

theorem Readable.withMember {d : Nat} {j v : Json} (k : String) (hj : Readable d j)
    (hv : Readable (d - 1) v) : Readable d (j.withMember k v) := by
  cases j with
  | obj fs =>
    cases hj with
    | obj hd ho hfs =>
      refine .obj hd (ho.insert k v) fun kv hkv => ?_
      rcases Fields.mem_insert hkv with rfl | hkv
      · exact hv
      · exact hfs kv hkv
  | _ => exact hj

theorem readable_labels {d : Nat} (hd : 1 < d) (ls : Labels) : Readable d ls.toJson :=
  .arr hd fun x hx => by
    obtain ⟨l, -, rfl⟩ := List.mem_map.1 hx
    exact .str l

end Json

/-- An entity's JSON reads back where its members have one level less than it, and its property
values two. -/
theorem Entity.readable_toJson {d : Nat} {e : Entity} (hd : 2 < d) (he : e.Carried (d - 2)) :
    Json.Readable d e.toJson := by
  have hprops : Json.Readable (d - 1) (.obj e.properties) :=
    .obj (by omega) he.ordered fun kv hkv => by
      rw [show d - 1 - 1 = d - 2 by omega]
      exact he.readable kv hkv
  cases e with
  | node i ls ps =>
    refine .obj (by omega) (Json.Fields.ordered_ofList _) fun kv hkv => ?_
    replace hkv := Json.Fields.mem_ofList hkv
    simp only [List.mem_cons, List.mem_nil_iff, or_false] at hkv
    rcases hkv with rfl | rfl | rfl
    · exact .str i
    · exact Json.readable_labels (by omega) ls
    · exact hprops
  | relation i ls ps s f =>
    refine .obj (by omega) (Json.Fields.ordered_ofList _) fun kv hkv => ?_
    replace hkv := Json.Fields.mem_ofList hkv
    simp only [List.mem_cons, List.mem_nil_iff, or_false] at hkv
    rcases hkv with rfl | rfl | rfl | rfl | rfl
    · exact .str i
    · exact Json.readable_labels (by omega) ls
    · exact hprops
    · exact .str s
    · exact .str f

theorem Entity.toJson_obj (e : Entity) : ∃ fs, e.toJson = .obj fs := by
  cases e <;> exact ⟨_, rfl⟩

/-- An entity's JSON has no member `op` or `before`, the members a message adds to it. -/
theorem Entity.field?_toJson_added (e : Entity) :
    e.toJson.field? "op" = none ∧ e.toJson.field? "before" = none := by
  cases e <;> simp [Entity.toJson, Json.mkObj, Json.field?, Json.Fields.get?_ofList]

namespace EventHub

/-- The body of a message in graph shape: the entity's JSON with its op, and for an update the
JSON of the entity before. -/
def graphBody (op : String) (e : Entity) (before : Option Entity) : Json :=
  let body := e.toJson.withMember "op" (.str op)
  match before with
  | some b => body.withMember "before" b.toJson
  | none => body

/-- `e'` is `e` with what a message records on it: `e` itself when the message has no application
properties, and otherwise `e` with the one property `_eventhub` set to the message's partition,
sequence number and application properties. -/
def Recorded (partition : String) (seq : Int) (props : Json.Fields) (e e' : Entity) : Prop :=
  if props = [] then e' = e
  else e'.id = e.id ∧ e'.labels = e.labels ∧ e'.ends = e.ends ∧
    ∀ k, Json.Fields.get? k e'.properties =
      if k = "_eventhub" then
        some (Json.mkObj [("partition", .str partition), ("sequenceNumber", Json.ofInt seq),
          ("properties", .obj props)])
      else Json.Fields.get? k e.properties

theorem recorded_withMetadata (e : Entity) (partition : String) (seq : Int)
    (props : Json.Fields) : Recorded partition seq props e (withMetadata e partition seq props) := by
  unfold Recorded withMetadata
  by_cases hp : props = []
  · subst hp
    simp
  · have hne : props.isEmpty = false := by
      cases props with
      | nil => exact absurd rfl hp
      | cons => rfl
    rw [if_neg hp, if_neg (by simp [hne])]
    cases e <;>
      simp [Entity.id, Entity.labels, Entity.ends, Entity.properties, Json.Fields.get?_insert]

theorem idText_str {s : String} (h : s ≠ "") : idText (.str s) = some s := by
  simp [idText, h]

/-- The entity in graph shape is read from the members its JSON has: the id, the labels, the
properties and a relation's ends. -/
theorem graphEntity_of_fields {fs : Json.Fields} {e : Entity} (he : e.Identified)
    (hfs : ∀ k, k ≠ "op" → k ≠ "before" → Json.Fields.get? k fs = e.toJson.field? k) :
    graphEntity fs = some e := by
  unfold graphEntity
  rw [hfs "id" (by decide) (by decide), hfs "labels" (by decide) (by decide),
    hfs "properties" (by decide) (by decide), hfs "startId" (by decide) (by decide),
    hfs "endId" (by decide) (by decide)]
  have hls (ls : Labels) (g : Json → String) (hg : ∀ s, g (.str s) = s) :
      Labels.ofList (ls.toList.map (g ∘ Json.str)) = ls := by
    rw [show g ∘ Json.str = id from funext hg, List.map_id]
    exact Labels.ofList_toList ls
  cases e with
  | node i ls ps =>
    have hi : i ≠ "" := he.1
    simp [Entity.toJson, Json.mkObj, Json.field?, Json.Fields.get?_ofList, List.lookup_cons,
      idText_str hi, Labels.toJson]
    exact hls ls _ fun _ => rfl
  | relation i ls ps s f =>
    have hi : i ≠ "" := he.1
    obtain ⟨hs, hf⟩ := he.2 s f rfl
    simp [Entity.toJson, Json.mkObj, Json.field?, Json.Fields.get?_ofList, List.lookup_cons,
      idText_str hi, idText_str hs, idText_str hf, Labels.toJson]
    exact hls ls _ fun _ => rfl

/-- A body in graph shape gives back its op, its entity and its entity before. -/
theorem shaped_graphBody {op : String} {e : Entity} {before : Option Entity}
    (hop : op = "i" ∨ op = "u" ∨ op = "d") (he : e.Identified)
    (hb : ∀ b ∈ before, b.Identified) : shaped (graphBody op e before) = some (op, e, before) := by
  obtain ⟨fs, hfs⟩ := e.toJson_obj
  obtain ⟨hop', hbefore'⟩ := e.field?_toJson_added
  rw [hfs, Json.field?] at hop' hbefore'
  have hcheck : ¬op = "i" → ¬op = "u" → op = "d" := fun h1 h2 =>
    (hop.resolve_left h1).resolve_left h2
  have hentity (fs' : Json.Fields)
      (hfs' : ∀ k, k ≠ "op" → k ≠ "before" → Json.Fields.get? k fs' = Json.Fields.get? k fs) :
      graphEntity fs' = some e :=
    graphEntity_of_fields he fun k h1 h2 => by rw [hfs' k h1 h2, hfs]; rfl
  cases before with
  | none =>
    have hentity' := hentity (Json.Fields.insert "op" (.str op) fs) fun k h1 _ => by
      rw [Json.Fields.get?_insert, if_neg h1]
    simp [shaped, graphBody, hfs, Json.withMember, Json.obj?, Json.Fields.get?_insert, Json.str?,
      hentity', hbefore']
    exact hcheck
  | some b =>
    obtain ⟨bfs, hbfs⟩ := b.toJson_obj
    have hb' : graphEntity bfs = some b :=
      graphEntity_of_fields (hb b rfl) fun k _ _ => by rw [hbfs]; rfl
    have hentity' := hentity (Json.Fields.insert "before" b.toJson
        (Json.Fields.insert "op" (.str op) fs)) fun k h1 h2 => by
      rw [Json.Fields.get?_insert, if_neg h2, Json.Fields.get?_insert, if_neg h1]
    rw [hbfs] at hentity'
    simp [shaped, graphBody, hfs, hbfs, Json.withMember, Json.obj?, Json.Fields.get?_insert,
      Json.str?, hentity', hb']
    exact hcheck

/-- A body in graph shape reads back with the reader's whole depth when its entity's property
values read back two levels down, and its entity before's three. -/
theorem readable_graphBody {op : String} {e : Entity} {before : Option Entity}
    (he : e.Carried (Json.Reader.depthLimit - 2))
    (hb : ∀ b ∈ before, b.Carried (Json.Reader.depthLimit - 3)) :
    Json.Readable Json.Reader.depthLimit (graphBody op e before) := by
  have hbody : Json.Readable Json.Reader.depthLimit (e.toJson.withMember "op" (.str op)) :=
    (e.readable_toJson (by decide) he).withMember "op" (.str op)
  cases before with
  | none => exact hbody
  | some b => exact hbody.withMember "before" (b.readable_toJson (by decide) (hb b rfl))

/-- A message whose body is an entity's JSON with an op maps to that op on the entity, at the
message's enqueued time, with the message's application properties recorded on it: `i` to its
insert, `d` to its delete, and `u` with the JSON of the entity before to the update from it. -/
theorem graph_body_round_trip (partition : String) (seq : Int) (enqueued : Nat)
    (props : Json.Fields) {e b : Entity} (he : e.Carried (Json.Reader.depthLimit - 2))
    (hb : b.Carried (Json.Reader.depthLimit - 3)) :
    ∃ e', Recorded partition seq props e e' ∧
      change partition seq enqueued (graphBody "i" e none).render props =
        .ok (.insert e' enqueued) ∧
      change partition seq enqueued (graphBody "d" e none).render props =
        .ok (.delete e' enqueued) ∧
      change partition seq enqueued (graphBody "u" e (some b)).render props =
        .ok (.update b e' enqueued) := by
  have hnone : ∀ b' ∈ (none : Option Entity), b'.Carried (Json.Reader.depthLimit - 3) :=
    fun _ h => nomatch h
  have hsome : ∀ b' ∈ some b, b'.Carried (Json.Reader.depthLimit - 3) := fun _ h => by
    cases h
    exact hb
  have hread (op : String) (before : Option Entity)
      (hbefore : ∀ b' ∈ before, b'.Carried (Json.Reader.depthLimit - 3)) :
      Json.parse (graphBody op e before).render = .ok (graphBody op e before) :=
    Json.parse_render (readable_graphBody he hbefore)
  have hshaped (op : String) (hop : op = "i" ∨ op = "u" ∨ op = "d") (before : Option Entity)
      (hbefore : ∀ b' ∈ before, b'.Carried (Json.Reader.depthLimit - 3)) :
      shaped (graphBody op e before) = some (op, e, before) :=
    shaped_graphBody hop he.identified fun b' h => (hbefore b' h).identified
  refine ⟨withMetadata e partition seq props, recorded_withMetadata e partition seq props,
    ?_, ?_, ?_⟩
  · simp only [change, pure_bind, hread "i" none hnone, hshaped "i" (.inl rfl) none hnone]
    rfl
  · simp only [change, pure_bind, hread "d" none hnone, hshaped "d" (.inr (.inr rfl)) none hnone]
    rfl
  · simp only [change, pure_bind, hread "u" (some b) hsome, hshaped "u" (.inr (.inl rfl)) (some b) hsome]
    rfl

/-- A person node with one property, and the node before its name was completed, sent with one
application property. -/
theorem person_round_trip :
    (Entity.node "n1" (Labels.ofList ["Person"]) [("name", .str "Ada")]).Carried
        (Json.Reader.depthLimit - 2) ∧
      (Entity.node "n1" (Labels.ofList ["Person"]) [("name", .str "Ad")]).Carried
        (Json.Reader.depthLimit - 3) ∧
      ∃ e', Recorded "p0" 7 [("source", .str "crm")]
          (Entity.node "n1" (Labels.ofList ["Person"]) [("name", .str "Ada")]) e' ∧
        change "p0" 7 1000 (graphBody "i"
            (.node "n1" (Labels.ofList ["Person"]) [("name", .str "Ada")]) none).render
          [("source", .str "crm")] = .ok (.insert e' 1000) ∧
        change "p0" 7 1000 (graphBody "d"
            (.node "n1" (Labels.ofList ["Person"]) [("name", .str "Ada")]) none).render
          [("source", .str "crm")] = .ok (.delete e' 1000) ∧
        change "p0" 7 1000 (graphBody "u"
            (.node "n1" (Labels.ofList ["Person"]) [("name", .str "Ada")])
            (some (.node "n1" (Labels.ofList ["Person"]) [("name", .str "Ad")]))).render
          [("source", .str "crm")] =
          .ok (.update (.node "n1" (Labels.ofList ["Person"]) [("name", .str "Ad")]) e' 1000) := by
  have hcarried (d : Nat) (name : String) :
      (Entity.node "n1" (Labels.ofList ["Person"]) [("name", .str name)]).Carried d := by
    refine ⟨⟨show "n1" ≠ "" by decide, fun _ _ h => nomatch h⟩,
      show Json.Fields.Ordered [("name", .str name)] by simp [Json.Fields.Ordered], fun kv hkv => ?_⟩
    rcases List.mem_singleton.1 hkv with rfl
    exact .str name
  exact ⟨hcarried _ "Ada", hcarried _ "Ad",
    graph_body_round_trip "p0" 7 1000 [("source", .str "crm")] (hcarried _ "Ada") (hcarried _ "Ad")⟩

/-- An array nested 126 deep reads back on its own, but not as a property value in a body: there
it is past the reader's depth, and the message is refused as not JSON. -/
theorem deep_property_refused :
    Json.parse (Json.nested 125).render = .ok (Json.nested 125) ∧
      ∃ m, change "p" 1 5000
          (graphBody "i" (.node "n" (Labels.ofList []) [("v", Json.nested 125)]) none).render [] =
        .error (.mapping m) := by
  refine ⟨Json.parse_render (Json.readable_nested 125 (by decide)), ?_⟩
  have hbody : graphBody "i" (.node "n" (Labels.ofList []) [("v", Json.nested 125)]) none =
      .obj ([("id", .str "n"), ("labels", .arr []), ("op", .str "i")] ++
        ("properties", .obj ([] ++ ("v", Json.nested 125) :: [])) :: []) := rfl
  have hpre : ∀ kv ∈ [("id", Json.str "n"), ("labels", Json.arr []), ("op", Json.str "i")],
      Json.ReadsAt (Json.Reader.depthLimit - 1) kv.2 := by
    intro kv hkv
    simp only [List.mem_cons, List.mem_nil_iff, or_false] at hkv
    rcases hkv with rfl | rfl | rfl
    · exact Json.readsAt_str _ _
    · exact Json.readsAt_arr (by decide) fun _ h => nomatch h
    · exact Json.readsAt_str _ _
  have hprops : Json.Refused (Json.Reader.depthLimit - 1)
      (.obj ([] ++ ("v", Json.nested 125) :: [])) :=
    Json.refused_obj (by decide) (fun _ h => nomatch h) (Json.refused_nested 125 (by decide))
  have hrefused : Json.Refused Json.Reader.depthLimit
      (graphBody "i" (.node "n" (Labels.ofList []) [("v", Json.nested 125)]) none) := by
    rw [hbody]
    exact Json.refused_obj (by decide) hpre hprops
  obtain ⟨err, herr⟩ := Json.parse_refused hrefused
  exact change_of_parse_error "p" 1 5000 [] herr

end EventHub

end ChangeRelay
