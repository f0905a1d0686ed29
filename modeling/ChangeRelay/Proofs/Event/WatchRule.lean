import ChangeRelay.Proofs.Event.Outcome
import ChangeRelay.Proofs.Json.Members

/-!
# Watch events by the Kubernetes rule

A watched object stands for one entity of the graph (`Kubernetes.Describes`). It must have a
non-empty `metadata.name`; its id is `namespace/name` when `metadata.namespace` is a non-empty
string and the name otherwise (`Kubernetes.idOf`).

* A `Binding` stands for the relation `SCHEDULED_ON` from the bound object to the node named by
  `target.name`, whose id is derived from both ends (`edgeId`) and whose one property is
  `targetKind`, the target's `kind`, when the target has one.
* Any other object stands for a node labelled with its `kind` (`Resource` when it has none as a
  string), whose properties are set one after another: its name, its namespace when that is a
  string, the metadata fields `uid`, `resourceVersion`, `labels`, `annotations` and
  `creationTimestamp` that are present, and then every top-level member but `apiVersion`, `kind`
  and `metadata` (`Kubernetes.propertyPairs`). A property set later replaces one set earlier, so
  the node's property for a key is the last value given for it.

An added object is inserted at the time it was received; a modified one is updated from the
previous object when the watcher supplies one and inserted otherwise; a deleted one is deleted at
its `metadata.deletionTimestamp`, read as RFC 3339 and counted from the epoch, or at the time it
was received when that is no such instant (`Kubernetes.Reports`).

`Kubernetes.entityOf_eq_ok_iff` says `Kubernetes.entityOf` reads exactly the described entity,
and `Kubernetes.watch_follows_rule` that `Kubernetes.change` reports exactly the change of the
rule. The node's properties are compared through their lookups: the staged inserts of `entityOf`
build the members of `Json.Fields.ofList (propertyPairs ..)`, which are in key order and find the
last value of each key (`Json.Fields.get?_ofList`).
-/

namespace ChangeRelay.Kubernetes

/-- The kind an object declares: its `kind` when that is a string, else `Resource`. -/
def kindOf (o : Json) : String := ((o.path? ["kind"]).bind Json.str?).getD "Resource"

/-- The namespace an object declares, when it declares one as a string. -/
def namespaceOf (o : Json) : Option String := (o.path? ["metadata", "namespace"]).bind Json.str?

/-- The id of an object named `name`: `namespace/name` in a non-empty namespace, else the name. -/
def idOf (o : Json) (name : String) : String :=
  match namespaceOf o with
  | some ns => if ns = "" then name else ns ++ "/" ++ name
  | none => name

/-- The properties of an object's node in the order they are set: its name, its namespace when it
is a string, the kept metadata fields present, and the members that do not describe the object. -/
def propertyPairs (fs : Json.Fields) (name : String) : List (String × Json) :=
  [("name", .str name)] ++
    ((namespaceOf (.obj fs)).map fun ns => ("namespace", Json.str ns)).toList ++
    keptMetadata.filterMap (fun k => ((Json.obj fs).path? ["metadata", k]).map (k, ·)) ++
    fs.filter (fun m => !envelope.contains m.1)

/-- The entity a watched object stands for. -/
inductive Describes : Json → Entity → Prop
  /-- A binding stands for the relation from the bound object to its target. -/
  | binding {fs : Json.Fields} {name t : String} :
      (Json.obj fs).path? ["metadata", "name"] = some (.str name) → name ≠ "" →
      (Json.obj fs).path? ["kind"] = some (.str "Binding") →
      (Json.obj fs).path? ["target", "name"] = some (.str t) →
      Describes (.obj fs) (.relation (edgeId (idOf (.obj fs) name) scheduledOn t)
        (Labels.ofList [scheduledOn])
        (((Json.obj fs).path? ["target", "kind"]).map (fun k => ("targetKind", k))).toList
        (idOf (.obj fs) name) t)
  /-- Any other object stands for a node whose property of each key is the last one set. -/
  | node {fs : Json.Fields} {name : String} {ps : Json.Fields} :
      (Json.obj fs).path? ["metadata", "name"] = some (.str name) → name ≠ "" →
      (Json.obj fs).path? ["kind"] ≠ some (.str "Binding") →
      Json.Fields.Ordered ps →
      (∀ k, Json.Fields.get? k ps = (propertyPairs fs name).reverse.lookup k) →
      Describes (.obj fs) (.node (idOf (.obj fs) name) (Labels.ofList [kindOf (.obj fs)]) ps)

/-- The change a watch event reports by the rule, received at `received`. -/
inductive Reports (received : Nat) : WatchKind → Json → Option Json → Change → Prop
  /-- An added object is inserted. -/
  | added {o : Json} {previous : Option Json} {e : Entity} :
      Describes o e → Reports received .added o previous (.insert e received)
  /-- A modified object without the previous one is inserted. -/
  | upsert {o : Json} {e : Entity} :
      Describes o e → Reports received .modified o none (.insert e received)
  /-- A modified object is updated from the previous one. -/
  | modified {o p : Json} {e' e : Entity} :
      Describes o e → Describes p e' → Reports received .modified o (some p) (.update e' e received)
  /-- A deleted object is deleted at its deletion time, or when it was received. -/
  | deleted {o : Json} {previous : Option Json} {e : Entity} :
      Describes o e →
      Reports received .deleted o previous
        (.delete e ((instantMillis (o.path? ["metadata", "deletionTimestamp"])).getD received))

/-! ## Reading an object -/

/-- A member of a member is the member at its two-step path. -/
theorem path?_two (o : Json) (a b : String) : o.path? [a, b] = (o.field? a).bind (·.field? b) := by
  simp

/-- Setting the kept metadata fields that are present sets their pairs in order. -/
theorem foldl_kept (g : String → Option Json) (ks : List String) (acc : Json.Fields) :
    ks.foldl (fun acc k => match g k with
      | some v => Json.Fields.insert k v acc
      | none => acc) acc =
      (ks.filterMap fun k => (g k).map (k, ·)).foldl
        (fun acc kv => Json.Fields.insert kv.1 kv.2 acc) acc := by
  induction ks generalizing acc with
  | nil => rfl
  | cons k rest ih =>
    cases hm : g k <;> simp [hm, ih]

/-- Copying the members that do not describe the object sets them in order. -/
theorem foldl_members (fs acc : Json.Fields) :
    fs.foldl (fun acc kv => if kv.1 ∈ envelope then acc else Json.Fields.insert kv.1 kv.2 acc) acc =
      (fs.filter fun m => !envelope.contains m.1).foldl
        (fun acc kv => Json.Fields.insert kv.1 kv.2 acc) acc := by
  induction fs generalizing acc with
  | nil => rfl
  | cons kv rest ih =>
    by_cases hk : kv.1 ∈ envelope
    · simp [hk, ih]
    · simp [hk, ih]

/-- An object with a usable name that is no binding stands for the node of its rule. -/
theorem entityOf_node {fs : Json.Fields} {n : String}
    (hname : ((Json.Fields.get? "metadata" fs).bind (·.field? "name")).bind Json.str? = some n)
    (hne : n ≠ "") (hb : Json.Fields.get? "kind" fs ≠ some (.str "Binding")) :
    entityOf (.obj fs) = .ok (.node (idOf (.obj fs) n) (Labels.ofList [kindOf (.obj fs)])
      (Json.Fields.ofList (propertyPairs fs n))) := by
  simp [entityOf, member?_bind_obj, hname, hne, kind_eq_binding, hb]
  erw [foldl_kept, foldl_members]
  cases hns : ((Json.Fields.get? "metadata" fs).bind (·.field? "namespace")).bind Json.str? <;>
    simp [idOf, namespaceOf, kindOf, propertyPairs, Json.Fields.ofList, List.foldl_append, hns]

/-- A binding with a usable name and a target name stands for the relation to its target. -/
theorem entityOf_binding {fs : Json.Fields} {n t : String}
    (hname : ((Json.Fields.get? "metadata" fs).bind (·.field? "name")).bind Json.str? = some n)
    (hne : n ≠ "") (hb : Json.Fields.get? "kind" fs = some (.str "Binding"))
    (ht : ((Json.Fields.get? "target" fs).bind (·.field? "name")).bind Json.str? = some t) :
    entityOf (.obj fs) = .ok (.relation (edgeId (idOf (.obj fs) n) scheduledOn t)
      (Labels.ofList [scheduledOn])
      (((Json.obj fs).path? ["target", "kind"]).map (fun k => ("targetKind", k))).toList
      (idOf (.obj fs) n) t) := by
  simp only [path?_two, Json.field?_obj]
  cases hns : ((Json.Fields.get? "metadata" fs).bind (·.field? "namespace")).bind Json.str? <;>
    cases hk : (Json.Fields.get? "target" fs).bind (·.field? "kind") <;>
    simp [entityOf, member?_bind_obj, hname, hne, kind_eq_binding, hb, ht, Json.str?, idOf,
      namespaceOf, hns, hk]

/-- A binding without a target name is not read. -/
theorem entityOf_untargeted {fs : Json.Fields} {n : String}
    (hname : ((Json.Fields.get? "metadata" fs).bind (·.field? "name")).bind Json.str? = some n)
    (hne : n ≠ "") (hb : Json.Fields.get? "kind" fs = some (.str "Binding"))
    (ht : ((Json.Fields.get? "target" fs).bind (·.field? "name")).bind Json.str? = none) :
    entityOf (.obj fs) = .error (.mapping "Binding has no target.name") := by
  simp [entityOf, member?_bind_obj, hname, hne, kind_eq_binding, hb, ht, Json.str?]

/-- An object without a usable name is not read. -/
theorem entityOf_unnamed {fs : Json.Fields}
    (h : ∀ n, ((Json.Fields.get? "metadata" fs).bind (·.field? "name")).bind Json.str? = some n →
      n = "") :
    ∃ m, entityOf (.obj fs) = .error (.mapping m) := by
  cases hname : ((Json.Fields.get? "metadata" fs).bind (·.field? "name")).bind Json.str? with
  | none => exact ⟨_, by simp [entityOf, member?_bind_obj, hname]; rfl⟩
  | some n =>
    have hn := h n hname
    exact ⟨_, by simp [entityOf, member?_bind_obj, hname, hn]; rfl⟩

/-- `entityOf` reads an object exactly as the entity it stands for. -/
theorem entityOf_eq_ok_iff {o : Json} {e : Entity} : entityOf o = .ok e ↔ Describes o e := by
  cases o with
  | obj fs =>
    by_cases hgood : ∃ n, ((Json.Fields.get? "metadata" fs).bind (·.field? "name")).bind Json.str? =
        some n ∧ n ≠ ""
    · obtain ⟨n, hname, hne⟩ := hgood
      have hn : (Json.obj fs).path? ["metadata", "name"] = some (.str n) := by
        simpa [Json.bind_str?_eq_some] using hname
      have hsame : ∀ {n'}, (Json.obj fs).path? ["metadata", "name"] = some (.str n') → n' = n :=
        fun h => by rw [hn] at h; cases h; rfl
      by_cases hb : Json.Fields.get? "kind" fs = some (.str "Binding")
      · have hb' : (Json.obj fs).path? ["kind"] = some (.str "Binding") := by simpa using hb
        cases ht : ((Json.Fields.get? "target" fs).bind (·.field? "name")).bind Json.str? with
        | none =>
          rw [entityOf_untargeted hname hne hb ht]
          simp only [reduceCtorEq, false_iff]
          rintro (⟨-, -, -, ht'⟩ | ⟨-, -, hb'', -, -⟩)
          · simp [(Json.bind_str?_eq_some _ _).2 (by simpa using ht')] at ht
          · exact hb'' hb'
        | some t =>
          have ht' : (Json.obj fs).path? ["target", "name"] = some (.str t) := by
            simpa [Json.bind_str?_eq_some] using ht
          rw [entityOf_binding hname hne hb ht]
          constructor
          · rintro ⟨⟩
            exact .binding hn hne hb' ht'
          · rintro (⟨hn2, -, -, ht2⟩ | ⟨-, -, hb'', -, -⟩)
            · obtain rfl := hsame hn2
              rw [ht'] at ht2
              cases ht2
              rfl
            · exact absurd hb' hb''
      · have hb' : (Json.obj fs).path? ["kind"] ≠ some (.str "Binding") := by simpa using hb
        rw [entityOf_node hname hne hb]
        constructor
        · rintro ⟨⟩
          exact .node hn hne hb' (Json.Fields.ordered_ofList _) fun k => Json.Fields.get?_ofList k _
        · rintro (⟨-, -, hb'', -⟩ | ⟨hn2, -, -, hord, hget⟩)
          · exact absurd hb'' hb'
          · obtain rfl := hsame hn2
            have hps := Json.Fields.ext_get? (Json.Fields.ordered_ofList _) hord fun k =>
              (Json.Fields.get?_ofList k _).trans (hget k).symm
            rw [hps]
    · have hunnamed : ∀ n, ((Json.Fields.get? "metadata" fs).bind (·.field? "name")).bind Json.str? =
          some n → n = "" := fun n h => Decidable.byContradiction fun hne => hgood ⟨n, h, hne⟩
      obtain ⟨m, hm⟩ := entityOf_unnamed hunnamed
      rw [hm]
      simp only [reduceCtorEq, false_iff]
      rintro (⟨hn, hne, -, -⟩ | ⟨hn, hne, -, -, -⟩) <;>
        exact hne (hunnamed _ (by simpa [Json.bind_str?_eq_some] using hn))
  | _ =>
    simp only [entityOf, Except.throw_eq, Except.error_bind, reduceCtorEq, false_iff]
    rintro ⟨⟩

/-! ## The change of a watch event -/

section Change

variable {received : Nat} {kind : WatchKind} {o : Json} {previous : Option Json} {c : Change}

/-- Every change the rule gives is the one `change` reports. -/
theorem change_of_reports (h : Reports received kind o previous c) :
    change kind o previous received = .ok (some c) := by
  cases h with
  | added he => simp [change, entityOf_eq_ok_iff.2 he]
  | upsert he => simp [change, entityOf_eq_ok_iff.2 he]
  | modified he he' => simp [change, entityOf_eq_ok_iff.2 he, entityOf_eq_ok_iff.2 he']
  | deleted he => simp [change, entityOf_eq_ok_iff.2 he]

/-- Every change `change` reports is one the rule gives. -/
theorem reports_of_change (h : change kind o previous received = .ok (some c)) :
    Reports received kind o previous c := by
  cases hent : entityOf o with
  | error err => cases kind <;> simp [change, hent] at h
  | ok e =>
    have he := entityOf_eq_ok_iff.1 hent
    cases kind with
    | bookmark => simp [change] at h
    | added =>
      simp only [change, hent, reduceCtorEq, if_false, Except.ok_bind, Except.pure_eq,
        Except.ok.injEq, Option.some.injEq] at h
      subst h
      exact .added he
    | modified =>
      cases previous with
      | none =>
        simp only [change, hent, reduceCtorEq, if_false, Except.ok_bind, Except.pure_eq,
          Except.ok.injEq, Option.some.injEq] at h
        subst h
        exact .upsert he
      | some p =>
        cases hp : entityOf p with
        | error err => simp [change, hent, hp] at h
        | ok e' =>
          simp only [change, hent, hp, reduceCtorEq, if_false, Except.ok_bind, Except.pure_eq,
            Except.ok.injEq, Option.some.injEq] at h
          subst h
          exact .modified he (entityOf_eq_ok_iff.1 hp)
    | deleted =>
      simp only [change, hent, reduceCtorEq, if_false, Except.ok_bind, Except.pure_eq,
        Except.ok.injEq, Option.some.injEq] at h
      rw [← path?_two] at h
      subst h
      exact .deleted he

end Change

/-- A watch event's change follows the Kubernetes rule: the change `change` reports is exactly
the one the rule gives (an insert of the object's entity at the receive time for an added object,
and for a modified one without the previous object; an update from the previous object's entity
for a modified one; a delete at the deletion time, or else the receive time, for a deleted one),
where the entity of an object is the relation of a binding or the node of any other object as
`Describes` gives them. -/
theorem watch_follows_rule (kind : WatchKind) (o : Json) (previous : Option Json) (received : Nat)
    (c : Change) : change kind o previous received = .ok (some c) ↔ Reports received kind o previous c :=
  ⟨reports_of_change, change_of_reports⟩

end ChangeRelay.Kubernetes
