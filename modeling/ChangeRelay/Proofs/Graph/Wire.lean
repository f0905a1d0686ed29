import ChangeRelay.Graph.Subscription
import ChangeRelay.Proofs.Basic
import ChangeRelay.Proofs.Json.Members
import Mathlib.Data.String.Basic

/-!
# Reading back what is written

The relay writes notifications, entities and subscriptions as JSON objects and reads them back
with decoders that know nothing of how they were written. `wire_round_trip` says the two agree:
each decoder gives back what the writer was given. The points where they could part are these.

* Entities are read without a tag, as a relation if the object reads as one and as a node
  otherwise. A relation is written with its `startId` and `endId`, which a node never has, so
  each comes back as what it was (`Entity.decode_toJson`).
* Labels are written as the list of the set and read back by inserting them one by one; since a
  set is held in increasing order, inserting its labels in that order rebuilds the same list
  (`Labels.ofList_toList`).
* An absent cursor is left out and read back as absent (`Provenance.decode_toJson`).
* Times and sequence numbers are read as unsigned 64-bit numbers, so a notification comes back
  only if they fit (`Notification.FitsWire`), as they always do for the relay's own.

Records are read member by member through `Decode.Form`; its checks and its reading of members
are taken apart once, in `Decode.Form.seq_checks` and its neighbours.
-/

namespace ChangeRelay

/-! ## Labels -/

namespace Labels

/-- Two sets with the same list are the same. -/
theorem eq_of_toList_eq {a b : Labels} (h : a.toList = b.toList) : a = b := by
  cases a; cases b; cases h; rfl

/-- Inserting a label above every label of a list appends it. -/
theorem insertInto_of_lt (l : String) :
    ∀ {xs : List String}, (∀ x ∈ xs, x < l) → insertInto l xs = xs ++ [l]
  | [], _ => rfl
  | x :: xs, h => by
    have hxl : x < l := h x (List.mem_cons_self ..)
    have hnlt : ¬ l < x := String.lt_asymm hxl
    have hne : l ≠ x := fun he => String.lt_irrefl x (he ▸ hxl)
    simp only [insertInto, hnlt, hne, if_false, List.cons_append]
    rw [insertInto_of_lt l (fun y hy => h y (List.mem_cons_of_mem x hy))]

/-- Inserting the labels of an increasing list, each above all before it, appends them. -/
theorem foldl_insert_of_pairwise :
    ∀ (acc : Labels) (ys : List String), (acc.toList ++ ys).Pairwise (· < ·) →
      (ys.foldl (fun a x => a.insert x) acc).toList = acc.toList ++ ys
  | acc, [], _ => by simp
  | acc, y :: ys, h => by
    have hy : ∀ x ∈ acc.toList, x < y := fun x hx =>
      (List.pairwise_append.1 h).2.2 x hx y (List.mem_cons_self ..)
    have hacc : (acc.insert y).toList = acc.toList ++ [y] := insertInto_of_lt y hy
    rw [List.foldl_cons, foldl_insert_of_pairwise (acc.insert y) ys (by simpa [hacc] using h), hacc,
      List.append_assoc, List.singleton_append]

/-- A set of labels is the set of its own list. -/
theorem ofList_toList (ls : Labels) : ofList ls.toList = ls :=
  eq_of_toList_eq (foldl_insert_of_pairwise empty ls.toList ls.sorted)

/-- An array of strings reads back as its strings. -/
theorem mapM_string (xs : List String) : (xs.map Json.str).mapM Decode.string = .ok xs := by
  induction xs with
  | nil => rfl
  | cons x xs ih => simp only [List.map_cons, List.mapM_cons, ih]; rfl

/-- Labels read back from their array are the same set. -/
theorem decode_toJson (ls : Labels) : decode ls.toJson = .ok ls := by
  show ofList <$> (ls.toList.map Json.str).mapM Decode.string = .ok ls
  rw [mapM_string]
  exact congrArg Except.ok (ofList_toList ls)

end Labels

/-! ## Records read member by member -/

namespace Decode.Form

variable {ν ε α β : Type}

@[simp] theorem map_checks (f : α → β) (s : Form ν ε α) : (f <$> s).checks = s.checks := rfl

@[simp] theorem seq_checks (g : Form ν ε (α → β)) (x : Form ν ε α) :
    (g <*> x).checks = g.checks ++ x.checks := rfl

@[simp] theorem map_ofMembers (f : α → β) (s : Form ν ε α) (fs : List (String × ν)) :
    (f <$> s).ofMembers fs = f <$> s.ofMembers fs := rfl

@[simp] theorem seq_ofMembers (g : Form ν ε (α → β)) (x : Form ν ε α) (fs : List (String × ν)) :
    (g <*> x).ofMembers fs = (do let h ← g.ofMembers fs; let a ← x.ofMembers fs; pure (h a)) := rfl

@[simp] theorem required_checks [FaultLike ε] (name : String) (d : ν → Except ε α) :
    (required name d).checks = [(name, checkOf d)] := rfl

@[simp] theorem withDefault_checks (name : String) (d : ν → Except ε α) (dflt : α) :
    (withDefault name d dflt).checks = [(name, checkOf d)] := rfl

@[simp] theorem optional_checks (name : String) (d : Decoder α) :
    (optional name d).checks = [(name, checkOf (option d))] := rfl

/-- An object is read by checking its members, then reading the fields from them. -/
theorem decode_obj (s : Form Json Fault α) (name : String) (fs : Json.Fields) :
    s.decode name (.obj fs) =
      match firstFault s.checks fs with
      | some e => .error e
      | none => s.ofMembers fs := rfl

/-- A member passes the check of a decoder that reads it. -/
theorem checkOf_eq_none {d : ν → Except ε α} {j : ν} {a : α} (h : d j = .ok a) :
    checkOf d j = none := by
  simp [checkOf, h]

/-- An object passes the checks when each of its members passes every check of its name. -/
theorem firstFault_eq_none {checks : List (String × (ν → Option ε))} {fs : List (String × ν)}
    (h : ∀ k v c, (k, v) ∈ fs → (k, c) ∈ checks → c v = none) : firstFault checks fs = none := by
  unfold firstFault
  refine List.findSome?_eq_none_iff.2 fun kv hkv => ?_
  obtain ⟨k, v⟩ := kv
  cases hf : checks.find? (·.1 == k) with
  | none => simp [hf]
  | some kc =>
    obtain ⟨k', c⟩ := kc
    obtain rfl : k' = k := by simpa using List.find?_some hf
    simpa [hf] using h _ _ _ hkv (List.mem_of_find?_eq_some hf)

/-- A lookup by name finds the first member of that name. -/
theorem lookup_eq_get? (k : String) (fs : Json.Fields) : lookup k fs = Json.Fields.get? k fs := by
  induction fs with
  | nil => rfl
  | cons m fs ih =>
    obtain ⟨k', v⟩ := m
    rw [Json.Fields.get?_cons, ← ih]
    by_cases h : k = k'
    · subst h
      simp [lookup]
    · simp [lookup, h, Ne.symm h]

/-- A lookup by name in a written object finds the member written last under that name. -/
theorem lookup_ofList (k : String) (kvs : List (String × Json)) :
    lookup k (Json.Fields.ofList kvs) = kvs.reverse.lookup k := by
  rw [lookup_eq_get?, Json.Fields.get?_ofList]

variable {name : String} {fs : List (String × ν)} {j : ν}

theorem withDefault_ofMembers {d : ν → Except ε α} {dflt : α} (h : lookup name fs = some j) :
    (withDefault name d dflt).ofMembers fs = d j := by
  simp [withDefault, h]

theorem withDefault_ofMembers_missing {d : ν → Except ε α} {dflt : α} (h : lookup name fs = none) :
    (withDefault name d dflt).ofMembers fs = .ok dflt := by
  simp [withDefault, h]

variable [FaultLike ε]

theorem orNone_ofMembers {d : ν → Except ε (Option α)} (h : lookup name fs = some j) :
    (orNone name d).ofMembers fs = d j := by
  simp [orNone, h]

theorem required_ofMembers {d : ν → Except ε α} (h : lookup name fs = some j) :
    (required name d).ofMembers fs = d j := by
  simp [required, h]

theorem required_ofMembers_missing {d : ν → Except ε α} (h : lookup name fs = none) :
    (required name d).ofMembers fs = .error (FaultLike.ofFault (.missingField name)) := by
  simp [required, h]

/-- A record whose object is written from `kvs` is read from its members, once each of them passes
the check of its name. -/
theorem decode_mkObj (s : Shape α) (name : String) {kvs : List (String × Json)}
    (h : ∀ k v c, (k, v) ∈ kvs → (k, c) ∈ s.checks → c v = none) :
    s.decode name (Json.mkObj kvs) = s.ofMembers (Json.Fields.ofList kvs) := by
  rw [Json.mkObj, decode_obj,
    firstFault_eq_none fun k v c hkv hc => h k v c (Json.Fields.mem_ofList hkv) hc]

end Decode.Form

open Decode.Form

@[simp] theorem Decode.string_str (s : String) : Decode.string (.str s) = .ok s := rfl

@[simp] theorem Decode.object_obj (fs : Json.Fields) : Decode.object (.obj fs) = .ok fs := rfl

/-- A number below `2^64` reads back as an unsigned 64-bit integer. -/
theorem Decode.u64_ofNat {n : Nat} (h : n < 2 ^ 64) : Decode.u64 (Json.ofNat n) = .ok n :=
  if_pos h

/-- An op reads back from its letter. -/
theorem ChangeOp.decode_letter (op : ChangeOp) : ChangeOp.decode (.str op.letter) = .ok op := by
  cases op <;> rfl

/-! ## Entities -/

namespace Entity

variable (i : String) (ls : Labels) (ps : Json.Fields) (s e : String)

/-- Each member of a relation's object passes the check of its name. -/
theorem relation_checks :
    ∀ k v c, (k, v) ∈ [("id", Json.str i), ("labels", ls.toJson), ("properties", .obj ps),
      ("startId", .str s), ("endId", .str e)] → (k, c) ∈ relationShape.checks → c v = none := by
  intro k v c hkv hc
  simp only [relationShape, seq_checks, map_checks, required_checks, withDefault_checks,
    List.cons_append, List.nil_append, List.mem_cons, Prod.mk.injEq, List.not_mem_nil,
    or_false] at hc
  rcases hc with ⟨rfl, rfl⟩ | ⟨rfl, rfl⟩ | ⟨rfl, rfl⟩ | ⟨rfl, rfl⟩ | ⟨rfl, rfl⟩ <;>
    simp at hkv <;> subst hkv
  · exact checkOf_eq_none rfl
  · exact checkOf_eq_none (Labels.decode_toJson ls)
  · exact checkOf_eq_none rfl
  · exact checkOf_eq_none rfl
  · exact checkOf_eq_none rfl

/-- Each member of a node's object passes the check of its name, as a relation's and as a
node's: its members are a relation's, and a node's checks are among a relation's. -/
theorem node_checks {shape : Decode.Shape Entity}
    (hshape : ∀ k c, (k, c) ∈ shape.checks → (k, c) ∈ relationShape.checks) :
    ∀ k v c, (k, v) ∈ [("id", Json.str i), ("labels", ls.toJson), ("properties", .obj ps)] →
      (k, c) ∈ shape.checks → c v = none :=
  fun k v c hkv hc => relation_checks i ls ps "" "" k v c
    (by simp only [List.mem_cons, List.not_mem_nil, or_false] at hkv ⊢; tauto) (hshape k c hc)

/-- A relation reads back from its object as a relation. -/
theorem relationShape_decode_relation :
    relationShape.decode "struct variant EntityState::Relation" (relation i ls ps s e).toJson =
      .ok (relation i ls ps s e) := by
  rw [toJson, decode_mkObj _ _ (relation_checks i ls ps s e)]
  generalize hfs : Json.Fields.ofList _ = fs
  have hid : lookup "id" fs = some (.str i) := by rw [← hfs, lookup_ofList]; rfl
  have hls : lookup "labels" fs = some ls.toJson := by rw [← hfs, lookup_ofList]; rfl
  have hps : lookup "properties" fs = some (.obj ps) := by rw [← hfs, lookup_ofList]; rfl
  have hs : lookup "startId" fs = some (.str s) := by rw [← hfs, lookup_ofList]; rfl
  have he : lookup "endId" fs = some (.str e) := by rw [← hfs, lookup_ofList]; rfl
  simp only [relationShape, map_ofMembers, seq_ofMembers, required_ofMembers hid,
    withDefault_ofMembers hls, withDefault_ofMembers hps, required_ofMembers hs,
    required_ofMembers he, Decode.string_str, Decode.object_obj, Labels.decode_toJson]
  rfl

/-- A node's object lacks a relation's ends, so it is not read as a relation. -/
theorem relationShape_decode_node :
    ∃ f, relationShape.decode "struct variant EntityState::Relation" (node i ls ps).toJson = .error f := by
  rw [toJson, decode_mkObj _ _ (node_checks i ls ps fun _ _ h => h)]
  generalize hfs : Json.Fields.ofList _ = fs
  have hid : lookup "id" fs = some (.str i) := by rw [← hfs, lookup_ofList]; rfl
  have hls : lookup "labels" fs = some ls.toJson := by rw [← hfs, lookup_ofList]; rfl
  have hps : lookup "properties" fs = some (.obj ps) := by rw [← hfs, lookup_ofList]; rfl
  have hs : lookup "startId" fs = none := by rw [← hfs, lookup_ofList]; rfl
  simp only [relationShape, map_ofMembers, seq_ofMembers, required_ofMembers hid,
    withDefault_ofMembers hls, withDefault_ofMembers hps, required_ofMembers_missing hs,
    Decode.string_str, Decode.object_obj, Labels.decode_toJson]
  exact ⟨_, rfl⟩

/-- A node reads back from its object as a node. -/
theorem nodeShape_decode_node :
    nodeShape.decode "struct variant EntityState::Node" (node i ls ps).toJson = .ok (node i ls ps) := by
  rw [toJson, decode_mkObj _ _ (node_checks i ls ps fun k c h => by
    simp only [nodeShape, relationShape, seq_checks, map_checks, List.mem_append] at h ⊢
    tauto)]
  generalize hfs : Json.Fields.ofList _ = fs
  have hid : lookup "id" fs = some (.str i) := by rw [← hfs, lookup_ofList]; rfl
  have hls : lookup "labels" fs = some ls.toJson := by rw [← hfs, lookup_ofList]; rfl
  have hps : lookup "properties" fs = some (.obj ps) := by rw [← hfs, lookup_ofList]; rfl
  simp only [nodeShape, map_ofMembers, seq_ofMembers, required_ofMembers hid,
    withDefault_ofMembers hls, withDefault_ofMembers hps, Decode.string_str, Decode.object_obj,
    Labels.decode_toJson]
  rfl

/-- An entity reads back from its object as itself: a relation as a relation (its `startId` and
`endId` are there) and a node as a node (the relation's fields are missing). -/
theorem decode_toJson : ∀ e : Entity, Entity.decode e.toJson = .ok e
  | .relation i ls ps s e => by
    rw [Entity.decode, relationShape_decode_relation]
  | .node i ls ps => by
    obtain ⟨f, hf⟩ := relationShape_decode_node i ls ps
    rw [Entity.decode, hf, nodeShape_decode_node]

end Entity

/-! ## Provenances, notifications and subscriptions -/

namespace Provenance

variable (db partition table : String) (ts : Nat)

/-- Each member of a provenance's object passes the check of its name, when its time fits in 64
bits. -/
theorem members_checks (cursor : Option String) (h : ts < 2 ^ 64) :
    ∀ k v c, (k, v) ∈ [("db", Json.str db), ("partition", .str partition), ("table", .str table),
      ("ts_ms", Json.ofNat ts)] ++ (cursor.map fun c => ("cursor", Json.str c)).toList →
      (k, c) ∈ shape.checks → c v = none := by
  intro k v c hkv hc
  simp only [shape, seq_checks, map_checks, required_checks, withDefault_checks,
    List.cons_append, List.nil_append, List.mem_cons, Prod.mk.injEq, List.not_mem_nil,
    or_false] at hc
  rcases hc with ⟨rfl, rfl⟩ | ⟨rfl, rfl⟩ | ⟨rfl, rfl⟩ | ⟨rfl, rfl⟩ | ⟨rfl, rfl⟩ <;>
    simp at hkv
  · subst hkv
    exact checkOf_eq_none rfl
  · subst hkv
    exact checkOf_eq_none rfl
  · obtain ⟨c', -, rfl⟩ := hkv
    exact checkOf_eq_none rfl
  · subst hkv
    exact checkOf_eq_none rfl
  · subst hkv
    exact checkOf_eq_none (Decode.u64_ofNat h)

/-- A provenance reads back from its object as itself when its time fits in 64 bits; an absent
cursor is left out of the object and read back as absent. -/
theorem decode_toJson (p : Provenance) (h : p.tsMs < 2 ^ 64) :
    shape.decode "struct SourceInfo" p.toJson = .ok p := by
  obtain ⟨db, partition, cursor, table, ts⟩ := p
  rw [toJson, decode_mkObj _ _ (members_checks db partition table ts cursor h)]
  have hts := Decode.u64_ofNat h
  cases cursor with
  | none =>
    generalize hfs : Json.Fields.ofList _ = fs
    have hdb : lookup "db" fs = some (.str db) := by rw [← hfs, lookup_ofList]; rfl
    have hp : lookup "partition" fs = some (.str partition) := by rw [← hfs, lookup_ofList]; rfl
    have hc : lookup "cursor" fs = none := by rw [← hfs, lookup_ofList]; rfl
    have ht : lookup "table" fs = some (.str table) := by rw [← hfs, lookup_ofList]; rfl
    have hts' : lookup "ts_ms" fs = some (Json.ofNat ts) := by rw [← hfs, lookup_ofList]; rfl
    simp only [shape, map_ofMembers, seq_ofMembers, required_ofMembers hdb, required_ofMembers hp,
      withDefault_ofMembers_missing hc, required_ofMembers ht, required_ofMembers hts',
      Decode.string_str, hts]
    rfl
  | some c =>
    generalize hfs : Json.Fields.ofList _ = fs
    have hdb : lookup "db" fs = some (.str db) := by rw [← hfs, lookup_ofList]; rfl
    have hp : lookup "partition" fs = some (.str partition) := by rw [← hfs, lookup_ofList]; rfl
    have hc : lookup "cursor" fs = some (.str c) := by rw [← hfs, lookup_ofList]; rfl
    have ht : lookup "table" fs = some (.str table) := by rw [← hfs, lookup_ofList]; rfl
    have hts' : lookup "ts_ms" fs = some (Json.ofNat ts) := by rw [← hfs, lookup_ofList]; rfl
    simp only [shape, map_ofMembers, seq_ofMembers, required_ofMembers hdb, required_ofMembers hp,
      withDefault_ofMembers hc, required_ofMembers ht, required_ofMembers hts',
      Decode.string_str, hts]
    rfl

end Provenance

/-- An optional entity reads back from its value (`null` when absent) as itself. -/
theorem Notification.option_entityJson (b : Option Entity) :
    Decode.option Entity.decode (Notification.entityJson b) = .ok b := by
  cases b with
  | none => rfl
  | some e =>
    have hobj : ∃ fs, e.toJson = .obj fs := by cases e <;> exact ⟨_, rfl⟩
    obtain ⟨fs, hfs⟩ := hobj
    simp only [Notification.entityJson, Decode.option, hfs]
    rw [← hfs, Entity.decode_toJson]
    rfl

/-- The numbers of a notification fit the unsigned 64-bit fields that carry them on the wire. -/
def Notification.FitsWire (n : Notification) : Prop :=
  n.tsMs < 2 ^ 64 ∧ n.sequence < 2 ^ 64 ∧ n.source.tsMs < 2 ^ 64

namespace Notification

/-- Each member of a notification's object passes the check of its name, when its numbers fit the
wire. -/
theorem members_checks (n : Notification) (h : n.FitsWire) :
    ∀ k v c, (k, v) ∈ [("op", Json.str n.op.letter), ("ts_ms", Json.ofNat n.tsMs),
      ("sequence", Json.ofNat n.sequence), ("source", n.source.toJson),
      ("before", entityJson n.before), ("after", entityJson n.after)] →
      (k, c) ∈ shape.checks → c v = none := by
  obtain ⟨hts, hseq, hsrc⟩ := h
  intro k v c hkv hc
  simp only [shape, seq_checks, map_checks, required_checks, optional_checks,
    List.cons_append, List.nil_append, List.mem_cons, Prod.mk.injEq, List.not_mem_nil,
    or_false] at hc
  rcases hc with ⟨rfl, rfl⟩ | ⟨rfl, rfl⟩ | ⟨rfl, rfl⟩ | ⟨rfl, rfl⟩ | ⟨rfl, rfl⟩ | ⟨rfl, rfl⟩ <;>
    simp at hkv <;> subst hkv
  · exact checkOf_eq_none (ChangeOp.decode_letter n.op)
  · exact checkOf_eq_none (Decode.u64_ofNat hts)
  · exact checkOf_eq_none (Decode.u64_ofNat hseq)
  · exact checkOf_eq_none (Provenance.decode_toJson n.source hsrc)
  · exact checkOf_eq_none (option_entityJson n.before)
  · exact checkOf_eq_none (option_entityJson n.after)

/-- A notification whose numbers fit the wire reads back from its object as itself. -/
theorem decode_toJson (n : Notification) (h : n.FitsWire) : decode n.toJson = .ok n := by
  rw [decode, toJson, decode_mkObj _ _ (members_checks n h)]
  obtain ⟨hts, hseq, hsrc⟩ := h
  generalize hfs : Json.Fields.ofList _ = fs
  have hop : lookup "op" fs = some (.str n.op.letter) := by rw [← hfs, lookup_ofList]; rfl
  have ht : lookup "ts_ms" fs = some (Json.ofNat n.tsMs) := by rw [← hfs, lookup_ofList]; rfl
  have hs : lookup "sequence" fs = some (Json.ofNat n.sequence) := by
    rw [← hfs, lookup_ofList]; rfl
  have hsrc' : lookup "source" fs = some n.source.toJson := by rw [← hfs, lookup_ofList]; rfl
  have hb : lookup "before" fs = some (entityJson n.before) := by rw [← hfs, lookup_ofList]; rfl
  have ha : lookup "after" fs = some (entityJson n.after) := by rw [← hfs, lookup_ofList]; rfl
  simp only [shape, Decode.Form.optional, map_ofMembers, seq_ofMembers, required_ofMembers hop,
    required_ofMembers ht, required_ofMembers hs, required_ofMembers hsrc', orNone_ofMembers hb,
    orNone_ofMembers ha, ChangeOp.decode_letter, Decode.u64_ofNat hts, Decode.u64_ofNat hseq,
    Provenance.decode_toJson n.source hsrc, option_entityJson]
  rfl

/-- A notification whose source has no cursor is written without one. -/
theorem toJson_source_cursor (n : Notification) (hc : n.source.cursor = none) :
    (n.toJson.field? "source").bind (·.field? "cursor") = none := by
  have hsrc : n.toJson.field? "source" = some n.source.toJson := by
    rw [toJson, Json.mkObj, Json.field?, Json.Fields.get?_ofList]
    rfl
  rw [hsrc, Option.bind_some, Provenance.toJson, hc, Json.mkObj, Json.field?, Json.Fields.get?_ofList]
  rfl

end Notification

/-- Each member of a subscription's object passes the check of its name. -/
theorem Subscription.members_checks (sub : Subscription) :
    ∀ k v c, (k, v) ∈ [("queryId", Json.str sub.queryId), ("queryNodeId", .str sub.queryNodeId),
      ("nodeLabels", sub.nodeLabels.toJson), ("relLabels", sub.relLabels.toJson)] →
      (k, c) ∈ Subscription.shape.checks → c v = none := by
  intro k v c hkv hc
  simp only [Subscription.shape, seq_checks, map_checks, required_checks, withDefault_checks,
    List.cons_append, List.nil_append, List.mem_cons, Prod.mk.injEq, List.not_mem_nil,
    or_false] at hc
  rcases hc with ⟨rfl, rfl⟩ | ⟨rfl, rfl⟩ | ⟨rfl, rfl⟩ | ⟨rfl, rfl⟩ <;> simp at hkv <;> subst hkv
  · exact checkOf_eq_none rfl
  · exact checkOf_eq_none rfl
  · exact checkOf_eq_none (Labels.decode_toJson _)
  · exact checkOf_eq_none (Labels.decode_toJson _)

/-- A subscription reads back from its object as itself. -/
theorem Subscription.decode_toJson (sub : Subscription) :
    Subscription.decode sub.toJson = .ok sub := by
  rw [Subscription.decode, Subscription.toJson, decode_mkObj _ _ sub.members_checks]
  generalize hfs : Json.Fields.ofList _ = fs
  have hq : lookup "queryId" fs = some (.str sub.queryId) := by rw [← hfs, lookup_ofList]; rfl
  have hqn : lookup "queryNodeId" fs = some (.str sub.queryNodeId) := by
    rw [← hfs, lookup_ofList]; rfl
  have hnl : lookup "nodeLabels" fs = some sub.nodeLabels.toJson := by
    rw [← hfs, lookup_ofList]; rfl
  have hrl : lookup "relLabels" fs = some sub.relLabels.toJson := by
    rw [← hfs, lookup_ofList]; rfl
  simp only [Subscription.shape, map_ofMembers, seq_ofMembers, required_ofMembers hq,
    required_ofMembers hqn, withDefault_ofMembers hnl, withDefault_ofMembers hrl,
    Decode.string_str, Labels.decode_toJson]
  rfl

/-- What the relay writes, it reads back unchanged: a notification of any op, with or without
entities before and after and with or without a cursor, as long as its numbers fit the 64-bit
fields of the wire; an entity, so that a relation never comes back as a node nor a node as a
relation, and labels come back as the same set; and a subscription. A notification without a
cursor is written without one. -/
theorem wire_round_trip :
    (∀ n : Notification, n.FitsWire → Notification.decode n.toJson = .ok n) ∧
    (∀ n : Notification, n.source.cursor = none →
      (n.toJson.field? "source").bind (·.field? "cursor") = none) ∧
    (∀ e : Entity, Entity.decode e.toJson = .ok e) ∧
    (∀ s : Subscription, Subscription.decode s.toJson = .ok s) := by
  exact ⟨Notification.decode_toJson, Notification.toJson_source_cursor, Entity.decode_toJson,
    Subscription.decode_toJson⟩

/-- An insert of a row, stamped with sequence number 1, reads back as itself. -/
theorem wire_round_trip_insert :
    Notification.FitsWire ⟨.insert, 1000, 1, ⟨"src", "p0", some "T1", "node", 1000⟩, none,
      some (.node "1" (Labels.ofList ["orders"]) [("id", .str "1")])⟩ ∧
    Notification.decode (Notification.toJson ⟨.insert, 1000, 1,
      ⟨"src", "p0", some "T1", "node", 1000⟩, none,
      some (.node "1" (Labels.ofList ["orders"]) [("id", .str "1")])⟩) =
      .ok ⟨.insert, 1000, 1, ⟨"src", "p0", some "T1", "node", 1000⟩, none,
        some (.node "1" (Labels.ofList ["orders"]) [("id", .str "1")])⟩ :=
  have h : Notification.FitsWire ⟨.insert, 1000, 1, ⟨"src", "p0", some "T1", "node", 1000⟩, none,
      some (.node "1" (Labels.ofList ["orders"]) [("id", .str "1")])⟩ :=
    ⟨by decide, by decide, by decide⟩
  ⟨h, wire_round_trip.1 _ h⟩

end ChangeRelay
