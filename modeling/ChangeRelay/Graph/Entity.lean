import ChangeRelay.Json.Basic
import ChangeRelay.Decode.Basic

/-!
# Graph entities

An entity is a node or a relation of the property graph the relay feeds: an id, a set of labels
and a property object, and for a relation the ids of its start and end nodes. Labels are a set,
held in increasing order without repeats (`Labels.insert`), so two entities with the same labels
hold the same list.

On the wire an entity is an object. One with string `startId` and `endId` is a relation, any
other one with a string `id` a node (`Entity.decode`); labels default to none and properties to
the empty object, and other members are ignored.
-/

namespace ChangeRelay

/-- A set of labels in increasing order, without repeats. -/
structure Labels where
  toList : List String
  sorted : toList.Pairwise (· < ·)
  deriving Repr

namespace Labels

/-- No labels. -/
def empty : Labels := ⟨[], .nil⟩

instance : Inhabited Labels := ⟨empty⟩

/-- Adds a label where its order puts it, unless it is there already. -/
def insertInto (l : String) : List String → List String
  | [] => [l]
  | x :: xs => if l < x then l :: x :: xs else if l = x then x :: xs else x :: insertInto l xs

theorem mem_insertInto (l x : String) (xs : List String) :
    x ∈ insertInto l xs ↔ x = l ∨ x ∈ xs := by
  induction xs with
  | nil => simp [insertInto]
  | cons y ys ih =>
    simp only [insertInto]
    split
    · simp
    · split
      · subst_vars; simp
      · simp only [List.mem_cons, ih]; exact or_left_comm

/-- Adding a label to an increasing list keeps it increasing. -/
theorem pairwise_insertInto (l : String) :
    ∀ {xs : List String}, xs.Pairwise (· < ·) → (insertInto l xs).Pairwise (· < ·)
  | [], _ => List.pairwise_singleton _ _
  | x :: xs, h => by
    rw [List.pairwise_cons] at h
    simp only [insertInto]
    split
    · next hlx =>
      refine List.Pairwise.cons (fun y hy => ?_) (List.pairwise_cons.2 h)
      rcases List.mem_cons.1 hy with rfl | hy
      · exact hlx
      · exact String.lt_trans hlx (h.1 y hy)
    · split
      · exact List.pairwise_cons.2 h
      · next hlx hne =>
        have hxl : x < l := by
          refine Decidable.byContradiction fun hxl => hne ?_
          exact String.le_antisymm (String.not_lt.1 hxl) (String.not_lt.1 hlx)
        refine List.Pairwise.cons (fun y hy => ?_) (pairwise_insertInto l h.2)
        rcases (mem_insertInto l y xs).1 hy with rfl | hy
        · exact hxl
        · exact h.1 y hy

/-- Adds a label. -/
def insert (l : String) (ls : Labels) : Labels :=
  ⟨insertInto l ls.toList, pairwise_insertInto l ls.sorted⟩

/-- The set of the labels of a list. -/
def ofList (xs : List String) : Labels := xs.foldl (fun acc x => acc.insert x) empty

/-- Whether a label is in the set. -/
def contains (ls : Labels) (l : String) : Bool := ls.toList.contains l

/-- Whether two sets share a label, found by walking `a` and looking each label up in `b`. -/
def intersects (a b : Labels) : Bool := a.toList.any b.contains

/-- The labels as a JSON array. -/
def toJson (ls : Labels) : Json := .arr (ls.toList.map .str)

/-- Labels from an array of strings. -/
def decode : Decode.Decoder Labels := fun j => ofList <$> Decode.list Decode.string j

end Labels

/-- A node or a relation of the graph. -/
inductive Entity where
  | node (id : String) (labels : Labels) (properties : Json.Fields)
  | relation (id : String) (labels : Labels) (properties : Json.Fields) (startId endId : String)
  deriving Inhabited

namespace Entity

/-- The entity's id. -/
def id : Entity → String
  | .node i _ _ | .relation i _ _ _ _ => i

/-- The entity's labels. -/
def labels : Entity → Labels
  | .node _ ls _ | .relation _ ls _ _ _ => ls

/-- The entity's properties. -/
def properties : Entity → Json.Fields
  | .node _ _ ps | .relation _ _ ps _ _ => ps

/-- Whether the entity is a relation. -/
def isRelation : Entity → Bool
  | .node .. => false
  | .relation .. => true

/-- The table a change of the entity is filed under: `rel` or `node`. -/
def table (e : Entity) : String := if e.isRelation then "rel" else "node"

/-- Whether the entity carries one of `wanted`. The smaller of the two sets is walked, the
entity's own on a tie. -/
def hasAnyLabel (e : Entity) (wanted : Labels) : Bool :=
  if e.labels.toList.length ≤ wanted.toList.length then e.labels.intersects wanted
  else wanted.intersects e.labels

/-- The entity as a JSON object. -/
def toJson : Entity → Json
  | .node i ls ps => Json.mkObj [("id", .str i), ("labels", ls.toJson), ("properties", .obj ps)]
  | .relation i ls ps s e =>
    Json.mkObj [("id", .str i), ("labels", ls.toJson), ("properties", .obj ps),
      ("startId", .str s), ("endId", .str e)]

open Decode in
/-- The members of a relation. -/
def relationShape : Shape Entity :=
  (fun i ls ps s e => Entity.relation i ls ps s e) <$> Form.required "id" string
    <*> Form.withDefault "labels" Labels.decode Labels.empty
    <*> Form.withDefault "properties" object []
    <*> Form.required "startId" string
    <*> Form.required "endId" string

open Decode in
/-- The members of a node. -/
def nodeShape : Shape Entity :=
  (fun i ls ps => Entity.node i ls ps) <$> Form.required "id" string
    <*> Form.withDefault "labels" Labels.decode Labels.empty
    <*> Form.withDefault "properties" object []

/-- An entity: a relation if the value reads as one, else a node. -/
def decode : Decode.Decoder Entity := fun j =>
  match relationShape.decode "struct variant EntityState::Relation" j with
  | .ok e => .ok e
  | .error _ =>
    match nodeShape.decode "struct variant EntityState::Node" j with
    | .ok e => .ok e
    | .error _ => .error (.noVariantMatched "EntityState")

end Entity

end ChangeRelay
