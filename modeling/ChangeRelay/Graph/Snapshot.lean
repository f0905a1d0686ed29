import ChangeRelay.Graph.Entity

/-!
# Snapshots

A snapshot lists the entities of the graph at one time, nodes and relations apart, each in the
order they were added.
-/

namespace ChangeRelay

/-- Nodes and relations at one time. -/
structure Snapshot where
  nodes : List Entity
  rels : List Entity
  deriving Inhabited

namespace Snapshot

/-- No entities. -/
def empty : Snapshot := ⟨[], []⟩

/-- Adds an entity after the others of its kind. -/
def push (s : Snapshot) (e : Entity) : Snapshot :=
  if e.isRelation then { s with rels := s.rels ++ [e] } else { s with nodes := s.nodes ++ [e] }

/-- The snapshot of entities in order. -/
def ofList (es : List Entity) : Snapshot := es.foldl push empty

/-- The number of entities. -/
def size (s : Snapshot) : Nat := s.nodes.length + s.rels.length

/-- Whether there are no entities. -/
def isEmpty (s : Snapshot) : Bool := s.nodes.isEmpty && s.rels.isEmpty

/-- The snapshot as a JSON object. -/
def toJson (s : Snapshot) : Json :=
  Json.mkObj [("nodes", .arr (s.nodes.map Entity.toJson)), ("rels", .arr (s.rels.map Entity.toJson))]

theorem size_push (s : Snapshot) (e : Entity) : (s.push e).size = s.size + 1 := by
  unfold push size
  split <;> simp <;> omega

end Snapshot

end ChangeRelay
