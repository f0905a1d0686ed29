import ChangeRelay.Graph.Bootstrap

/-!
# Shared labels

A query wants an entity when the entity carries one of the query's labels of its kind
(`Subscription.wants`). `Entity.hasAnyLabel` decides this by walking the smaller of the two label
sets and looking each of its labels up in the other. A walk over either set finds a label of the
other exactly when the two share one (`Labels.intersects_iff`), so the choice of walk never
changes the answer, and the test holds exactly of the entities that share a label with the wanted
set (`Entity.hasAnyLabel_iff_common`). The bootstrap filter therefore keeps exactly the entities
that share a label with the query (`Subscription.wants_iff`).
-/

namespace ChangeRelay

namespace Labels

@[simp] theorem contains_iff (ls : Labels) (l : String) :
    ls.contains l = true ↔ l ∈ ls.toList := by
  simp [contains]

/-- A walk over `a` finds a label of `b` exactly when the two sets share one. -/
theorem intersects_iff (a b : Labels) :
    a.intersects b = true ↔ ∃ l, l ∈ a.toList ∧ l ∈ b.toList := by
  simp [intersects]

/-- Walking either set gives the same answer. -/
theorem intersects_comm (a b : Labels) : a.intersects b = b.intersects a := by
  apply Bool.eq_iff_iff.2
  rw [intersects_iff, intersects_iff]
  exact ⟨fun ⟨l, ha, hb⟩ => ⟨l, hb, ha⟩, fun ⟨l, hb, ha⟩ => ⟨l, ha, hb⟩⟩

end Labels

namespace Entity

/-- The label test answers as the walk over the entity's own labels, whichever set it walks. -/
theorem hasAnyLabel_eq_intersects (e : Entity) (wanted : Labels) :
    e.hasAnyLabel wanted = e.labels.intersects wanted := by
  unfold hasAnyLabel
  split
  · rfl
  · exact Labels.intersects_comm wanted e.labels

/-- The label test of an entity, node or relation, agrees with the walk over either set, and it
holds exactly when the entity's labels and the wanted ones share a label. -/
theorem hasAnyLabel_iff_common (e : Entity) (wanted : Labels) :
    e.hasAnyLabel wanted = e.labels.intersects wanted ∧
    e.hasAnyLabel wanted = wanted.intersects e.labels ∧
    (e.hasAnyLabel wanted = true ↔ ∃ l, l ∈ e.labels.toList ∧ l ∈ wanted.toList) := by
  have h := hasAnyLabel_eq_intersects e wanted
  refine ⟨h, h.trans (Labels.intersects_comm _ _), ?_⟩
  rw [h]
  exact Labels.intersects_iff _ _

end Entity

/-- A query wants an entity exactly when the entity shares a label with the query's labels of its
kind: relation labels for a relation, node labels for a node. -/
theorem Subscription.wants_iff (s : Subscription) (e : Entity) :
    s.wants e = true ↔
      ∃ l, l ∈ e.labels.toList ∧
        l ∈ (if e.isRelation then s.relLabels else s.nodeLabels).toList := by
  rw [Subscription.wants, Entity.hasAnyLabel_eq_intersects, Labels.intersects_iff]

end ChangeRelay
