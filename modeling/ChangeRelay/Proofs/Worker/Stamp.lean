import ChangeRelay.Proofs.Sequence.Issuance
import ChangeRelay.Proofs.Worker.Step

/-!
# Stamping a batch

`Worker.stamp` maps the events of a batch in order and stamps each change with the next value
of the sequence generator. Its result is said here without the fold: the changes of the batch
(`SourceBatch.changes`: an event that maps to nothing, or fails to map, is dropped), stamped with
consecutive sequence numbers from the generator's next value (`stampFrom`), with the worker's
source and partition and the batch's next cursor as provenance. When the counter would pass its
largest value the stamping fails instead, and nothing is published from the batch.

* `stamp_of_le`: with a loaded generator and room left in the counter, the stamped list and the
  generator after it.
* `stamp_eq_none_iff`: stamping waits exactly when the generator is not loaded and the batch has
  a change to stamp.
* `stamp_eq_ok`: a stamping that succeeded gave that list; `loaded_of_stamp`: one that gave a
  change drew from a loaded generator; `changes_eq_nil_of_stamp`: one that gave nothing found no
  change.
* `sequences_stampFrom`: the sequence numbers of a stamped list are consecutive.
-/

namespace ChangeRelay

/-- The change an event maps to at receive time `receivedMs`, if it maps to one. -/
def SourceEvent.changeAt (ev : SourceEvent) (receivedMs : Nat) : Option Change :=
  match ev.toChange receivedMs with
  | .ok (some c) => some c
  | _ => none

/-- The changes the events of a batch map to, in order. -/
def SourceBatch.changes (b : SourceBatch) (receivedMs : Nat) : List Change :=
  b.events.filterMap (·.changeAt receivedMs)

/-- Changes stamped in order with the sequence numbers from `first` on, each with the provenance
of one batch. -/
def stampFrom (sourceId partition : String) (next : Option String) :
    Nat → List Change → List Notification
  | _, [] => []
  | first, c :: cs => c.stamp first sourceId partition next :: stampFrom sourceId partition next (first + 1) cs

@[simp] theorem length_stampFrom (sourceId partition : String) (next : Option String)
    (first : Nat) (cs : List Change) :
    (stampFrom sourceId partition next first cs).length = cs.length := by
  induction cs generalizing first with
  | nil => rfl
  | cons c cs ih => simp [stampFrom, ih]

/-- The sequence numbers of a stamped list are consecutive from the first. -/
theorem sequences_stampFrom (sourceId partition : String) (next : Option String) (first : Nat)
    (cs : List Change) :
    (stampFrom sourceId partition next first cs).map (·.sequence) = List.range' first cs.length := by
  induction cs generalizing first with
  | nil => rfl
  | cons c cs ih =>
    simp only [stampFrom, List.map_cons, ih, List.length_cons, List.range'_succ]
    rfl

namespace Worker

variable (w : Worker) (b : SourceBatch)

theorem foldl_stampStep_error (m : String) (evs : List SourceEvent) (world : World) :
    evs.foldlM (w.stampStep b) (.error m, world) = some (.error m, world) := by
  induction evs with
  | nil => rfl
  | cons ev evs ih => exact ih

/-- An event that maps to no change is passed over. -/
theorem stampStep_of_changeAt_none {ev : SourceEvent} {ns : List Notification} {world : World}
    (hc : ev.changeAt world.wallMs = none) :
    w.stampStep b (.ok ns, world) ev = some (.ok ns, world) := by
  simp only [stampStep]
  unfold SourceEvent.changeAt at hc
  split at hc <;> simp_all

/-- An event that maps to a change takes the generator's next answer: it is stamped with the
value drawn, an error of the draw ends the stamping, and a draw that waits makes it wait. -/
theorem stampStep_of_changeAt_some {ev : SourceEvent} {c : Change} {ns : List Notification}
    {world : World} (hc : ev.changeAt world.wallMs = some c) :
    w.stampStep b (.ok ns, world) ev = world.sequence.next.map fun d =>
      (d.1.map fun n => ns ++ [c.stamp n w.sourceId w.partition b.nextCursor],
        { world with sequence := d.2 }) := by
  unfold SourceEvent.changeAt at hc
  split at hc
  · next c' hc' =>
    cases hc
    simp only [stampStep, hc']
    rcases world.sequence.next with _ | ⟨_ | _, g⟩ <;> rfl
  · cases hc

/-- Before the generator is loaded, stamping passes over the events that map to nothing and waits
at the first that maps to a change. -/
theorem foldl_stampStep_unloaded (evs : List SourceEvent) (ns : List Notification) (world : World)
    (hl : world.sequence.loaded = false) :
    evs.foldlM (w.stampStep b) (.ok ns, world) =
      if evs.filterMap (·.changeAt world.wallMs) = [] then some (.ok ns, world) else none := by
  have hnext : world.sequence.next = none := by simp [Sequence.next, hl]
  induction evs with
  | nil => rfl
  | cons ev evs ih =>
    rw [List.foldlM_cons]
    cases hc : ev.changeAt world.wallMs with
    | none =>
      rw [stampStep_of_changeAt_none w b hc, Option.bind_eq_bind, Option.bind_some, ih]
      simp [hc]
    | some c => simp [stampStep_of_changeAt_some w b hc, hnext, hc]

/-- With a loaded generator whose counter does not pass its largest value, stamping the events
`evs` onto the list `ns` adds their changes, stamped from the generator's next value. -/
theorem foldl_stampStep_of_le (evs : List SourceEvent) (ns : List Notification) (world : World)
    (hl : world.sequence.loaded = true)
    (hv : world.sequence.value ≤ sequenceMax →
      world.sequence.value + (evs.filterMap (·.changeAt world.wallMs)).length ≤ sequenceMax) :
    evs.foldlM (w.stampStep b) (.ok ns, world) =
      some (.ok (ns ++ stampFrom w.sourceId w.partition b.nextCursor (world.sequence.value + 1)
          (evs.filterMap (·.changeAt world.wallMs))),
        { world with sequence := { world.sequence with
            value := world.sequence.value + (evs.filterMap (·.changeAt world.wallMs)).length } }) := by
  induction evs generalizing ns world with
  | nil => simp [stampFrom]
  | cons ev evs ih =>
    rw [List.foldlM_cons]
    cases hc : ev.changeAt world.wallMs with
    | none =>
      simp only [List.filterMap_cons, hc] at hv ⊢
      rw [stampStep_of_changeAt_none w b hc, Option.bind_eq_bind, Option.bind_some, ih ns world hl hv]
    | some c =>
      simp only [List.filterMap_cons, hc, List.length_cons] at hv ⊢
      have hnext := Sequence.next_of_ne hl (show world.sequence.value ≠ sequenceMax by omega)
      rw [stampStep_of_changeAt_some w b hc, hnext, Option.map_some, Option.bind_eq_bind,
        Option.bind_some, Except.map, ih]
      · simp only [List.append_assoc, List.singleton_append, stampFrom]
        congr 4
        omega
      · exact hl
      · simp only
        omega

/-- With a loaded generator whose counter would pass its largest value, stamping fails. -/
theorem foldl_stampStep_of_lt (evs : List SourceEvent) (ns : List Notification) (world : World)
    (hl : world.sequence.loaded = true) (hle : world.sequence.value ≤ sequenceMax)
    (hv : sequenceMax < world.sequence.value + (evs.filterMap (·.changeAt world.wallMs)).length) :
    (evs.foldlM (w.stampStep b) (.ok ns, world)).map (·.1) = some (.error "attempt to add with overflow") := by
  induction evs generalizing ns world with
  | nil => simp at hv; omega
  | cons ev evs ih =>
    rw [List.foldlM_cons]
    cases hc : ev.changeAt world.wallMs with
    | none =>
      simp only [List.filterMap_cons, hc] at hv
      rw [stampStep_of_changeAt_none w b hc, Option.bind_eq_bind, Option.bind_some, ih ns world hl hle hv]
    | some c =>
      simp only [List.filterMap_cons, hc, List.length_cons] at hv
      rw [stampStep_of_changeAt_some w b hc]
      by_cases hmax : world.sequence.value = sequenceMax
      · rw [Sequence.next_of_eq hl hmax, Option.map_some, Option.bind_eq_bind, Option.bind_some,
          Except.map, foldl_stampStep_error]
        rfl
      · rw [Sequence.next_of_ne hl hmax, Option.map_some, Option.bind_eq_bind, Option.bind_some,
          Except.map, ih]
        · exact hl
        · simp only
          omega
        · simp only
          omega

/-- With a loaded generator whose counter does not pass its largest value, stamping a batch
gives its changes stamped from the generator's next value, and moves the counter past them. -/
theorem stamp_of_le (world : World) (hl : world.sequence.loaded = true)
    (hv : world.sequence.value ≤ sequenceMax →
      world.sequence.value + (b.changes world.wallMs).length ≤ sequenceMax) :
    w.stamp world b =
      some (.ok (stampFrom w.sourceId w.partition b.nextCursor (world.sequence.value + 1)
          (b.changes world.wallMs)),
        { world with sequence := { world.sequence with
            value := world.sequence.value + (b.changes world.wallMs).length } }) := by
  rw [stamp_eq, foldl_stampStep_of_le w b _ _ _ hl hv]
  rfl

/-- Stamping waits exactly when the generator is not loaded and the batch has a change. -/
theorem stamp_eq_none_iff (world : World) :
    w.stamp world b = none ↔ world.sequence.loaded = false ∧ b.changes world.wallMs ≠ [] := by
  cases hl : world.sequence.loaded with
  | false =>
    rw [stamp_eq, foldl_stampStep_unloaded w b _ _ _ hl]
    by_cases hc : b.changes world.wallMs = [] <;>
      simp_all [SourceBatch.changes]
  | true =>
    by_cases hv : world.sequence.value ≤ sequenceMax →
        world.sequence.value + (b.changes world.wallMs).length ≤ sequenceMax
    · simp [stamp_of_le w b world hl hv]
    · have hover := foldl_stampStep_of_lt w b b.events [] world hl (by omega) (by
        simp only [SourceBatch.changes] at hv
        omega)
      rw [← stamp_eq] at hover
      simp only [Bool.true_eq_false, false_and, iff_false]
      intro hnone
      rw [hnone] at hover
      cases hover

/-- A stamping that gave a list with a change in it drew from a loaded generator. -/
theorem loaded_of_stamp {world world' : World} {ns : List Notification}
    (h : w.stamp world b = some (.ok ns, world')) (hns : ns ≠ []) : world.sequence.loaded = true := by
  cases hl : world.sequence.loaded with
  | true => rfl
  | false =>
    rw [stamp_eq, foldl_stampStep_unloaded w b _ _ _ hl] at h
    split at h
    · simp only [Option.some.injEq, Prod.mk.injEq, Except.ok.injEq] at h
      exact absurd h.1.symm hns
    · cases h

/-- A stamping that succeeded with a loaded generator gave the batch's changes stamped from the
generator's next value, and the counter did not pass its largest value. -/
theorem stamp_eq_ok {world world' : World} {ns : List Notification}
    (hl : world.sequence.loaded = true) (h : w.stamp world b = some (.ok ns, world')) :
    ns = stampFrom w.sourceId w.partition b.nextCursor (world.sequence.value + 1)
        (b.changes world.wallMs) ∧
      (world.sequence.value ≤ sequenceMax →
        world.sequence.value + (b.changes world.wallMs).length ≤ sequenceMax) := by
  by_cases hv : world.sequence.value ≤ sequenceMax →
      world.sequence.value + (b.changes world.wallMs).length ≤ sequenceMax
  · rw [stamp_of_le w b world hl hv] at h
    simp only [Option.some.injEq, Prod.mk.injEq, Except.ok.injEq] at h
    exact ⟨h.1.symm, hv⟩
  · have hover := foldl_stampStep_of_lt w b b.events [] world hl (by omega) (by
      simp only [SourceBatch.changes] at hv
      omega)
    rw [← stamp_eq, h] at hover
    cases hover

/-- A stamping that gave no notification found no change in the batch. -/
theorem changes_eq_nil_of_stamp {world world' : World}
    (h : w.stamp world b = some (.ok [], world')) : b.changes world.wallMs = [] := by
  cases hl : world.sequence.loaded with
  | false =>
    rw [stamp_eq, foldl_stampStep_unloaded w b _ _ _ hl] at h
    split at h
    · assumption
    · cases h
  | true =>
    have hlen := congrArg List.length (stamp_eq_ok w b hl h).1
    simp only [List.length_nil, length_stampFrom] at hlen
    exact List.length_eq_zero_iff.1 hlen.symm

end Worker

end ChangeRelay
