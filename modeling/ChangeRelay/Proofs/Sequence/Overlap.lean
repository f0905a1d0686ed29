import Mathlib.Logic.Relation
import ChangeRelay.Proofs.Sequence.Checkpoint

/-!
# Flushes that overlap

A flush of the sequence counter is three steps, with others' work between them: it reads the
counter, waits for the store to take its write, then raises the last checkpoint to the value it
wrote, the larger of the two winning (`Sequence.flush_eq_phases`). The supervisor never lets two
flushes overlap: its flush task flushes on each tick and once at shutdown, and the supervisor
flushes once more only after joining the task. Nothing in the generator itself keeps callers
from overlapping flushes, though.

`Flushes` is a generator over the store in memory with the flushes under way on it (`Flight`), in
the order they read the counter. Its steps (`Flushes.Step`) interleave calls of `next` with the
steps of the flushes, each flush completing without error. When the writes land in the order
their flushes read the counter, as they do whenever flushes do not overlap
(`Flushes.Step.inOrder_of_single`, `Flushes.flush_steps`), every step keeps `Flushes.Ordered`. So
once no flush is under way the store holds the last checkpoint, which is at least every value a
flush reported written, and a generator loaded from the store later hands out only values above
those (`Flushes.ordered_flushes_checkpoint`). A write that lands after a later one leaves the
store behind the last checkpoint (`Flushes.late_write_rolls_back`).
-/

namespace ChangeRelay

open Store

namespace Sequence

/-- What a flush reads: the counter, when the generator is loaded and the counter moved since the
last checkpoint; otherwise nothing, and the flush ends there. -/
def flushRead (g : Sequence) : Option Nat :=
  if !g.loaded || g.value == g.lastFlushed then none else some g.value

/-- What a flush does once its write of `v` has landed: the last checkpoint becomes the larger of
the two. -/
def flushRaise (g : Sequence) (v : Nat) : Sequence := { g with lastFlushed := max g.lastFlushed v }

@[simp] theorem flushRaise_value (g : Sequence) (v : Nat) : (g.flushRaise v).value = g.value := rfl

@[simp] theorem flushRaise_loaded (g : Sequence) (v : Nat) : (g.flushRaise v).loaded = g.loaded :=
  rfl

@[simp] theorem flushRaise_lastFlushed (g : Sequence) (v : Nat) :
    (g.flushRaise v).lastFlushed = max g.lastFlushed v := rfl

theorem flushRead_eq_some {g : Sequence} {v : Nat} :
    g.flushRead = some v ↔ g.loaded = true ∧ g.value ≠ g.lastFlushed ∧ v = g.value := by
  unfold flushRead
  by_cases hc : (!g.loaded || g.value == g.lastFlushed) = true
  · simp only [hc, if_true, reduceCtorEq, false_iff]
    cases hl : g.loaded <;> simp_all
  · rw [if_neg hc, Option.some.injEq]
    have hl : g.loaded = true := by cases hl : g.loaded <;> simp_all
    have hv : g.value ≠ g.lastFlushed := fun h => hc (by simp [h])
    exact ⟨fun h => ⟨hl, hv, h.symm⟩, fun h => h.2.2.symm⟩

/-- A flush is its three steps run one after another: the read, the write, and the raise. -/
theorem flush_eq_phases {σ : Type} [CursorStore σ] (g : Sequence) (store : σ) :
    g.flush store = match g.flushRead with
      | none => (store, .ok false, g)
      | some v =>
        match CursorStore.set store sequenceKey (toString v) with
        | (store, .ok ()) => (store, .ok true, g.flushRaise v)
        | (store, .error e) => (store, .error e, g) := by
  unfold flush flushRead
  by_cases hc : (!g.loaded || g.value == g.lastFlushed) = true
  · simp only [hc, if_true]
  · simp only [hc, Bool.false_eq_true, if_false]
    rfl

end Sequence

namespace Store.MemoryStore

/-- The write of the memory store, when it takes it. -/
theorem set_eq_ok {s s' : MemoryStore} {k t : String} (h : s.set k t = (s', .ok ())) :
    s' = { s with entries := s.entries.put k t } := by
  unfold MemoryStore.set at h
  split at h
  · cases h
  · exact (Prod.mk.inj h).1.symm

end Store.MemoryStore

/-- A flush under way, after it read the counter `v`: its write is still to land, or it has landed
and the last checkpoint is still to be raised. -/
inductive Flight where
  | writing (v : Nat)
  | landed (v : Nat)
  deriving DecidableEq, Repr

namespace Flight

/-- The counter the flush read. -/
def value : Flight → Nat
  | writing v | landed v => v

/-- Whether the flush's write has landed. -/
def isLanded : Flight → Bool
  | writing _ => false
  | landed _ => true

@[simp] theorem value_writing (v : Nat) : (writing v).value = v := rfl

@[simp] theorem value_landed (v : Nat) : (landed v).value = v := rfl

@[simp] theorem isLanded_writing (v : Nat) : (writing v).isLanded = false := rfl

@[simp] theorem isLanded_landed (v : Nat) : (landed v).isLanded = true := rfl

/-- `f` read the counter no later than `f'` did, and `f'` landed only after `f` had: the order of
the reads, kept by the writes. -/
def Before (f f' : Flight) : Prop := f.value ≤ f'.value ∧ (f'.isLanded = true → f.isLanded = true)

end Flight

/-- A generator over the store in memory, with the flushes under way on it in the order they read
the counter, and the values that the flushes which completed reported written. -/
structure Flushes where
  gen : Sequence
  store : MemoryStore
  flights : List Flight := []
  reported : List Nat := []

namespace Flushes

open Sequence (Holds Agrees Run Above)

/-- One step of a generator with flushes under way: a call of `next` that answers, a flush that
reads a counter that moved, the write of a flush under way landing, or a flush whose write landed
raising the last checkpoint and reporting its write. A flush that reads an unmoved counter ends at
once and changes nothing, and a flush whose write fails is left out: each flush here completes
without error. With `inOrder` the writes land in the order their flushes read the counter: every
flush that read before the one whose write lands has landed already. -/
inductive Step (inOrder : Bool) : Flushes → Flushes → Prop
  | next {x : Flushes} {n : Nat} {g : Sequence} (h : x.gen.next = some (.ok n, g)) :
      Step inOrder x { x with gen := g }
  | read {x : Flushes} {v : Nat} (h : x.gen.flushRead = some v) :
      Step inOrder x { x with flights := x.flights ++ [.writing v] }
  | write {x : Flushes} {pre post : List Flight} {v : Nat} {s : MemoryStore}
      (hx : x.flights = pre ++ .writing v :: post)
      (hs : x.store.set sequenceKey (toString v) = (s, .ok ()))
      (hord : inOrder = true → ∀ f ∈ pre, f.isLanded = true) :
      Step inOrder x { x with store := s, flights := pre ++ .landed v :: post }
  | raise {x : Flushes} {pre post : List Flight} {v : Nat}
      (hx : x.flights = pre ++ .landed v :: post) :
      Step inOrder x { x with gen := x.gen.flushRaise v, flights := pre ++ post,
                              reported := x.reported ++ [v] }

/-- Flushes that do not overlap land in read order: with at most one flush under way, the write
that lands is the only one. -/
theorem Step.inOrder_of_single {x y : Flushes} (h : Step false x y) (hx : x.flights.length ≤ 1) :
    Step true x y := by
  cases h with
  | next h => exact .next h
  | read h => exact .read h
  | @write pre post v s hf hs _ =>
    have hpre : pre = [] := by
      rw [hf, List.length_append, List.length_cons] at hx
      exact List.eq_nil_of_length_eq_zero (by omega)
    subst hpre
    exact .write hf hs fun _ f hf' => nomatch hf'
  | raise hf => exact .raise hf

/-- The invariant of a generator whose flushes land in read order, over a store that holds the
checkpoint `S`. The gate is open and the counter in range, at least the last checkpoint and every
value read. The flushes under way are in read order, the landed ones first, and a write still to
land carries at least the last checkpoint. The stored checkpoint is at least the last checkpoint
and every landed write, and is one of them. Every reported write is at most the last
checkpoint. -/
structure Ordered (x : Flushes) (S : Nat) : Prop where
  loaded : x.gen.loaded = true
  value_le : x.gen.value ≤ sequenceMax
  flushed_le : x.gen.lastFlushed ≤ x.gen.value
  read_le : ∀ f ∈ x.flights, f.value ≤ x.gen.value
  inOrder : x.flights.Pairwise Flight.Before
  pending_ge : ∀ f ∈ x.flights, f.isLanded = false → x.gen.lastFlushed ≤ f.value
  holds : Holds x.store S
  flushed_le_stored : x.gen.lastFlushed ≤ S
  landed_le_stored : ∀ f ∈ x.flights, f.isLanded = true → f.value ≤ S
  stored_eq : S = x.gen.lastFlushed ∨ ∃ f ∈ x.flights, f.isLanded = true ∧ f.value = S
  reported_le : ∀ v ∈ x.reported, v ≤ x.gen.lastFlushed

/-- A loaded generator that agrees with its store, with no flush under way, starts the
invariant. -/
theorem Ordered.start {g : Sequence} {s : MemoryStore} (hl : g.loaded = true) (ha : Agrees (g, s)) :
    Ordered { gen := g, store := s } g.lastFlushed where
  loaded := hl
  value_le := ha.value_le
  flushed_le := ha.flushed_le hl
  read_le _ hf := nomatch hf
  inOrder := .nil
  pending_ge _ hf := nomatch hf
  holds := ha.holds hl
  flushed_le_stored := Nat.le_refl _
  landed_le_stored _ hf := nomatch hf
  stored_eq := .inl rfl
  reported_le _ hv := nomatch hv

section Steps

variable {x : Flushes} {S : Nat}

/-- A call of `next` only raises the counter. -/
theorem Ordered.next {n : Nat} {g : Sequence} (hx : Ordered x S) (h : x.gen.next = some (.ok n, g)) :
    Ordered { x with gen := g } S := by
  obtain ⟨-, hv, -, rfl⟩ := Sequence.next_eq_ok h
  have hle : x.gen.value < sequenceMax := Nat.lt_of_le_of_ne hx.value_le hv
  exact { hx with
    value_le := hle
    flushed_le := Nat.le_succ_of_le hx.flushed_le
    read_le := fun f hf => Nat.le_succ_of_le (hx.read_le f hf) }

/-- A flush that reads the counter joins the flushes under way last: it read the largest value,
and its write is still to land. -/
theorem Ordered.read {v : Nat} (hx : Ordered x S) (h : x.gen.flushRead = some v) :
    Ordered { x with flights := x.flights ++ [.writing v] } S := by
  obtain ⟨-, -, rfl⟩ := Sequence.flushRead_eq_some.1 h
  refine { hx with
    read_le := ?_
    inOrder := ?_
    pending_ge := ?_
    landed_le_stored := ?_
    stored_eq := ?_ }
  · intro f hf
    rcases List.mem_append.1 hf with hf | hf
    · exact hx.read_le f hf
    · rw [List.mem_singleton.1 hf]
      exact Nat.le_refl _
  · refine List.pairwise_append.2 ⟨hx.inOrder, List.pairwise_singleton _ _, fun f hf f' hf' => ?_⟩
    rw [List.mem_singleton.1 hf']
    exact ⟨hx.read_le f hf, fun h => nomatch h⟩
  · intro f hf hw
    rcases List.mem_append.1 hf with hf | hf
    · exact hx.pending_ge f hf hw
    · rw [List.mem_singleton.1 hf]
      exact hx.flushed_le
  · intro f hf hl
    rcases List.mem_append.1 hf with hf | hf
    · exact hx.landed_le_stored f hf hl
    · rw [List.mem_singleton.1 hf] at hl
      cases hl
  · rcases hx.stored_eq with h | ⟨f, hf, hl, hs⟩
    · exact .inl h
    · exact .inr ⟨f, List.mem_append_left _ hf, hl, hs⟩

/-- The write of the flush that read first among those still writing lands: the store now holds
its value, which no landed write exceeds and no pending one undercuts. -/
theorem Ordered.write {pre post : List Flight} {v : Nat} {s : MemoryStore} (hx : Ordered x S)
    (hf : x.flights = pre ++ .writing v :: post)
    (hs : x.store.set sequenceKey (toString v) = (s, .ok ()))
    (hpre : ∀ f ∈ pre, f.isLanded = true) :
    Ordered { x with store := s, flights := pre ++ .landed v :: post } v := by
  obtain rfl := MemoryStore.set_eq_ok hs
  have hmem : Flight.writing v ∈ x.flights := by simp [hf]
  have hold : ∀ f, f ∈ pre ∨ f ∈ post → f ∈ x.flights := by
    rintro f (h | h) <;> simp [hf, h]
  have hv : v ≤ x.gen.value := hx.read_le _ hmem
  have ho : (pre ++ .writing v :: post).Pairwise Flight.Before := hf ▸ hx.inOrder
  obtain ⟨hpw, hrest, hcross⟩ := List.pairwise_append.1 ho
  obtain ⟨hafter, hpost⟩ := List.pairwise_cons.1 hrest
  have hwaiting : ∀ f ∈ post, f.isLanded = false := fun f h =>
    Bool.eq_false_iff.2 fun hl => nomatch (hafter f h).2 hl
  refine
    { loaded := hx.loaded
      value_le := hx.value_le
      flushed_le := hx.flushed_le
      read_le := ?_
      inOrder := ?_
      pending_ge := ?_
      holds := Sequence.holds_put x.store (Nat.le_trans hv hx.value_le)
      flushed_le_stored := hx.pending_ge _ hmem rfl
      landed_le_stored := ?_
      stored_eq := .inr ⟨.landed v, by simp, rfl, rfl⟩
      reported_le := hx.reported_le }
  · intro f hf'
    simp only [List.mem_append, List.mem_cons] at hf'
    rcases hf' with h | rfl | h
    · exact hx.read_le f (hold f (.inl h))
    · exact hv
    · exact hx.read_le f (hold f (.inr h))
  · refine List.pairwise_append.2 ⟨hpw, List.pairwise_cons.2
      ⟨fun f h => ⟨(hafter f h).1, fun _ => rfl⟩, hpost⟩, fun f h f' h' => ?_⟩
    rcases List.mem_cons.1 h' with rfl | h'
    · exact ⟨(hcross f h _ List.mem_cons_self).1, fun _ => hpre f h⟩
    · exact hcross f h f' (List.mem_cons_of_mem _ h')
  · intro f hf' hw
    simp only [List.mem_append, List.mem_cons] at hf'
    rcases hf' with h | rfl | h
    · rw [hpre f h] at hw
      cases hw
    · cases hw
    · exact hx.pending_ge f (hold f (.inr h)) hw
  · intro f hf' hl
    simp only [List.mem_append, List.mem_cons] at hf'
    rcases hf' with h | rfl | h
    · exact (hcross f h _ List.mem_cons_self).1
    · exact Nat.le_refl _
    · rw [hwaiting f h] at hl
      cases hl

/-- A flush whose write landed raises the last checkpoint to its value and reports it: the stored
checkpoint is at least that value, and every flush still writing read at least it. -/
theorem Ordered.raise {pre post : List Flight} {v : Nat} (hx : Ordered x S)
    (hf : x.flights = pre ++ .landed v :: post) :
    Ordered { x with gen := x.gen.flushRaise v, flights := pre ++ post,
                     reported := x.reported ++ [v] } S := by
  have hmem : Flight.landed v ∈ x.flights := by simp [hf]
  have hold : ∀ f ∈ pre ++ post, f ∈ x.flights := by
    intro f h
    rcases List.mem_append.1 h with h | h <;> simp [hf, h]
  have hv : v ≤ x.gen.value := hx.read_le _ hmem
  have hvS : v ≤ S := hx.landed_le_stored _ hmem rfl
  have ho : (pre ++ .landed v :: post).Pairwise Flight.Before := hf ▸ hx.inOrder
  obtain ⟨-, hrest, hcross⟩ := List.pairwise_append.1 ho
  have hafter := (List.pairwise_cons.1 hrest).1
  refine
    { loaded := hx.loaded
      value_le := hx.value_le
      flushed_le := Nat.max_le.2 ⟨hx.flushed_le, hv⟩
      read_le := fun f h => hx.read_le f (hold f h)
      inOrder := List.Pairwise.sublist
        ((List.Sublist.refl pre).append (List.sublist_cons_self _ _)) ho
      pending_ge := ?_
      holds := hx.holds
      flushed_le_stored := Nat.max_le.2 ⟨hx.flushed_le_stored, hvS⟩
      landed_le_stored := fun f h => hx.landed_le_stored f (hold f h)
      stored_eq := ?_
      reported_le := ?_ }
  · intro f h hw
    rcases List.mem_append.1 h with h | h
    · have hl := (hcross f h _ List.mem_cons_self).2 rfl
      rw [hw] at hl
      cases hl
    · exact Nat.max_le.2 ⟨hx.pending_ge f (hold f (List.mem_append_right _ h)) hw, (hafter f h).1⟩
  · rcases hx.stored_eq with h | ⟨f, hf', hl, hs⟩
    · left
      rw [h] at hvS ⊢
      exact (Nat.max_eq_left hvS).symm
    · rw [hf] at hf'
      simp only [List.mem_append, List.mem_cons] at hf'
      rcases hf' with h | rfl | h
      · exact .inr ⟨f, List.mem_append_left _ h, hl, hs⟩
      · left
        rw [Flight.value_landed] at hs
        subst hs
        exact (Nat.max_eq_right hx.flushed_le_stored).symm
      · exact .inr ⟨f, List.mem_append_right _ h, hl, hs⟩
  · intro w h
    rcases List.mem_append.1 h with h | h
    · exact Nat.le_trans (hx.reported_le w h) (Nat.le_max_left _ _)
    · rw [List.mem_singleton.1 h]
      exact Nat.le_max_right _ _

/-- Every step in which writes land in read order keeps the invariant, over the checkpoint the
store then holds. -/
theorem Ordered.step {y : Flushes} (hx : Ordered x S) (h : Step true x y) : ∃ S', Ordered y S' := by
  cases h with
  | next h => exact ⟨S, hx.next h⟩
  | read h => exact ⟨S, hx.read h⟩
  | write hf hs hord => exact ⟨_, hx.write hf hs (hord rfl)⟩
  | raise hf => exact ⟨S, hx.raise hf⟩

/-- So does every run of such steps. -/
theorem Ordered.run {y : Flushes} (hx : Ordered x S) (h : Relation.ReflTransGen (Step true) x y) :
    ∃ S', Ordered y S' := by
  induction h with
  | refl => exact ⟨S, hx⟩
  | tail _ hs ih =>
    obtain ⟨S', h'⟩ := ih
    exact h'.step hs

/-- With no flush under way the store holds the last checkpoint. -/
theorem Ordered.settled (hx : Ordered x S) (h : x.flights = []) : S = x.gen.lastFlushed := by
  rcases hx.stored_eq with h' | ⟨f, hf, -⟩
  · exact h'
  · rw [h] at hf
    cases hf

end Steps

/-- A flush run on its own, from the read to the raise, with no other flush under way, is three
steps in which the writes land in read order. -/
theorem flush_steps {x : Flushes} {s : MemoryStore} {g : Sequence} (hx : x.flights = [])
    (h : x.gen.flush x.store = (s, .ok true, g)) :
    Relation.ReflTransGen (Step true) x
      { x with gen := g, store := s, reported := x.reported ++ [x.gen.value] } := by
  rcases Sequence.flush_cases h with ⟨-, -, hr, -⟩ | ⟨-, -, -, -, e, he⟩ | ⟨hl, hv, rfl, -, rfl⟩
  · cases hr
  · cases he
  have hw : x.store.failWrites = false := by
    cases hw : x.store.failWrites
    · rfl
    · simp [Sequence.flush, hl, hv, MemoryStore.set, hw] at h
  have hread : x.gen.flushRead = some x.gen.value := Sequence.flushRead_eq_some.2 ⟨hl, hv, rfl⟩
  have hset : x.store.set sequenceKey (toString x.gen.value) =
      ({ x.store with entries := x.store.entries.put sequenceKey (toString x.gen.value) }, .ok ()) := by
    simp [MemoryStore.set, hw]
  obtain ⟨gen, store, flights, reported⟩ := x
  subst hx
  have hw₁ : [Flight.writing gen.value] = ([] : List Flight) ++ [Flight.writing gen.value] := rfl
  have hr₁ : [Flight.landed gen.value] = ([] : List Flight) ++ [Flight.landed gen.value] := rfl
  exact ((Relation.ReflTransGen.single (Step.read hread)).tail
    (Step.write hw₁ hset fun _ _ h => by cases h)).tail (@Step.raise true _ [] [] _ hr₁)

/-- Flushes whose writes land in the order they read the counter keep the checkpoint: over a
loaded generator that agrees with its store, once every flush under way has completed, the store
holds the last checkpoint, which is at least every value a flush reported written; so a generator
loaded later from the store hands out only values above those. -/
theorem ordered_flushes_checkpoint {g : Sequence} {s : MemoryStore} {y : Flushes}
    (hl : g.loaded = true) (ha : Agrees (g, s))
    (hrun : Relation.ReflTransGen (Step true) { gen := g, store := s } y) (hy : y.flights = []) :
    Holds y.store y.gen.lastFlushed ∧ (∀ v ∈ y.reported, v ≤ y.gen.lastFlushed) ∧
      ∀ (z : Sequence × MemoryStore) (ns : List Nat), Run ({}, y.store) (ns.map .ok) z →
        ∀ v ∈ y.reported, ∀ n ∈ ns, v < n := by
  obtain ⟨S, hS⟩ := (Ordered.start hl ha).run hrun
  have hholds : Holds y.store y.gen.lastFlushed := hS.settled hy ▸ hS.holds
  refine ⟨hholds, hS.reported_le, fun z ns hz v hv n hn => ?_⟩
  have habove : Above y.gen.lastFlushed (({} : Sequence), y.store) :=
    ⟨fun _ => hholds, fun h => nomatch h⟩
  exact Nat.lt_of_le_of_lt (hS.reported_le v hv) ((hz.above habove).2 n hn)

/-- Two flushes overlap on a generator loaded from an empty store: the first reads `1`, the second
`2`, the writes land in that order and the raises in the other; the store ends at the last
checkpoint `2`. -/
theorem overlapping_flushes_checkpointed :
    ∃ y, Relation.ReflTransGen (Step true) { gen := ⟨0, 0, true⟩, store := {} } y ∧
      y.flights = [] ∧ y.reported = [2, 1] ∧ y.gen.lastFlushed = 2 ∧
      Holds y.store y.gen.lastFlushed := by
  have ha : Agrees (⟨0, 0, true⟩, {}) := ⟨by decide, fun _ => rfl, fun _ => Nat.le_refl 0⟩
  have hrun : Relation.ReflTransGen (Step true) { gen := ⟨0, 0, true⟩, store := {} } _ :=
    (((((((Relation.ReflTransGen.single (Step.next rfl)).tail (Step.read rfl)).tail
      (Step.next rfl)).tail (Step.read rfl)).tail
      (@Step.write true _ [] [.writing 2] 1 _ rfl rfl fun _ _ h => nomatch h)).tail
      (@Step.write true _ [.landed 1] [] 2 _ rfl rfl fun _ => by decide)).tail
      (@Step.raise true _ [.landed 1] [] 2 rfl)).tail (@Step.raise true _ [] [] 1 rfl)
  exact ⟨_, hrun, rfl, rfl, rfl, (ordered_flushes_checkpoint rfl ha hrun rfl).1⟩

/-- Out of read order the checkpoint falls behind. On a generator loaded from an empty store, a
flush reads `1`, a second reads `2` and completes, and then the first one's write lands: every
flush has completed, the last checkpoint is `2` and `2` was reported written, yet the store holds
`1`, so a generator loaded from it hands out `2` again. -/
theorem late_write_rolls_back :
    ({} : Sequence).load ({} : MemoryStore) = .ok (0, ⟨0, 0, true⟩) ∧
      ∃ y, Relation.ReflTransGen (Step false) { gen := ⟨0, 0, true⟩, store := {} } y ∧
        y.flights = [] ∧ y.reported = [2, 1] ∧ y.gen.lastFlushed = 2 ∧ Holds y.store 1 ∧
        ({} : Sequence).load y.store = .ok (1, ⟨1, 1, true⟩) ∧
        (⟨1, 1, true⟩ : Sequence).next = some (.ok 2, ⟨2, 1, true⟩) := by
  have hrun : Relation.ReflTransGen (Step false) { gen := ⟨0, 0, true⟩, store := {} } _ :=
    (((((((Relation.ReflTransGen.single (Step.next rfl)).tail (Step.read rfl)).tail
      (Step.next rfl)).tail (Step.read rfl)).tail
      (@Step.write false _ [.writing 1] [] 2 _ rfl rfl fun h => nomatch h)).tail
      (@Step.raise false _ [.writing 1] [] 2 rfl)).tail
      (@Step.write false _ [] [] 1 _ rfl rfl fun h => nomatch h)).tail
      (@Step.raise false _ [] [] 1 rfl)
  exact ⟨rfl, _, hrun, rfl, rfl, rfl, rfl, rfl, rfl⟩

end Flushes

end ChangeRelay
