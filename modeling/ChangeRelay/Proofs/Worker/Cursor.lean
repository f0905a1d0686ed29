import ChangeRelay.Proofs.Worker.Execution
import ChangeRelay.Proofs.Worker.Stamp
import Mathlib.Order.Monotone.Basic

/-!
# Cursor safety

A worker writes the key of its partition and no other, and each write puts there the cursor the
worker holds right after it. The worker takes the cursor after a batch with events only once the
publisher took the whole list stamped from that batch, or at once when nothing in the batch maps
to a change. So the stored cursor never runs ahead of what the publisher took, and a worker that
starts again from it pulls again at most the batches whose publication or write did not finish.

* `Step.entries`: a step leaves the store's entries alone or writes the cursor it ends with.
* `HoldsStamped`: a list held for the publisher was stamped from a batch with events that moves
  the cursor; every worker reached from a new one satisfies it (`Reaches.holdsStamped`).
* `Adoption` lists the ways a move sets the cursor, and `Step.adoption` shows there is no other.
* `Execution.position`: along an execution whose other tasks leave the partition's key alone, the
  stored cursor sits in the chain of cursors the worker held, at a position that never goes back.
* `cursor_safety` puts these together over every execution of a new worker.
-/

namespace ChangeRelay

namespace Worker

variable {w₀ w w' : Worker} {world world' : World} {o : Option Wait}

/-! ## What a step writes -/

/-- A step keeps the worker's partition. -/
theorem Step.partition (h : Step w world w' world' o) : w'.partition = w.partition := by
  cases h <;> rfl

theorem Moves.partition (h : Moves w world w' world') : w'.partition = w.partition := by
  cases h with
  | step hs => exact (step_spec hs).partition
  | stop => rfl

/-- A step leaves the store's entries as they were, or puts under the worker's partition the
cursor the worker holds after the step. -/
theorem Step.entries (h : Step w world w' world' o) :
    world'.store.entries = world.store.entries ∨
      ∃ c, w'.cursor = some c ∧ world'.store.entries = world.store.entries.put w.partition c := by
  cases h with
  | loadFailed | loaded | stopped | stuck | ended => exact .inl rfl
  | rewrote _ _ _ hc hw ha =>
    rw [ha.store]
    rcases entries_of_persist hw with he | he
    · exact .inl he
    · exact .inr ⟨_, hc, he⟩
  | admitted _ _ _ ha => exact .inl (by rw [ha.store])
  | pullPanicked _ _ hr | pullFaulted _ _ hr | backedOff _ _ hr | backoffPanicked _ _ hr
  | idled _ _ hr | stalled _ _ hr | drawWaits _ _ hr => exact .inl (World.entries_of_pull hr)
  | bookmarked _ _ hr _ _ _ hw =>
    rcases entries_of_persist hw with he | he
    · exact .inl (he.trans (World.entries_of_pull hr))
    · exact .inr ⟨_, rfl, by rw [he, World.entries_of_pull hr]⟩
  | stampPanicked _ _ hr _ _ _ hst | held _ _ hr _ _ _ hst =>
    exact .inl (by rw [store_of_stamp hst, World.entries_of_pull hr])
  | unmapped _ _ hr _ _ _ hst hw =>
    have h₂ : _ = world.store.entries :=
      (congrArg Store.MemoryStore.entries (store_of_stamp hst)).trans (World.entries_of_pull hr)
    rcases entries_of_persist hw with he | he
    · exact .inl (he.trans h₂)
    · exact .inr ⟨_, rfl, by rw [he, h₂]⟩
  | acknowledged _ hd hw =>
    rcases entries_of_persist hw with he | he
    · exact .inl (by rw [he, World.store_of_publish hd])
    · exact .inr ⟨_, rfl, by rw [he, World.store_of_publish hd]⟩
  | acknowledgedAlone _ hd | hung _ hd | refused _ hd | refusalPanicked _ hd =>
    exact .inl (by rw [World.store_of_publish hd])

/-- A move writes no key but its partition's, and there it writes the cursor the worker holds
after the move. -/
theorem Moves.stored (h : Moves w world w' world') (k : String) :
    world'.store.entries.get? k = world.store.entries.get? k ∨
      k = w.partition ∧ world'.store.entries.get? k = w'.cursor := by
  cases h with
  | stop => exact .inl rfl
  | step hs =>
    rcases (step_spec hs).entries with he | ⟨c, hc, he⟩
    · exact .inl (by rw [he])
    · rw [he, hc]
      by_cases hk : k = w.partition
      · subst hk
        exact .inr ⟨rfl, Store.Entries.get?_put_self _ _ _⟩
      · exact .inl (Store.Entries.get?_put_of_ne _ _ hk)

/-! ## The list held for the publisher -/

/-- A worker that holds a list for the publisher stamped it from a batch with events whose next
cursor is the one the worker will take, a cursor other than the one it holds. -/
def HoldsStamped (w : Worker) : Prop :=
  ∀ ns next bo, w.phase = .publish ns next bo →
    next ≠ w.cursor ∧ ns ≠ [] ∧
      ∃ b world world', b.events ≠ [] ∧ b.nextCursor = next ∧ w.stamp world b = some (.ok ns, world')

/-- Only the pull that stamps a batch starts holding a list, and a refused publish holds the
same list again. -/
theorem Step.holdsStamped (h : Step w world w' world' o) (hh : w.HoldsStamped) :
    w'.HoldsStamped := by
  intro ns next bo hp
  cases h with
  | held _ _ _ he hc hne hst hns =>
    simp only [Phase.publish.injEq] at hp
    obtain ⟨rfl, rfl, -⟩ := hp
    exact ⟨Ne.symm hne, hns, _, _, _, he, hc, hst⟩
  | refused hp₀ =>
    simp only [Phase.publish.injEq] at hp
    obtain ⟨rfl, rfl, -⟩ := hp
    exact hh _ _ _ hp₀
  | stuck | ended => exact hh _ _ _ hp
  | loadFailed | stopped | pullFaulted | stalled => simp at hp
  | loaded | rewrote | admitted | pullPanicked | backedOff | backoffPanicked | bookmarked
  | idled | stampPanicked | drawWaits | unmapped | acknowledged | acknowledgedAlone | hung
  | refusalPanicked => cases hp

theorem Moves.holdsStamped (h : Moves w world w' world') (hh : w.HoldsStamped) :
    w'.HoldsStamped := by
  cases h with
  | step hs => exact (step_spec hs).holdsStamped hh
  | stop => intro _ _ _ hp; simp at hp

/-- Every worker reached from one that holds nothing satisfies `HoldsStamped`. -/
theorem Reaches.holdsStamped (h : Reaches w₀ w) (h₀ : w₀.HoldsStamped) : w.HoldsStamped := by
  induction h with
  | refl => exact h₀
  | tail _ hm ih => exact hm.holdsStamped ih

theorem Reaches.partition (h : Reaches w₀ w) : w.partition = w₀.partition := by
  induction h with
  | refl => rfl
  | tail _ hm ih => exact hm.partition.trans ih

theorem new_holdsStamped (sourceId partition : String) (poll : Duration) (retry : RetryPolicy) :
    (Worker.new sourceId partition poll retry).HoldsStamped := by
  intro _ _ _ hp
  cases hp

/-! ## How the cursor moves -/

/-- The ways a move of `w` in `world` sets the worker's cursor to `c`. -/
inductive Adoption (w : Worker) (world : World) : Option String → Prop
  /-- The cursor read when the worker starts: the stored one, or the source's initial one. -/
  | load {stored} : w.phase = .load → world.store.get w.partition = .ok stored →
      Adoption w world (stored.or ((world.source? w.partition).bind (·.initialCursor)))
  /-- The next cursor of a pulled batch without events. -/
  | bookmark {b world₁ c} : w.phase = .pull → world.pull w.partition w.cursor = (.batch b, world₁) →
      b.events = [] → b.nextCursor = some c → Adoption w world (some c)
  /-- The next cursor of a pulled batch with events of which none maps to a change. -/
  | unmapped {b world₁ c} : w.phase = .pull →
      world.pull w.partition w.cursor = (.batch b, world₁) → b.events ≠ [] →
      b.nextCursor = some c → b.changes world₁.wallMs = [] → Adoption w world (some c)
  /-- The next cursor of a batch with events, once the publisher took the whole list stamped
  from it. -/
  | acknowledged {ns c bo world₁ b stampedIn stampedOut} : w.phase = .publish ns (some c) bo →
      world.publish w.partition w.topic ns = (.ok, world₁) → b.events ≠ [] →
      b.nextCursor = some c → ns ≠ [] → w.stamp stampedIn b = some (.ok ns, stampedOut) →
      Adoption w world (some c)

/-- A step that changes the cursor does so in one of the ways of `Adoption`. -/
theorem Step.adoption (h : Step w world w' world' o) (hh : w.HoldsStamped)
    (hc : w'.cursor ≠ w.cursor) : Adoption w world w'.cursor := by
  cases h with
  | loaded hp hg => exact .load hp hg
  | bookmarked hp _ hr he hn => exact .bookmark hp hr he hn
  | unmapped hp _ hr he hn _ hst => exact .unmapped hp hr he hn (changes_eq_nil_of_stamp w _ hst)
  | acknowledged hp hd =>
    obtain ⟨-, hns, b, stampedIn, stampedOut, he, hn, hst⟩ := hh _ _ _ hp
    exact .acknowledged hp hd he hn hns hst
  | loadFailed | stopped | rewrote | admitted | pullPanicked | pullFaulted | backedOff
  | backoffPanicked | idled | stalled | stampPanicked | drawWaits | held | acknowledgedAlone | hung
  | refused
  | refusalPanicked | stuck | ended => exact absurd rfl hc

theorem Moves.adoption (h : Moves w world w' world') (hh : w.HoldsStamped)
    (hc : w'.cursor ≠ w.cursor) : Adoption w world w'.cursor := by
  cases h with
  | step hs => exact (step_spec hs).adoption hh hc
  | stop => exact absurd rfl hc

/-! ## Along an execution -/

/-- The rest of the process moved on without writing the key of partition `p`. -/
def KeepsKey (p : String) (world world' : World) : Prop :=
  world'.store.entries.get? p = world.store.entries.get? p

section
variable {Env : World → World → Prop}

/-- The cursor stored under the worker's partition at instant `t`. -/
def Execution.stored (e : Execution w₀ Env) (t : Nat) : Option String :=
  (e.world t).store.entries.get? w₀.partition

/-- The chain of cursors of an execution: the stored cursor it starts from, then the cursor the
worker holds at each instant. -/
def Execution.chain (e : Execution w₀ Env) : Nat → Option String
  | 0 => e.stored 0
  | t + 1 => (e.worker t).cursor

/-- The position in the chain of the cursor stored at instant `t`: a write moves it to the cursor
the worker holds right after it, and it stays otherwise. -/
def Execution.position (e : Execution w₀ Env) : Nat → Nat
  | 0 => 0
  | t + 1 => if e.stored (t + 1) = e.stored t then e.position t else t + 2

theorem Execution.position_le (e : Execution w₀ Env) (t : Nat) : e.position t ≤ t + 1 := by
  induction t with
  | zero => simp [position]
  | succ t ih => simp only [position]; split <;> omega

theorem Execution.position_monotone (e : Execution w₀ Env) : Monotone e.position := by
  refine monotone_nat_of_le_succ fun t => ?_
  have := e.position_le t
  simp only [position]
  split <;> omega

end

/-- At each instant the stored cursor stays, or becomes the cursor the worker now holds. -/
theorem Execution.stored_succ (e : Execution w₀ (KeepsKey w₀.partition)) (t : Nat) :
    e.stored (t + 1) = e.stored t ∨ e.stored (t + 1) = (e.worker (t + 1)).cursor := by
  rcases e.next t with hm | ⟨-, hk⟩
  · rcases hm.stored w₀.partition with h | ⟨-, h⟩
    · exact .inl h
    · exact .inr h
  · exact .inl hk

/-- The stored cursor is the one at its position in the chain. -/
theorem Execution.stored_eq_chain (e : Execution w₀ (KeepsKey w₀.partition)) (t : Nat) :
    e.stored t = e.chain (e.position t) := by
  induction t with
  | zero => rfl
  | succ t ih =>
    simp only [position]
    split
    · next h => rw [h, ih]
    · next h =>
      rcases e.stored_succ t with h' | h'
      · exact absurd h' h
      · exact h'

/-- Cursor safety, over every execution of a new worker among tasks that leave its partition's
key alone. A move of the worker writes no key but its partition's, and there only the cursor the
worker holds after the move; so the stored cursor sits in the chain of cursors the worker held,
at a position that never goes back. The worker's cursor changes only as `Adoption` allows: it
takes the cursor after a batch with events once the publisher took the whole list stamped from
that batch, or when nothing in the batch maps. -/
theorem cursor_safety {sourceId p : String} {poll : Duration} {retry : RetryPolicy}
    (e : Execution (Worker.new sourceId p poll retry) (KeepsKey p)) :
    (∀ t, Moves (e.worker t) (e.world t) (e.worker (t + 1)) (e.world (t + 1)) →
      (∀ k, k ≠ p → (e.world (t + 1)).store.entries.get? k = (e.world t).store.entries.get? k) ∧
      (e.stored (t + 1) = e.stored t ∨ e.stored (t + 1) = (e.worker (t + 1)).cursor)) ∧
    (Monotone e.position ∧ ∀ t, e.position t ≤ t + 1 ∧ e.stored t = e.chain (e.position t)) ∧
    (∀ t, (e.worker (t + 1)).cursor ≠ (e.worker t).cursor →
      Adoption (e.worker t) (e.world t) (e.worker (t + 1)).cursor) := by
  have hp : ∀ t, (e.worker t).partition = p := fun t => (e.reaches t).partition
  refine ⟨fun t hm => ⟨fun k hk => ?_, ?_⟩,
    ⟨e.position_monotone, fun t => ⟨e.position_le t, e.stored_eq_chain t⟩⟩, fun t hc => ?_⟩
  · rcases hm.stored k with h | ⟨hkp, -⟩
    · exact h
    · exact absurd (hkp.trans (hp t)) hk
  · rcases hm.stored p with h | ⟨-, h⟩
    · exact .inl h
    · exact .inr h
  · have hh := (e.reaches t).holdsStamped (new_holdsStamped sourceId p poll retry)
    rcases e.next t with hm | ⟨hw, -⟩
    · exact hm.adoption hh hc
    · exact absurd (by rw [hw]) hc

end Worker

end ChangeRelay
