import ChangeRelay.Store.Basic
import ChangeRelay.Text.Blank
import ChangeRelay.Text.Integer

/-!
# The sequence generator

One counter, shared by every worker of a process, stamps each outgoing change, so the changes of
one process are totally ordered. The counter is checkpointed in the cursor store under the key
`sequence`.

* `load` reads the checkpoint (a missing one is `0`; a stored text is trimmed and read as an
  unsigned 64-bit number, and the largest one is refused since no value could follow it), raises
  the counter to it and opens the gate.
* `next` hands out the counter plus one. Before `load` callers wait at the gate. At the largest
  value the counter wraps to `0` and the call fails on the overflow.
* `flush` writes the counter when the generator is loaded and the counter moved since the last
  checkpoint; after a write the last checkpoint becomes the larger of the two.
-/

namespace ChangeRelay

open Store

/-- The key of the checkpoint. -/
def sequenceKey : String := "sequence"

/-- The largest value of the counter. -/
def sequenceMax : Nat := Nat.pow 2 64 - 1

/-- The state of the sequence generator. -/
structure Sequence where
  value : Nat := 0
  /-- The value of the last checkpoint read or written. -/
  lastFlushed : Nat := 0
  loaded : Bool := false
  deriving Inhabited, DecidableEq, Repr

namespace Sequence

/-- The checkpoint a stored text holds. -/
def ofStored : Option String → Except RelayError Nat
  | none => .ok 0
  | some raw =>
    match Text.readUnsigned 64 (Text.trimBlank raw) with
    | .error f => .error (.config ("Stored sequence '" ++ raw ++ "' is not a u64: " ++ f.message))
    | .ok n =>
      if n == sequenceMax then
        .error (.config ("Stored sequence " ++ toString n ++ " leaves no room for another value"))
      else .ok n

/-- Reads the checkpoint from a store and opens the gate. -/
def load [CursorStore σ] (g : Sequence) (store : σ) : Except RelayError (Nat × Sequence) := do
  let n ← ofStored (← CursorStore.get store sequenceKey)
  pure (n, { value := max g.value n, lastFlushed := n, loaded := true })

/-- The next value, or none while the gate is closed; at the largest value the counter wraps and
the call fails. -/
def next (g : Sequence) : Option (Except String Nat × Sequence) :=
  if !g.loaded then none
  else if g.value == sequenceMax then some (.error "attempt to add with overflow", { g with value := 0 })
  else some (.ok (g.value + 1), { g with value := g.value + 1 })

/-- Writes the counter when it moved: whether it wrote, with the store and generator after. -/
def flush [CursorStore σ] (g : Sequence) (store : σ) : σ × Except RelayError Bool × Sequence :=
  if !g.loaded || g.value == g.lastFlushed then (store, .ok false, g)
  else
    match CursorStore.set store sequenceKey (toString g.value) with
    | (store, .ok ()) => (store, .ok true, { g with lastFlushed := max g.lastFlushed g.value })
    | (store, .error e) => (store, .error e, g)

theorem next_value (g : Sequence) (h : g.loaded = true) (hv : g.value < sequenceMax) :
    g.next = some (.ok (g.value + 1), { g with value := g.value + 1 }) := by
  simp [next, h, Nat.ne_of_lt hv]

end Sequence

end ChangeRelay
