import ChangeRelay.Store.Basic

/-!
# The in-memory cursor store

Entries in memory, with two switches standing for a backend that cannot be reached: while
`failReads` is on every `get` fails, while `failWrites` is on every `set` and `delete` fails, and
a failed call leaves the entries as they were.
-/

namespace ChangeRelay.Store

/-- Cursors in memory, with switches that make reads or writes fail. -/
structure MemoryStore where
  entries : Entries := []
  failReads : Bool := false
  failWrites : Bool := false
  deriving Inhabited

namespace MemoryStore

/-- The store holding `pairs`, a later pair of a key winning. -/
def ofPairs (pairs : List (String × String)) : MemoryStore := { entries := Entries.collect pairs }

/-- The token of a key. -/
def get (s : MemoryStore) (key : String) : Except RelayError (Option String) :=
  if s.failReads then .error (.storeUnavailable key "read failure injected")
  else .ok (s.entries.get? key)

/-- Writes a token under a key. -/
def set (s : MemoryStore) (key token : String) : MemoryStore × Except RelayError Unit :=
  if s.failWrites then (s, .error (.storeUnavailable key "write failure injected"))
  else ({ s with entries := s.entries.put key token }, .ok ())

/-- Forgets a key. -/
def delete (s : MemoryStore) (key : String) : MemoryStore × Except RelayError Unit :=
  if s.failWrites then (s, .error (.storeUnavailable key "write failure injected"))
  else ({ s with entries := s.entries.erase key }, .ok ())

/-- The entries by ascending key. -/
def list (s : MemoryStore) : Entries := s.entries.sorted

instance : CursorStore MemoryStore := ⟨get, set, delete⟩

theorem get_set (s : MemoryStore) (key token : String) (hr : s.failReads = false)
    (hw : s.failWrites = false) : (s.set key token).1.get key = .ok (some token) := by
  simp [set, get, hr, hw, Entries.get?_put_self]

end MemoryStore

end ChangeRelay.Store
