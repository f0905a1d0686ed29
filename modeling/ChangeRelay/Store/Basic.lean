import ChangeRelay.Error

/-!
# Cursor stores

A cursor store keeps one resume token per key: each worker owns the key of its partition, and the
sequence generator keeps its checkpoint under `sequence`. `get` answers the last token written
successfully, `set` replaces it and `delete` forgets it (forgetting a missing key is no fault).

A store is a value here: `set` and `delete` give the store after the call together with the
call's outcome. A failed call may still have changed the store, which happens when a database
keeps the work of a statement that faulted.

`Entries` are the pairs a store lists, each key once, by ascending key.
-/

namespace ChangeRelay.Store

/-- Key and token pairs, each key once. -/
abbrev Entries := List (String × String)

namespace Entries

/-- The token of a key. -/
def get? (es : Entries) (key : String) : Option String := (es.find? (·.1 == key)).map (·.2)

/-- The entries with `key` holding `token`, in place of its old token or added last. -/
def put : Entries → String → String → Entries
  | [], key, token => [(key, token)]
  | (k, t) :: es, key, token => if k == key then (key, token) :: es else (k, t) :: put es key token

/-- The entries without `key`. -/
def erase (es : Entries) (key : String) : Entries := es.filter (·.1 != key)

/-- The entries of pairs where a later pair of a key wins over an earlier one. -/
def collect (pairs : List (String × String)) : Entries :=
  pairs.foldl (fun es (k, t) => es.put k t) []

/-- The entries by ascending key. -/
def sorted (es : Entries) : Entries := es.mergeSort fun a b => decide (a.1 ≤ b.1)

theorem get?_put_self (es : Entries) (key token : String) :
    (es.put key token).get? key = some token := by
  induction es with
  | nil => simp [put, get?]
  | cons p es ih =>
    obtain ⟨k, t⟩ := p
    by_cases h : k = key
    · subst h
      simp [put, get?]
    · simp only [get?] at ih
      simp [put, get?, h, ih]

end Entries

/-- Operations of a cursor store `σ`. -/
class CursorStore (σ : Type) where
  /-- The token last written under a key. -/
  get : σ → String → Except RelayError (Option String)
  /-- Writes a token under a key. -/
  set : σ → String → String → σ × Except RelayError Unit
  /-- Forgets a key. -/
  delete : σ → String → σ × Except RelayError Unit

end ChangeRelay.Store
