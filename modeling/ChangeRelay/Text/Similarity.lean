/-!
# Jaro similarity

The Jaro similarity of two words counts the characters they share within a window (half the
longer length, less one, either side of the same position) and the shared characters that come
in another order (transpositions, halved and rounded down). With `m` shared characters and `t`
transpositions it is `(m/|a| + m/|b| + (m - t)/m) / 3`, and 0 when nothing is shared.

Rather than compute that fraction, `similarAbove` compares it with a ratio exactly, in natural
numbers.
-/

namespace ChangeRelay.Text

/-- Marks, for each character of `a`, the position in `b` it is matched with: the first
unmatched equal character of `b` within the window. -/
def jaroMatches (a b : List Char) : List (Option Nat) :=
  let window := max a.length b.length / 2 - 1
  let (marks, _) := a.zipIdx.foldl (fun (acc : List (Option Nat) × List Bool) (c, i) =>
    let (marks, used) := acc
    let lo := i - window
    let hi := min b.length (i + window + 1)
    let hit := (List.range hi).find? fun j => lo ≤ j && b[j]? == some c && !(used.getD j false)
    match hit with
    | some j => (marks ++ [some j], used.set j true)
    | none => (marks ++ [none], used)) ([], List.replicate b.length false)
  marks

/-- The shared characters and the transpositions (halved) of two words. -/
def jaroCounts (a b : List Char) : Nat × Nat :=
  let marks := jaroMatches a b
  let fromA := (a.zip marks).filterMap fun (c, m) => m.map fun _ => c
  let positions := (marks.filterMap id).mergeSort (· ≤ ·)
  let fromB := positions.filterMap fun j => b[j]?
  let swapped := ((fromA.zip fromB).filter fun (x, y) => x != y).length
  (fromA.length, swapped / 2)

/-- Whether the Jaro similarity of two words exceeds `num / den`. -/
def similarAbove (num den : Nat) (a b : String) : Bool :=
  let a := a.toList
  let b := b.toList
  if a.isEmpty && b.isEmpty then num < den
  else if a.isEmpty || b.isEmpty then false
  else
    let (m, t) := jaroCounts a b
    if m == 0 then false
    else
      -- (m/|a| + m/|b| + (m - t)/m) / 3 > num/den, with every denominator cleared
      num * 3 * a.length * b.length * m <
        den * (m * m * b.length + m * m * a.length + (m - t) * a.length * b.length)

end ChangeRelay.Text
