import ChangeRelay.Sequence
import ChangeRelay.Store.Memory

/-!
# Issuing sequence numbers

After a load from checkpoint `p`, the generator answers the calls to `next` in the order they
come, whoever makes them: the call numbered `j` gets the counter plus one, where the counter is
`p + j` taken round the 64-bit range (`issued`). So the answers are `p + 1, p + 2, …` with the
counter at `p` plus the number of calls as long as the counter has room, and only then
(`issuance_exact`). The call that finds the counter at its largest value fails on the overflow
and the counter falls back to `0`, so the calls after it answer `1, 2, …`: values at or below the
checkpoint, which were handed out before it was written.

* `Sequence.load_fresh`: a load reads a checkpoint below the largest value and sets the counter
  to it.
* `Sequence.serve` answers a schedule of calls; `serve_issued` gives the answers in closed form.
* `issuance_exact` puts them together.
-/

namespace ChangeRelay

open Store

theorem sequenceMax_eq : sequenceMax = 18446744073709551615 := rfl

namespace Text

/-- Reading digits onto a value below `2 ^ bits` stays below it. -/
theorem accumulate_lt {bits acc n : Nat} {cs : List Char} (h : accumulate bits acc cs = .ok n)
    (hacc : acc < Nat.pow 2 bits) : n < Nat.pow 2 bits := by
  induction cs generalizing acc with
  | nil =>
    simp only [accumulate, Except.ok.injEq] at h
    exact h ▸ hacc
  | cons c cs ih =>
    simp only [accumulate] at h
    split at h
    · cases h
    · split at h
      · exact ih h ‹_›
      · cases h

theorem readUnsigned_lt {bits n : Nat} {s : String} (h : readUnsigned bits s = .ok n) :
    n < Nat.pow 2 bits := by
  unfold readUnsigned at h
  split at h
  · cases h
  · cases h
  · cases h
  · exact accumulate_lt h (Nat.two_pow_pos bits)
  · exact accumulate_lt h (Nat.two_pow_pos bits)

end Text

namespace Sequence

/-! ## One call -/

theorem next_of_ne {g : Sequence} (hl : g.loaded = true) (hv : g.value ≠ sequenceMax) :
    g.next = some (.ok (g.value + 1), { g with value := g.value + 1 }) := by
  simp [next, hl, hv]

/-- At the largest value the counter wraps to `0` and the call fails. -/
theorem next_of_eq {g : Sequence} (hl : g.loaded = true) (hv : g.value = sequenceMax) :
    g.next = some (.error "attempt to add with overflow", { g with value := 0 }) := by
  simp [next, hl, hv]

/-! ## The load -/

/-- A stored checkpoint is below the largest value. -/
theorem ofStored_lt {s : Option String} {n : Nat} (h : ofStored s = .ok n) : n < sequenceMax := by
  unfold ofStored at h
  cases s with
  | none =>
    cases h
    rw [sequenceMax_eq]
    omega
  | some raw =>
    cases hr : Text.readUnsigned 64 (Text.trimBlank raw) with
    | error f => simp [hr] at h
    | ok m =>
      have hlt : m < 18446744073709551616 := Text.readUnsigned_lt hr
      by_cases hm : m = sequenceMax
      · simp [hr, hm] at h
      · simp only [hr, beq_iff_eq, hm, if_false, Except.ok.injEq] at h
        subst h
        rw [sequenceMax_eq] at hm ⊢
        omega

/-- A load of a fresh generator reads a checkpoint below the largest value, sets the counter to
it and opens the gate. -/
theorem load_fresh {σ : Type} [CursorStore σ] {store : σ} {p : Nat} {g : Sequence}
    (h : ({} : Sequence).load store = .ok (p, g)) :
    g.value = p ∧ g.loaded = true ∧ p < sequenceMax := by
  unfold load at h
  cases hg : CursorStore.get store sequenceKey with
  | error e => simp [hg, bind, Except.bind] at h
  | ok s =>
    cases ho : ofStored s with
    | error e => simp [hg, ho, bind, Except.bind] at h
    | ok n =>
      simp only [hg, ho, bind, Except.bind, pure, Except.pure, Except.ok.injEq,
        Prod.mk.injEq] at h
      obtain ⟨rfl, rfl⟩ := h
      exact ⟨by simp, rfl, ofStored_lt ho⟩

/-! ## A schedule of calls -/

/-- Serves a schedule of calls to `next` in order, each named by its caller: the answers with
their callers, and the generator after. While the gate is closed the calls wait. -/
def serve {ι : Type} (g : Sequence) : List ι → List (ι × Except String Nat) × Sequence
  | [] => ([], g)
  | i :: is =>
    match g.next with
    | some (r, g') => ((i, r) :: (serve g' is).1, (serve g' is).2)
    | none => ([], g)

/-- The answer to the call numbered `j` after a load from checkpoint `p`: the counter, `p + j`
taken round the 64-bit range, plus one; at the largest value the call fails instead. -/
def issued (p j : Nat) : Except String Nat :=
  if (p + j) % (sequenceMax + 1) = sequenceMax then .error "attempt to add with overflow"
  else .ok ((p + j) % (sequenceMax + 1) + 1)

/-- A call numbered `j` whose counter stays below the largest value answers `p + j + 1`. -/
theorem issued_of_lt {p j : Nat} (h : p + j < sequenceMax) : issued p j = .ok (p + j + 1) := by
  rw [issued, Nat.mod_eq_of_lt (by omega), if_neg (Nat.ne_of_lt h)]

/-- On a loaded generator whose counter is `p + k` round the 64-bit range, a schedule is
answered in order by `issued p` from the call numbered `k` on, and the counter moves on by the
number of calls. -/
theorem serve_issued {ι : Type} (p : Nat) (is : List ι) :
    ∀ (k : Nat) (g : Sequence), g.loaded = true → g.value = (p + k) % (sequenceMax + 1) →
      (g.serve is).1.map (·.1) = is ∧
      (g.serve is).1.map (·.2) = (List.range' k is.length).map (issued p) ∧
      (g.serve is).2.value = (p + k + is.length) % (sequenceMax + 1) := by
  induction is with
  | nil =>
    intro k g _ hv
    simp [serve, hv]
  | cons i is ih =>
    intro k g hl hv
    by_cases hmax : g.value = sequenceMax
    · have hk : (p + k) % (sequenceMax + 1) = sequenceMax := hv ▸ hmax
      have hiss : issued p k = .error "attempt to add with overflow" := by simp [issued, hk]
      obtain ⟨h₁, h₂, h₃⟩ := ih (k + 1) { g with value := 0 } hl (by
        simp only [sequenceMax_eq] at hk ⊢
        omega)
      refine ⟨by simp [serve, next_of_eq hl hmax, h₁], ?_, ?_⟩
      · simp [serve, next_of_eq hl hmax, h₂, List.range'_succ, hiss]
      · simp only [serve, next_of_eq hl hmax, h₃, List.length_cons]
        congr 1
        omega
    · have hk : (p + k) % (sequenceMax + 1) ≠ sequenceMax := hv ▸ hmax
      have hiss : issued p k = .ok (g.value + 1) := by simp [issued, hk, hv]
      obtain ⟨h₁, h₂, h₃⟩ := ih (k + 1) { g with value := g.value + 1 } hl (by
        simp only [sequenceMax_eq] at hk hv ⊢
        omega)
      refine ⟨by simp [serve, next_of_ne hl hmax, h₁], ?_, ?_⟩
      · simp [serve, next_of_ne hl hmax, h₂, List.range'_succ, hiss]
      · simp only [serve, next_of_ne hl hmax, h₃, List.length_cons]
        congr 1
        omega

/-- Issuing after a load from checkpoint `p`, for any schedule of calls whoever makes them: the
call numbered `j` gets `issued p j`, and the counter ends at `p` plus the number of calls round
the 64-bit range. The answers are exactly `p + 1, …, p + k` with the counter at `p + k` if and
only if `p + k` does not pass the largest value; past it the counter falls back. -/
theorem issuance_exact {σ ι : Type} [CursorStore σ] {store : σ} {p : Nat} {g : Sequence}
    (hload : ({} : Sequence).load store = .ok (p, g)) (is : List ι) :
    (g.serve is).1.map (·.1) = is ∧
    (g.serve is).1.map (·.2) = (List.range is.length).map (issued p) ∧
    (g.serve is).2.value = (p + is.length) % (sequenceMax + 1) ∧
    (((g.serve is).1.map (·.2) = (List.range' (p + 1) is.length).map .ok ∧
        (g.serve is).2.value = p + is.length) ↔ p + is.length ≤ sequenceMax) := by
  obtain ⟨hv, hl, hp⟩ := load_fresh hload
  obtain ⟨h₁, h₂, h₃⟩ := serve_issued p is 0 g hl (by
    rw [hv, Nat.add_zero, Nat.mod_eq_of_lt (by omega)])
  rw [Nat.add_zero] at h₃
  refine ⟨h₁, by rw [h₂, List.range_eq_range'], h₃, ⟨?_, fun hle => ⟨?_, ?_⟩⟩⟩
  · rintro ⟨-, hval⟩
    rw [h₃] at hval
    have := Nat.mod_lt (p + is.length) (show sequenceMax + 1 > 0 by omega)
    omega
  · rw [h₂, List.range'_eq_map_range, List.range'_eq_map_range, List.map_map, List.map_map]
    refine List.map_congr_left fun j hj => ?_
    have hj : j < is.length := List.mem_range.1 hj
    simp only [Function.comp, Nat.zero_add, issued_of_lt (show p + j < sequenceMax by omega)]
    congr 1
    omega
  · rw [h₃, Nat.mod_eq_of_lt (by omega)]

/-- From checkpoint `41`, a schedule of three calls by two callers answers `42, 43, 44`. -/
theorem issuance_from_checkpoint :
    ({} : Sequence).load (MemoryStore.ofPairs [(sequenceKey, "41")]) =
        .ok (41, ⟨41, 41, true⟩) ∧
      (serve ⟨41, 41, true⟩ ["a", "b", "a"]).1.map (·.2) = [.ok 42, .ok 43, .ok 44] := by
  have hload : ({} : Sequence).load (MemoryStore.ofPairs [(sequenceKey, "41")]) =
      .ok (41, ⟨41, 41, true⟩) := rfl
  refine ⟨hload, ?_⟩
  rw [((issuance_exact hload ["a", "b", "a"]).2.2.2.2 (by simp [sequenceMax_eq])).1]
  rfl

/-- From the checkpoint one below the largest value, three calls answer the largest value, then
fail on the overflow, then answer `1`: the counter fell back to `0`. -/
theorem issuance_falls_back :
    ({} : Sequence).load (MemoryStore.ofPairs [(sequenceKey, "18446744073709551614")]) =
        .ok (18446744073709551614, ⟨18446744073709551614, 18446744073709551614, true⟩) ∧
      (serve ⟨18446744073709551614, 18446744073709551614, true⟩ ["a", "b", "a"]).1.map (·.2) =
        [.ok 18446744073709551615, .error "attempt to add with overflow", .ok 1] :=
  ⟨rfl, rfl⟩

end Sequence

end ChangeRelay
