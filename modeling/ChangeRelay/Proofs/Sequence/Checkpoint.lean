import ChangeRelay.Proofs.Sequence.Issuance

/-!
# The checkpoint of the sequence counter

The generator keeps its counter in memory and its checkpoint in the cursor store under the key
`sequence`. A sequential run calls `load`, `next` and `flush` in any order, while the store's
reads and writes fail and recover at will and other keys are written by others (`Move`, `Run`).

* `load_eq_ok_iff`, `load_fails_iff`: a load takes a checkpoint below the largest value and
  refuses anything else; `flush_writes`: a flush writes only the counter, in decimal, and only on
  a loaded generator whose counter moved.
* `Agrees`: once loaded, the stored checkpoint reads as the last checkpoint read or written, and
  that is at most the counter. Every move keeps it as long as no call of `next` overflows
  (`Move.agrees`), so every such run does (`Run.agrees`), and along such a run the checkpoint
  never decreases (`Run.holds_mono`). Before the first load nothing writes it (`Run.key_of_unloaded`).
* `Run.issued_above`: a fresh generator over a checkpoint hands out only values above it; so a
  fresh generator loaded after a flush that followed the last `next` hands out only values above
  every value the previous one handed out (`resume_above`).

The counter means nothing before the first load: it is `0` whatever the checkpoint holds
(`checkpoint_above_counter_before_load`). A call of `next` that finds the counter at the largest
value wraps it to `0` (see `issuance_exact`); the runs here are the ones where no call does.
-/

namespace ChangeRelay

open Store

namespace Text

theorem isBlank_of_isDigit {c : Char} (h : c.isDigit = true) : isBlank c = false := by
  have hc : 48 ≤ c.toNat ∧ c.toNat ≤ 57 := by
    simp only [Char.isDigit, Bool.and_eq_true, decide_eq_true_eq] at h
    exact ⟨h.1, h.2⟩
  simp only [isBlank, Bool.or_eq_false_iff, Bool.and_eq_false_iff, decide_eq_false_iff_not,
    beq_eq_false_iff_ne]
  omega

theorem digitValue_of_isDigit {c : Char} (h : c.isDigit = true) :
    digitValue 10 c = some (c.toNat - '0'.toNat) := by
  have hc : 48 ≤ c.toNat ∧ c.toNat ≤ 57 := by
    simp only [Char.isDigit, Bool.and_eq_true, decide_eq_true_eq] at h
    exact ⟨h.1, h.2⟩
  have h0 : '0' ≤ c ∧ c ≤ '9' := by
    simp only [Char.le_def]
    exact ⟨hc.1, hc.2⟩
  simp only [digitValue, if_pos h0]
  rw [if_pos (by simp; omega)]

/-- Reading decimal digits after `acc` gives the number they write after it, as long as that stays
below `2 ^ bits`. -/
theorem accumulate_digits {bits : Nat} :
    ∀ {acc : Nat} {cs : List Char}, (∀ c ∈ cs, c.isDigit = true) →
      Nat.ofDigitChars 10 cs acc < Nat.pow 2 bits →
      accumulate bits acc cs = .ok (Nat.ofDigitChars 10 cs acc)
  | acc, [], _, _ => rfl
  | acc, c :: cs, hd, hlt => by
    have hc := digitValue_of_isDigit (hd c List.mem_cons_self)
    rw [Nat.ofDigitChars_cons] at hlt ⊢
    have hle : 10 * acc + (c.toNat - '0'.toNat) ≤
        Nat.ofDigitChars 10 cs (10 * acc + (c.toNat - '0'.toNat)) := by
      rw [Nat.ofDigitChars_eq_ofDigitChars_zero]
      exact Nat.le_add_right_of_le (Nat.le_mul_of_pos_left _ (Nat.pow_pos (by omega)))
    simp only [accumulate, hc]
    rw [if_pos (by rw [Nat.mul_comm]; omega), Nat.mul_comm]
    exact accumulate_digits (fun d hd' => hd d (List.mem_cons_of_mem c hd')) hlt

theorem readUnsigned_digits {bits : Nat} {s : String} (hd : ∀ c ∈ s.toList, c.isDigit = true)
    (hne : s.toList ≠ []) (hlt : Nat.ofDigitChars 10 s.toList 0 < Nat.pow 2 bits) :
    readUnsigned bits s = .ok (Nat.ofDigitChars 10 s.toList 0) := by
  obtain ⟨c, cs, hs⟩ := List.exists_cons_of_ne_nil hne
  have hc := hd c (hs ▸ List.mem_cons_self)
  have hplus : c ≠ '+' := fun h => by subst h; simp [Char.isDigit] at hc
  have hminus : c ≠ '-' := fun h => by subst h; simp [Char.isDigit] at hc
  unfold readUnsigned
  rw [hs] at hlt hd ⊢
  split
  · contradiction
  · simp_all
  · simp_all
  · simp_all
  · exact accumulate_digits hd hlt

theorem trimBlank_of_digits {s : String} (hd : ∀ c ∈ s.toList, c.isDigit = true) :
    trimBlank s = s := by
  have keep : ∀ l : List Char, (∀ c ∈ l, c.isDigit = true) → l.dropWhile isBlank = l := by
    intro l hl
    cases l with
    | nil => rfl
    | cons c cs => simp [List.dropWhile, isBlank_of_isDigit (hl c List.mem_cons_self)]
  unfold trimBlank
  rw [keep _ hd, keep _ (by simpa using hd), List.reverse_reverse, String.ofList_toList]

/-- A number below `2 ^ 64` written in decimal reads back as itself. -/
theorem readUnsigned_toString {n : Nat} (h : n < Nat.pow 2 64) :
    readUnsigned 64 (trimBlank (toString n)) = .ok n := by
  have hd : ∀ c ∈ (toString n).toList, c.isDigit = true := by
    intro c hc
    rw [Nat.toString_eq_repr, Nat.toList_repr] at hc
    exact Nat.isDigit_of_mem_toDigits (by omega) (by omega) hc
  have hv : Nat.ofDigitChars 10 (toString n).toList 0 = n := by
    rw [Nat.toString_eq_repr, Nat.toList_repr, Nat.ofDigitChars_ten_toDigits]
  rw [trimBlank_of_digits hd, readUnsigned_digits hd, hv]
  · simp [Nat.toDigits_ne_nil]
  · rw [hv]
    exact h

end Text

namespace Store.MemoryStore

@[simp] theorem cursorStore_get (s : MemoryStore) (k : String) : CursorStore.get s k = s.get k :=
  rfl

@[simp] theorem cursorStore_set (s : MemoryStore) (k t : String) :
    CursorStore.set s k t = s.set k t :=
  rfl

theorem entries_of_get {s : MemoryStore} {k : String} {t : Option String}
    (h : CursorStore.get s k = .ok t) : s.entries.get? k = t := by
  rw [cursorStore_get] at h
  unfold MemoryStore.get at h
  split at h
  · cases h
  · injection h

end Store.MemoryStore

namespace Sequence

/-! ## Reading a checkpoint -/

/-- The number a checkpoint stands for: a missing checkpoint is `0`, a text is trimmed and read
as an unsigned 64-bit number. Unlike a load, this reading also takes the largest value. -/
def readCheckpoint : Option String → Option Nat
  | none => some 0
  | some raw => (Text.readUnsigned 64 (Text.trimBlank raw)).toOption

theorem readCheckpoint_le {t : Option String} {n : Nat} (h : readCheckpoint t = some n) :
    n ≤ sequenceMax := by
  cases t with
  | none =>
    cases h
    exact Nat.zero_le _
  | some raw =>
    cases hr : Text.readUnsigned 64 (Text.trimBlank raw) with
    | error f => simp [readCheckpoint, hr, Except.toOption] at h
    | ok m =>
      simp only [readCheckpoint, hr, Except.toOption, Option.some.injEq] at h
      subst h
      have := Text.readUnsigned_lt hr
      rw [Nat.pow_eq] at this
      rw [sequenceMax_eq]
      omega

/-- The counter written in decimal reads back as the counter. -/
theorem readCheckpoint_toString {n : Nat} (h : n ≤ sequenceMax) :
    readCheckpoint (some (toString n)) = some n := by
  rw [sequenceMax_eq] at h
  show (Text.readUnsigned 64 (Text.trimBlank (toString n))).toOption = some n
  rw [Text.readUnsigned_toString (by rw [Nat.pow_eq]; omega)]
  rfl

/-- A load accepts exactly the checkpoints that read as a number below the largest value. -/
theorem ofStored_eq_ok_iff {t : Option String} {p : Nat} :
    ofStored t = .ok p ↔ readCheckpoint t = some p ∧ p < sequenceMax := by
  cases t with
  | none =>
    simp only [ofStored, Except.ok.injEq, readCheckpoint, Option.some.injEq, sequenceMax_eq]
    omega
  | some raw =>
    cases hr : Text.readUnsigned 64 (Text.trimBlank raw) with
    | error f => simp [ofStored, readCheckpoint, hr, Except.toOption]
    | ok m =>
      by_cases hm : m = sequenceMax
      · subst hm
        simp only [ofStored, hr, beq_self_eq_true, if_true, reduceCtorEq, readCheckpoint,
          Except.toOption, Option.some.injEq, false_iff, not_and]
        intro h
        omega
      · have hlt : m < sequenceMax := Nat.lt_of_le_of_ne
          (readCheckpoint_le (t := some raw) (by simp [readCheckpoint, hr, Except.toOption])) hm
        simp only [ofStored, hr, beq_iff_eq, hm, if_false, Except.ok.injEq, readCheckpoint,
          Except.toOption, Option.some.injEq]
        constructor
        · rintro rfl
          exact ⟨rfl, hlt⟩
        · rintro ⟨rfl, -⟩
          rfl

/-- The checkpoint in the store reads as `n`. -/
def Holds (store : MemoryStore) (n : Nat) : Prop :=
  readCheckpoint (store.entries.get? sequenceKey) = some n

theorem Holds.unique {store : MemoryStore} {m n : Nat} (hm : Holds store m) (hn : Holds store n) :
    m = n := by
  unfold Holds at hm hn
  rw [hm] at hn
  exact Option.some.inj hn

theorem holds_congr {s s' : MemoryStore}
    (h : s'.entries.get? sequenceKey = s.entries.get? sequenceKey) (n : Nat) :
    Holds s' n ↔ Holds s n := by
  unfold Holds
  rw [h]

/-! ## What one call does -/

variable {σ : Type} [CursorStore σ]

theorem load_of_get_error {g : Sequence} {store : σ} {e : RelayError}
    (h : CursorStore.get store sequenceKey = .error e) : g.load store = .error e := by
  simp only [load, h, bind, Except.bind]

theorem load_of_get {g : Sequence} {store : σ} {t : Option String}
    (h : CursorStore.get store sequenceKey = .ok t) :
    g.load store =
      (ofStored t).map fun p => (p, { value := max g.value p, lastFlushed := p, loaded := true }) := by
  simp only [load, h, bind, Except.bind]
  cases ofStored t <;> rfl

/-- A load succeeds exactly when the store answers with a checkpoint below the largest value; it
raises the counter to the checkpoint, takes it as the last checkpoint and opens the gate. -/
theorem load_eq_ok_iff {g g' : Sequence} {store : σ} {p : Nat} :
    g.load store = .ok (p, g') ↔
      (∃ t, CursorStore.get store sequenceKey = .ok t ∧ readCheckpoint t = some p) ∧
        p < sequenceMax ∧ g' = { value := max g.value p, lastFlushed := p, loaded := true } := by
  cases hg : CursorStore.get store sequenceKey with
  | error e => simp [load_of_get_error hg]
  | ok t =>
    rw [load_of_get hg]
    simp only [Except.ok.injEq, exists_eq_left']
    rw [← and_assoc, ← ofStored_eq_ok_iff]
    cases ho : ofStored t with
    | error e => simp [Except.map]
    | ok n =>
      simp only [Except.map, Except.ok.injEq, Prod.mk.injEq]
      constructor
      · rintro ⟨rfl, rfl⟩
        exact ⟨rfl, rfl⟩
      · rintro ⟨rfl, rfl⟩
        exact ⟨rfl, rfl⟩

/-- A load fails exactly when the store cannot be read, or its text reads as no unsigned 64-bit
number once trimmed, or it reads as the largest value. -/
theorem load_fails_iff {g : Sequence} {store : σ} :
    (∃ e, g.load store = .error e) ↔
      (∃ e, CursorStore.get store sequenceKey = .error e) ∨
        ∃ t, CursorStore.get store sequenceKey = .ok t ∧
          (readCheckpoint t = none ∨ readCheckpoint t = some sequenceMax) := by
  cases hg : CursorStore.get store sequenceKey with
  | error e => simp [load_of_get_error hg]
  | ok t =>
    rw [load_of_get hg]
    simp only [reduceCtorEq, exists_false, Except.ok.injEq, exists_eq_left', false_or]
    cases hr : readCheckpoint t with
    | none =>
      have ho : ∀ p, ofStored t ≠ .ok p := fun p h => by
        rw [ofStored_eq_ok_iff, hr] at h
        cases h.1
      cases h : ofStored t with
      | error e => simp [Except.map]
      | ok p => exact absurd h (ho p)
    | some n =>
      rcases Nat.lt_or_eq_of_le (readCheckpoint_le hr) with hn | rfl
      · rw [(ofStored_eq_ok_iff (t := t)).2 ⟨hr, hn⟩]
        simp [Except.map, Nat.ne_of_lt hn]
      · have ho : ∀ p, ofStored t ≠ .ok p := fun p h => by
          rw [ofStored_eq_ok_iff, hr, Option.some.injEq] at h
          omega
        cases h : ofStored t with
        | error e => simp [Except.map]
        | ok p => exact absurd h (ho p)

/-- A flush leaves the store as it was, or the generator was loaded, its counter moved since the
last checkpoint, and the flush wrote the counter in decimal under the key `sequence`. -/
theorem flush_writes (g : Sequence) (store : σ) :
    g.flush store = (store, .ok false, g) ∨
      g.loaded = true ∧ g.value ≠ g.lastFlushed ∧
        (g.flush store).1 = (CursorStore.set store sequenceKey (toString g.value)).1 := by
  unfold flush
  split
  · exact .inl rfl
  · next hc =>
    have hl : g.loaded = true := by cases hl : g.loaded <;> simp_all
    have hv : g.value ≠ g.lastFlushed := by simp_all
    refine .inr ⟨hl, hv, ?_⟩
    split
    · next heq => rw [heq]
    · next heq => rw [heq]

/-- A flush on the store in memory: it writes nothing, or its write fails and changes nothing, or
it writes the counter and takes it as the last checkpoint. -/
theorem flush_cases {g g' : Sequence} {s s' : MemoryStore} {r : Except RelayError Bool}
    (h : g.flush s = (s', r, g')) :
    ((g.loaded = false ∨ g.value = g.lastFlushed) ∧ s' = s ∧ r = .ok false ∧ g' = g) ∨
      (g.loaded = true ∧ g.value ≠ g.lastFlushed ∧ s' = s ∧ g' = g ∧ ∃ e, r = .error e) ∨
      (g.loaded = true ∧ g.value ≠ g.lastFlushed ∧
        s' = { s with entries := s.entries.put sequenceKey (toString g.value) } ∧ r = .ok true ∧
        g' = { g with lastFlushed := max g.lastFlushed g.value }) := by
  unfold flush at h
  split at h
  · next hc =>
    simp only [Prod.mk.injEq] at h
    obtain ⟨rfl, rfl, rfl⟩ := h
    refine .inl ⟨?_, rfl, rfl, rfl⟩
    cases hl : g.loaded <;> simp_all
  · next hc =>
    have hl : g.loaded = true := by cases hl : g.loaded <;> simp_all
    have hv : g.value ≠ g.lastFlushed := by simp_all
    rw [MemoryStore.cursorStore_set] at h
    unfold MemoryStore.set at h
    by_cases hw : s.failWrites = true
    · simp only [hw, if_true, Prod.mk.injEq] at h
      obtain ⟨rfl, rfl, rfl⟩ := h
      exact .inr (.inl ⟨hl, hv, rfl, rfl, _, rfl⟩)
    · simp only [hw, Bool.false_eq_true, if_false, Prod.mk.injEq] at h
      obtain ⟨rfl, rfl, rfl⟩ := h
      have hw : s.failWrites = false := by simpa using hw
      exact .inr (.inr ⟨hl, hv, by rw [← hw], rfl, rfl⟩)

/-- A call of `next` returns only through an open gate, and leaves it open. -/
theorem next_loaded {g g' : Sequence} {r : Except String Nat} (h : g.next = some (r, g')) :
    g.loaded = true ∧ g'.loaded = true := by
  unfold Sequence.next at h
  split at h
  · cases h
  · next hl =>
    simp only [Bool.not_eq_true', Bool.not_eq_false] at hl
    split at h <;> simp only [Option.some.injEq, Prod.mk.injEq] at h <;> obtain ⟨-, rfl⟩ := h <;>
      exact ⟨hl, hl⟩

theorem next_eq_ok {g g' : Sequence} {n : Nat} (h : g.next = some (.ok n, g')) :
    g.loaded = true ∧ g.value ≠ sequenceMax ∧ n = g.value + 1 ∧
      g' = { g with value := g.value + 1 } := by
  unfold next at h
  split at h
  · cases h
  · split at h
    · simp at h
    · next hl hv =>
      simp only [Bool.not_eq_true', Bool.not_eq_false] at hl
      simp only [beq_iff_eq] at hv
      simp only [Option.some.injEq, Prod.mk.injEq, Except.ok.injEq] at h
      obtain ⟨rfl, rfl⟩ := h
      exact ⟨hl, hv, rfl, rfl⟩

/-! ## Sequential runs -/

/-- One move of a sequential run on the generator and its store: a call of `load`, `next` or
`flush`, with the answer of a `next`, or the rest of the process changing the store without
touching the checkpoint (reads and writes that start or stop failing, other keys written). A
failed load leaves the generator as it was; a call of `next` before the gate opens waits for
ever, so it is no move. -/
inductive Move : Sequence × MemoryStore → List (Except String Nat) → Sequence × MemoryStore → Prop
  | load {g s p g'} : g.load s = .ok (p, g') → Move (g, s) [] (g', s)
  | loadFailed {g s e} : g.load s = .error e → Move (g, s) [] (g, s)
  | next {g s r g'} : g.next = some (r, g') → Move (g, s) [r] (g', s)
  | flush {g s s' r g'} : g.flush s = (s', r, g') → Move (g, s) [] (g', s')
  | other {g s s'} : s'.entries.get? sequenceKey = s.entries.get? sequenceKey →
      Move (g, s) [] (g, s')

/-- A sequential run: moves one after another, with the answers of its calls of `next` in
order. -/
inductive Run : Sequence × MemoryStore → List (Except String Nat) → Sequence × MemoryStore → Prop
  | refl {x} : Run x [] x
  | tail {x y z as bs} : Run x as y → Move y bs z → Run x (as ++ bs) z

theorem Move.run {x y : Sequence × MemoryStore} {as : List (Except String Nat)} (h : Move x as y) :
    Run x as y := by
  simpa using Run.tail Run.refl h

/-- The generator agrees with its checkpoint: the counter is in range, and once the gate is open
the stored checkpoint reads as the last checkpoint read or written, which is at most the
counter. -/
structure Agrees (x : Sequence × MemoryStore) : Prop where
  value_le : x.1.value ≤ sequenceMax
  holds : x.1.loaded = true → Holds x.2 x.1.lastFlushed
  flushed_le : x.1.loaded = true → x.1.lastFlushed ≤ x.1.value

theorem agrees_fresh (s : MemoryStore) : Agrees (({} : Sequence), s) where
  value_le := Nat.zero_le _
  holds h := nomatch h
  flushed_le h := nomatch h

/-- The checkpoint a flush writes reads as the counter. -/
theorem holds_put (s : MemoryStore) {n : Nat} (h : n ≤ sequenceMax) :
    Holds { s with entries := s.entries.put sequenceKey (toString n) } n := by
  unfold Holds
  rw [Entries.get?_put_self]
  exact readCheckpoint_toString h

/-- A flush keeps the generator in agreement with its checkpoint and leaves its counter. -/
theorem flush_agrees {g g' : Sequence} {s s' : MemoryStore} {r : Except RelayError Bool}
    (h : g.flush s = (s', r, g')) (hx : Agrees (g, s)) : Agrees (g', s') ∧ g'.value = g.value := by
  rcases flush_cases h with ⟨-, hs, -, hg⟩ | ⟨-, -, hs, hg, -⟩ | ⟨hl, -, hs, -, hg⟩
  · subst s' g'
    exact ⟨hx, rfl⟩
  · subst s' g'
    exact ⟨hx, rfl⟩
  · subst s' g'
    have hm : max g.lastFlushed g.value = g.value := Nat.max_eq_right (hx.flushed_le hl)
    refine ⟨⟨hx.value_le, fun _ => ?_, fun _ => ?_⟩, rfl⟩
    · simpa [hm] using holds_put s hx.value_le
    · simp [hm]

/-- After a flush that answers, the checkpoint of a loaded generator reads as its counter: the
flush wrote it, or found it written already. -/
theorem flush_ok_holds {g g' : Sequence} {s s' : MemoryStore} {w : Bool}
    (h : g.flush s = (s', .ok w, g')) (hx : Agrees (g, s)) (hl : g.loaded = true) :
    Holds s' g.value := by
  rcases flush_cases h with ⟨hc, hs, -, -⟩ | ⟨-, -, -, -, e, he⟩ | ⟨-, -, hs, -, -⟩
  · subst s'
    have hv : g.value = g.lastFlushed := hc.resolve_left (by simp [hl])
    rw [hv]
    exact hx.holds hl
  · cases he
  · subst s'
    exact holds_put s hx.value_le

/-- One move keeps the generator in agreement with its checkpoint, unless it is a call of `next`
that overflows. -/
theorem Move.agrees {x y : Sequence × MemoryStore} {ns : List Nat}
    (h : Move x (ns.map .ok) y) (hx : Agrees x) : Agrees y := by
  generalize hns : ns.map Except.ok = as at h
  cases h with
  | load hl =>
    obtain ⟨⟨t, ht, hr⟩, hp, rfl⟩ := load_eq_ok_iff.1 hl
    refine ⟨Nat.max_le.2 ⟨hx.value_le, Nat.le_of_lt hp⟩, fun _ => ?_, fun _ => Nat.le_max_right _ _⟩
    unfold Holds
    rw [MemoryStore.entries_of_get ht]
    exact hr
  | loadFailed => exact hx
  | @next g s r g' hn =>
    obtain ⟨n, -, rfl, -⟩ := List.map_eq_singleton_iff.1 hns
    obtain ⟨hl, hv, -, rfl⟩ := next_eq_ok hn
    exact ⟨Nat.lt_of_le_of_ne hx.value_le hv, hx.holds, fun h => Nat.le_succ_of_le (hx.flushed_le h)⟩
  | flush hf => exact (flush_agrees hf hx).1
  | other hk =>
    exact ⟨hx.value_le, fun hl => (holds_congr hk _).2 (hx.holds hl), hx.flushed_le⟩

/-- Along a move the checkpoint never decreases. -/
theorem Move.holds_mono {x y : Sequence × MemoryStore} {as : List (Except String Nat)} {m : Nat}
    (h : Move x as y) (hx : Agrees x) (hm : Holds x.2 m) : ∃ m', Holds y.2 m' ∧ m ≤ m' := by
  cases h with
  | load | loadFailed | next => exact ⟨m, hm, Nat.le_refl m⟩
  | other hk => exact ⟨m, (holds_congr hk m).2 hm, Nat.le_refl m⟩
  | @flush g s s' r g' hf =>
    rcases flush_cases hf with ⟨-, hs, -, -⟩ | ⟨-, -, hs, -, -⟩ | ⟨hl, -, hs, -, -⟩
    · exact ⟨m, hs ▸ hm, Nat.le_refl m⟩
    · exact ⟨m, hs ▸ hm, Nat.le_refl m⟩
    · subst s'
      have : m = g.lastFlushed := hm.unique (hx.holds hl)
      exact ⟨g.value, holds_put s hx.value_le, this ▸ hx.flushed_le hl⟩

/-- Before the gate opens no move writes the checkpoint. -/
theorem Move.key_of_unloaded {x y : Sequence × MemoryStore} {as : List (Except String Nat)}
    (h : Move x as y) (hl : x.1.loaded = false) :
    y.2.entries.get? sequenceKey = x.2.entries.get? sequenceKey := by
  cases h with
  | load | loadFailed | next => rfl
  | other hk => exact hk
  | flush hf =>
    rcases flush_cases hf with ⟨-, hs, -, -⟩ | ⟨-, -, hs, -, -⟩ | ⟨hl', -, -, -, -⟩
    · rw [hs]
    · rw [hs]
    · simp_all

/-- Once open the gate stays open, and a call of `next` returns only through an open gate. -/
theorem Move.loaded {x y : Sequence × MemoryStore} {as : List (Except String Nat)}
    (h : Move x as y) : (x.1.loaded = true ∨ as ≠ []) → y.1.loaded = true := by
  cases h with
  | load hl => exact fun _ => ((load_eq_ok_iff.1 hl).2.2 ▸ rfl)
  | loadFailed | other => simp
  | next hn => exact fun _ => (next_loaded hn).2
  | flush hf =>
    rcases flush_cases hf with ⟨-, -, -, hg⟩ | ⟨-, -, -, hg, -⟩ | ⟨hl, -, -, -, hg⟩ <;> simp_all

/-- A move that does not overflow never lowers the counter, and a call of `next` answers the
counter after it. -/
theorem Move.issued_le {x y : Sequence × MemoryStore} {ns : List Nat}
    (h : Move x (ns.map .ok) y) : x.1.value ≤ y.1.value ∧ ∀ n ∈ ns, x.1.value < n ∧ n ≤ y.1.value := by
  generalize hns : ns.map Except.ok = as at h
  cases h with
  | load hl =>
    obtain ⟨-, -, rfl⟩ := load_eq_ok_iff.1 hl
    obtain rfl := List.map_eq_nil_iff.1 hns
    exact ⟨Nat.le_max_left _ _, by simp⟩
  | loadFailed =>
    obtain rfl := List.map_eq_nil_iff.1 hns
    exact ⟨Nat.le_refl _, by simp⟩
  | next hn =>
    obtain ⟨n, rfl, hr⟩ := List.map_eq_singleton_iff.1 hns
    subst hr
    obtain ⟨-, -, rfl, rfl⟩ := next_eq_ok hn
    exact ⟨Nat.le_succ _, by simp⟩
  | flush hf =>
    obtain rfl := List.map_eq_nil_iff.1 hns
    rcases flush_cases hf with ⟨-, -, -, rfl⟩ | ⟨-, -, -, rfl, -⟩ | ⟨-, -, -, -, rfl⟩ <;>
      exact ⟨Nat.le_refl _, by simp⟩
  | other =>
    obtain rfl := List.map_eq_nil_iff.1 hns
    exact ⟨Nat.le_refl _, by simp⟩

/-- A generator started over the checkpoint `v`: until its gate opens the store still holds `v`,
and after it the counter is at least `v`. -/
def Above (v : Nat) (x : Sequence × MemoryStore) : Prop :=
  (x.1.loaded = false → Holds x.2 v) ∧ (x.1.loaded = true → v ≤ x.1.value)

/-- One move keeps a generator above the checkpoint it started over, and a call of `next` that
does not overflow answers above it. -/
theorem Move.above {x y : Sequence × MemoryStore} {ns : List Nat} {v : Nat}
    (h : Move x (ns.map .ok) y) (hx : Above v x) : Above v y ∧ ∀ n ∈ ns, v < n := by
  obtain ⟨hle, hns⟩ := h.issued_le
  by_cases hl : x.1.loaded = true
  · have hl' := h.loaded (.inl hl)
    refine ⟨⟨fun h' => by simp [hl'] at h', fun _ => Nat.le_trans (hx.2 hl) hle⟩, ?_⟩
    exact fun n hn => Nat.lt_of_le_of_lt (hx.2 hl) (hns n hn).1
  · have hl : x.1.loaded = false := by simpa using hl
    clear hle hns
    generalize hns : ns.map Except.ok = as at h
    cases h with
    | @load g s p g' hld =>
      obtain ⟨⟨t, ht, hr⟩, -, rfl⟩ := load_eq_ok_iff.1 hld
      obtain rfl := List.map_eq_nil_iff.1 hns
      have hv : some p = some v := by
        rw [← hr, ← MemoryStore.entries_of_get ht]
        exact hx.1 hl
      refine ⟨⟨fun h' => by simp at h', fun _ => ?_⟩, by simp⟩
      rw [Option.some.inj hv]
      exact Nat.le_max_right _ _
    | loadFailed =>
      obtain rfl := List.map_eq_nil_iff.1 hns
      exact ⟨hx, by simp⟩
    | next hn => simp [(next_loaded hn).1] at hl
    | flush hf =>
      obtain rfl := List.map_eq_nil_iff.1 hns
      rcases flush_cases hf with ⟨-, rfl, -, rfl⟩ | ⟨hl', -⟩ | ⟨hl', -⟩
      · exact ⟨hx, by simp⟩
      · simp_all
      · simp_all
    | other hk =>
      obtain rfl := List.map_eq_nil_iff.1 hns
      exact ⟨⟨fun h' => (holds_congr hk v).2 (hx.1 h'), hx.2⟩, by simp⟩

/-! ## Whole runs

Each fact about a run follows from the one about a move by induction over the run; the answers
of the calls of `next` split along with it. -/

/-- A run in which no call of `next` overflows keeps the generator in agreement with its
checkpoint. -/
theorem Run.agrees {x y : Sequence × MemoryStore} {ns : List Nat} (h : Run x (ns.map .ok) y)
    (hx : Agrees x) : Agrees y := by
  generalize hns : ns.map Except.ok = as at h
  induction h generalizing ns with
  | refl => exact hx
  | tail _ hm ih =>
    obtain ⟨ns₁, ns₂, rfl, h₁, h₂⟩ := List.map_eq_append_iff.1 hns
    exact (h₂ ▸ hm).agrees (ih h₁)

/-- Along a run in which no call of `next` overflows the counter never decreases, and each call
of `next` answers a value above the counter at the start and at most the counter at the end. -/
theorem Run.issued_le {x y : Sequence × MemoryStore} {ns : List Nat} (h : Run x (ns.map .ok) y) :
    x.1.value ≤ y.1.value ∧ ∀ n ∈ ns, x.1.value < n ∧ n ≤ y.1.value := by
  generalize hns : ns.map Except.ok = as at h
  induction h generalizing ns with
  | refl =>
    obtain rfl := List.map_eq_nil_iff.1 hns
    exact ⟨Nat.le_refl _, by simp⟩
  | tail _ hm ih =>
    obtain ⟨ns₁, ns₂, rfl, h₁, h₂⟩ := List.map_eq_append_iff.1 hns
    obtain ⟨hle₁, hn₁⟩ := ih h₁
    obtain ⟨hle₂, hn₂⟩ := (h₂ ▸ hm).issued_le
    refine ⟨Nat.le_trans hle₁ hle₂, fun n hn => ?_⟩
    rcases List.mem_append.1 hn with hn | hn
    · exact ⟨(hn₁ n hn).1, Nat.le_trans (hn₁ n hn).2 hle₂⟩
    · exact ⟨Nat.lt_of_le_of_lt hle₁ (hn₂ n hn).1, (hn₂ n hn).2⟩

/-- A run in which no call of `next` overflows keeps a generator above the checkpoint it started
over, and hands out only values above it. -/
theorem Run.above {x y : Sequence × MemoryStore} {ns : List Nat} {v : Nat}
    (h : Run x (ns.map .ok) y) (hx : Above v x) : Above v y ∧ ∀ n ∈ ns, v < n := by
  generalize hns : ns.map Except.ok = as at h
  induction h generalizing ns with
  | refl =>
    obtain rfl := List.map_eq_nil_iff.1 hns
    exact ⟨hx, by simp⟩
  | tail _ hm ih =>
    obtain ⟨ns₁, ns₂, rfl, h₁, h₂⟩ := List.map_eq_append_iff.1 hns
    obtain ⟨hy, hn₁⟩ := ih h₁
    obtain ⟨hz, hn₂⟩ := (h₂ ▸ hm).above hy
    exact ⟨hz, fun n hn => (List.mem_append.1 hn).elim (hn₁ n) (hn₂ n)⟩

/-- Along a run in which no call of `next` overflows the checkpoint never decreases. -/
theorem Run.holds_mono {x y : Sequence × MemoryStore} {ns : List Nat} {m : Nat}
    (h : Run x (ns.map .ok) y) (hx : Agrees x) (hm : Holds x.2 m) :
    ∃ m', Holds y.2 m' ∧ m ≤ m' := by
  generalize hns : ns.map Except.ok = as at h
  induction h generalizing ns with
  | refl => exact ⟨m, hm, Nat.le_refl m⟩
  | tail hr hmv ih =>
    obtain ⟨ns₁, ns₂, rfl, h₁, h₂⟩ := List.map_eq_append_iff.1 hns
    obtain ⟨m₁, hm₁, hle₁⟩ := ih h₁
    obtain ⟨m₂, hm₂, hle₂⟩ := hmv.holds_mono ((h₁ ▸ hr).agrees hx) hm₁
    exact ⟨m₂, hm₂, Nat.le_trans hle₁ hle₂⟩

/-- Once open the gate stays open; a call of `next` returns only through an open gate. -/
theorem Run.loaded {x y : Sequence × MemoryStore} {as : List (Except String Nat)}
    (h : Run x as y) : (x.1.loaded = true ∨ as ≠ []) → y.1.loaded = true := by
  induction h with
  | refl => exact fun h => h.resolve_right (by simp)
  | @tail y z as bs _ hm ih =>
    intro h
    by_cases hb : bs = []
    · subst hb
      exact hm.loaded (.inl (ih (by simpa using h)))
    · exact hm.loaded (.inr hb)

/-- Until the gate opens nothing writes the checkpoint. -/
theorem Run.key_of_unloaded {x y : Sequence × MemoryStore} {as : List (Except String Nat)}
    (h : Run x as y) (hl : y.1.loaded = false) :
    y.2.entries.get? sequenceKey = x.2.entries.get? sequenceKey := by
  induction h with
  | refl => rfl
  | @tail y z as bs _ hm ih =>
    have hy : y.1.loaded = false := by
      cases hy : y.1.loaded
      · rfl
      · simp [hm.loaded (.inl hy)] at hl
    rw [hm.key_of_unloaded hy, ih hy]

/-! ## Restarting from the checkpoint -/

/-- A fresh generator over the store a flush left after the last call of `next` of another one
hands out only values above every value the other handed out. -/
theorem resume_above {s₀ s s' : MemoryStore} {g g' : Sequence} {w : Bool} {ns ms : List Nat}
    {y : Sequence × MemoryStore} (hA : Run ({}, s₀) (ns.map .ok) (g, s))
    (hf : g.flush s = (s', .ok w, g')) (hB : Run ({}, s') (ms.map .ok) y) :
    ∀ n ∈ ns, ∀ m ∈ ms, n < m := by
  intro n hn m hm
  have hl : g.loaded = true := hA.loaded (.inr (by simpa using List.ne_nil_of_mem hn))
  have hv : Holds s' g.value := flush_ok_holds hf (hA.agrees (agrees_fresh s₀)) hl
  have hm' : g.value < m :=
    (hB.above (v := g.value) ⟨fun _ => hv, fun h => Bool.noConfusion h⟩).2 m hm
  exact Nat.lt_of_le_of_lt (hA.issued_le.2 n hn).2 hm'

/-- A flush that reports a write wrote the counter, which reads back as the last checkpoint
after it. -/
theorem flush_true_reads_back {g g' : Sequence} {s s' : MemoryStore}
    (h : g.flush s = (s', .ok true, g')) (hx : Agrees (g, s)) :
    s'.entries.get? sequenceKey = some (toString g.value) ∧
      Text.readUnsigned 64 (Text.trimBlank (toString g.value)) = .ok g'.lastFlushed := by
  rcases flush_cases h with ⟨-, -, hr, -⟩ | ⟨-, -, -, -, e, he⟩ | ⟨hl, -, rfl, -, rfl⟩
  · cases hr
  · cases he
  · have hv : g.value ≤ sequenceMax := hx.value_le
    rw [sequenceMax_eq] at hv
    refine ⟨Entries.get?_put_self _ _ _, ?_⟩
    rw [Text.readUnsigned_toString (by rw [Nat.pow_eq]; omega), Nat.max_eq_right (hx.flushed_le hl)]

/-- Checkpoint consistency of the sequence generator over sequential runs of `load`, `next` and
`flush` with any failures of the store's reads and writes and no other writer of its checkpoint.
A load opens the gate on a checkpoint below the largest value and refuses any other; a flush
writes only the counter, in decimal, and only on a loaded generator whose counter moved. Over a
run from a fresh generator in which no call of `next` overflows, nothing writes the checkpoint
before the gate opens; after, it reads as the last checkpoint read or written, which is at most
the counter, and a write reads back as it; the checkpoint never decreases; and a fresh generator
over the store a flush left after the last `next` hands out only values above every value the
first one handed out. -/
theorem checkpoint_consistency :
    (∀ {σ : Type} [CursorStore σ] (g g' : Sequence) (store : σ) (p : Nat),
      g.load store = .ok (p, g') ↔
        (∃ t, CursorStore.get store sequenceKey = .ok t ∧ readCheckpoint t = some p) ∧
          p < sequenceMax ∧ g' = { value := max g.value p, lastFlushed := p, loaded := true }) ∧
    (∀ {σ : Type} [CursorStore σ] (g : Sequence) (store : σ),
      (∃ e, g.load store = .error e) ↔
        (∃ e, CursorStore.get store sequenceKey = .error e) ∨
          ∃ t, CursorStore.get store sequenceKey = .ok t ∧
            (readCheckpoint t = none ∨ readCheckpoint t = some sequenceMax)) ∧
    (∀ {σ : Type} [CursorStore σ] (g : Sequence) (store : σ),
      g.flush store = (store, .ok false, g) ∨
        g.loaded = true ∧ g.value ≠ g.lastFlushed ∧
          (g.flush store).1 = (CursorStore.set store sequenceKey (toString g.value)).1) ∧
    (∀ (s₀ s : MemoryStore) (g : Sequence) (ns : List Nat), Run ({}, s₀) (ns.map .ok) (g, s) →
      (g.loaded = false → s.entries.get? sequenceKey = s₀.entries.get? sequenceKey) ∧
      (g.loaded = true → Holds s g.lastFlushed ∧ g.lastFlushed ≤ g.value) ∧
      ∀ s' g', g.flush s = (s', .ok true, g') →
        s'.entries.get? sequenceKey = some (toString g.value) ∧
          Text.readUnsigned 64 (Text.trimBlank (toString g.value)) = .ok g'.lastFlushed) ∧
    (∀ (s₀ : MemoryStore) (x y : Sequence × MemoryStore) (ns₁ ns₂ : List Nat) (m : Nat),
      Run ({}, s₀) (ns₁.map .ok) x → Run x (ns₂.map .ok) y → Holds x.2 m →
        ∃ m', Holds y.2 m' ∧ m ≤ m') ∧
    (∀ (s₀ s s' : MemoryStore) (g g' : Sequence) (w : Bool) (ns ms : List Nat)
        (y : Sequence × MemoryStore),
      Run ({}, s₀) (ns.map .ok) (g, s) → g.flush s = (s', .ok w, g') →
        Run ({}, s') (ms.map .ok) y → ∀ n ∈ ns, ∀ m ∈ ms, n < m) := by
  refine ⟨fun _ _ _ _ => load_eq_ok_iff, fun _ _ => load_fails_iff, flush_writes,
    fun s₀ s g ns h => ?_, fun s₀ x y ns₁ ns₂ m h₁ h₂ hm => ?_,
    fun _ _ _ _ _ _ _ _ _ hA hf hB => resume_above hA hf hB⟩
  · have hx := h.agrees (agrees_fresh s₀)
    exact ⟨h.key_of_unloaded, fun hl => ⟨hx.holds hl, hx.flushed_le hl⟩,
      fun _ _ hf => flush_true_reads_back hf hx⟩
  · exact h₂.holds_mono (h₁.agrees (agrees_fresh s₀)) hm

/-- Before the first load the counter is `0` whatever the checkpoint holds: over a store whose
checkpoint is `41`, a flush writes nothing and the checkpoint stays above the counter. -/
theorem checkpoint_above_counter_before_load :
    Run (({} : Sequence), MemoryStore.ofPairs [(sequenceKey, "41")]) []
        ({}, MemoryStore.ofPairs [(sequenceKey, "41")]) ∧
      Holds (MemoryStore.ofPairs [(sequenceKey, "41")]) 41 ∧ ({} : Sequence).value < 41 :=
  ⟨(Move.flush rfl).run, rfl, by decide⟩

end Sequence

end ChangeRelay
