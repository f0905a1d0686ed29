import ChangeRelay.Proofs.Json.ReadText

/-!
# Reading a number where it is written

A number is read by scanning its bytes up to the first byte that cannot go on a number, so what
the reader makes of it depends on its own bytes and on the kind of the byte after them, not on
where it stands. `Reader.Frames t r i` says that the text `r` holds, from byte `i` on, the whole
text `t`, followed by its end or a byte that ends a number (`Reader.EndsNumber`: a comma or a
closing bracket, say). Then each step of reading a number in `t` is the same step in `r`, moved
by `i`:

* the scans and the digits between two places (`Reader.Frames.skipDigits`,
  `Reader.Frames.digitsBetween`);
* the exponent, the fraction, what follows the integer part and the whole number
  (`Reader.Frames.exponentPart`, `Reader.Frames.fractionPart`, `Reader.Frames.afterDigits`,
  `Reader.Frames.number`);
* a value that is a number (`Reader.Frames.value_num`), through the two ways a value starts a
  number, after a minus sign or at a digit (`Reader.value_eq_num`, `Reader.value_of_minus`,
  `Reader.value_of_digit`).

A number read ends within its text (`Reader.number_le`), so a number that reads back from its own
text reads back wherever it is written, as the member of an object or an element of an array,
with only blanks between where its reading stops and the byte after it (`Reader.value_of_parse`).
-/

namespace ChangeRelay.Json.Reader

/-- A byte after which no number goes on: not a digit, a blank, a point, an exponent letter or a
sign. -/
def EndsNumber (b : UInt8) : Prop :=
  isDigit b = false ∧ isBlank b = false ∧ b ≠ 46 ∧ b ≠ 101 ∧ b ≠ 69 ∧ b ≠ 43 ∧ b ≠ 45

/-- The text `r` holds, from byte `i` on, the whole text `t`, and then its end or a byte that ends
a number. -/
structure Frames (t r : Reader) (i : Nat) : Prop where
  spells : r.Spells i t.bytes.data.toList
  stop : ∀ b, r.at? (i + t.bytes.size) = some b → EndsNumber b

variable {t r : Reader} {i : Nat}

theorem at?_of_size_le {p : Nat} (hp : t.bytes.size ≤ p) : t.at? p = none := by
  simp [at?, hp]

/-- Whether a double is in range does not depend on the text it was read from. -/
theorem floatOf_ok {positive : Bool} {d : Nat} {e : Int} {q : Nat} {x : Float}
    (h : t.floatOf positive d e q = .ok x) (q' : Nat) : r.floatOf positive d e q' = .ok x := by
  unfold floatOf at h ⊢
  simp only at h ⊢
  split_ifs at h ⊢ <;> simpa using h

/-! ### A number read ends within the text -/

section Bounds

variable {positive : Bool} {d : Nat} {e0 : Int} {p q : Nat}

theorem exponentPart_le {x : Float} (h : t.exponentPart positive d e0 p = .ok (x, q)) :
    q ≤ t.bytes.size := by
  unfold exponentPart at h
  simp only at h
  generalize Prod.snd (_ : Bool × Nat) = J at h
  generalize Prod.fst (_ : Bool × Nat) = up at h
  split at h
  · cases h
  next c hc =>
  have hstop := (t.skips_skipDigits.bounds _ (at?_eq_some_iff.1 hc).1).2
  split at h
  · cases h
  split at h
  · cases h
  split at h
  · split at h
    · cases h
      exact hstop
    · cases h
  · split at h
    · cases h
    · cases h
      exact hstop

theorem fractionPart_le {x : Float} (hp : p < t.bytes.size)
    (h : t.fractionPart positive d e0 p = .ok (x, q)) : q ≤ t.bytes.size := by
  unfold fractionPart at h
  simp only at h
  have hstop := (t.skips_skipDigits.bounds (p + 1) hp).2
  split at h
  · split at h <;> cases h
  split at h
  · exact exponentPart_le h
  · exact exponentPart_le h
  · split at h
    · cases h
      exact hstop
    · cases h

theorem afterDigits_le {extra : Nat} {n : Number} (hp : p ≤ t.bytes.size)
    (h : t.afterDigits positive d extra p = .ok (n, q)) : q ≤ t.bytes.size := by
  unfold afterDigits at h
  split at h
  · next heq =>
    split at h
    · next hk =>
      cases h
      exact fractionPart_le (at?_eq_some_iff.1 heq).1 hk
    · cases h
  · split at h
    · next hk =>
      cases h
      exact exponentPart_le hk
    · cases h
  · split at h
    · next hk =>
      cases h
      exact exponentPart_le hk
    · cases h
  · split_ifs at h
    · split at h
      · cases h
        exact hp
      · cases h
    all_goals cases h; exact hp

theorem number_le {n : Number} (h : t.number positive p = .ok (n, q)) : q ≤ t.bytes.size := by
  unfold number at h
  split at h
  · cases h
  next c hc =>
  have hp := (at?_eq_some_iff.1 hc).1
  split at h
  · split at h
    · split at h
      · cases h
      · exact afterDigits_le hp h
    · exact afterDigits_le hp h
  · split at h
    · simp only at h
      exact afterDigits_le (t.skips_skipDigits.bounds p (Nat.le_of_lt hp)).2 h
    · cases h

end Bounds

/-! ### Values that are numbers -/

theorem map_ok {α β ε : Type} {x : Except ε α} {g : α → β} {b : β} (h : x.map g = .ok b) :
    ∃ a, x = .ok a ∧ g a = b := by
  cases x with
  | error => cases h
  | ok a => exact ⟨a, rfl, by cases h; rfl⟩

/-- A value that is read as a number is a number read from the first byte after blanks: after
a minus sign, or at a digit. -/
theorem value_eq_num {f d p q : Nat} {n : Number} (h : t.value (f + 1) d p = .ok (.num n, q)) :
    ∃ c, t.at? (t.skipBlanks p) = some c ∧
      (c = 45 ∧ t.number false (t.skipBlanks p + 1) = .ok (n, q) ∨
        isDigit c ∧ t.number true (t.skipBlanks p) = .ok (n, q)) := by
  rw [value] at h
  simp only at h
  split at h
  · cases h
  next c hc =>
  refine ⟨c, hc, ?_⟩
  by_cases h110 : (c == 110) = true
  · rw [if_pos h110] at h
    obtain ⟨⟨m, j⟩, -, hv⟩ := map_ok h
    cases hv
  rw [if_neg h110] at h
  by_cases h116 : (c == 116) = true
  · rw [if_pos h116] at h
    obtain ⟨⟨m, j⟩, -, hv⟩ := map_ok h
    cases hv
  rw [if_neg h116] at h
  by_cases h102 : (c == 102) = true
  · rw [if_pos h102] at h
    obtain ⟨⟨m, j⟩, -, hv⟩ := map_ok h
    cases hv
  rw [if_neg h102] at h
  by_cases h45 : (c == 45) = true
  · rw [if_pos h45] at h
    obtain ⟨⟨m, j⟩, hx, hv⟩ := map_ok h
    cases hv
    exact .inl ⟨beq_iff_eq.1 h45, hx⟩
  rw [if_neg h45] at h
  by_cases hd : isDigit c = true
  · rw [if_pos hd] at h
    obtain ⟨⟨m, j⟩, hx, hv⟩ := map_ok h
    cases hv
    exact .inr ⟨hd, hx⟩
  rw [if_neg hd] at h
  split_ifs at h <;> obtain ⟨⟨m, j⟩, -, hv⟩ := map_ok h <;> cases hv

/-- A digit is none of the bytes that start another kind of value. -/
theorem beq_of_isDigit {c b : UInt8} (hc : isDigit c = true) (hb : isDigit b = false) :
    ¬ (c == b) = true := by
  intro h
  rw [beq_iff_eq.1 h] at hc
  rw [hc] at hb
  cases hb

/-- After a minus sign, a value is the number read after it. -/
theorem value_of_minus {f d p q : Nat} {n : Number} (hc : r.at? (r.skipBlanks p) = some 45)
    (h : r.number false (r.skipBlanks p + 1) = .ok (n, q)) :
    r.value (f + 1) d p = .ok (.num n, q) := by
  rw [value]
  simp only [hc]
  rw [if_neg (by decide), if_neg (by decide), if_neg (by decide), if_pos (by decide), h]
  rfl

/-- At a digit, a value is the number read from it. -/
theorem value_of_digit {f d p q : Nat} {c : UInt8} {n : Number}
    (hc : r.at? (r.skipBlanks p) = some c) (hd : isDigit c = true)
    (h : r.number true (r.skipBlanks p) = .ok (n, q)) :
    r.value (f + 1) d p = .ok (.num n, q) := by
  rw [value]
  simp only [hc]
  rw [if_neg (beq_of_isDigit hd (by decide)), if_neg (beq_of_isDigit hd (by decide)),
    if_neg (beq_of_isDigit hd (by decide)), if_neg (beq_of_isDigit hd (by decide)), if_pos hd, h]
  rfl

/-- A value read as a number ends within the text. -/
theorem value_num_le {f d p q : Nat} {n : Number} (h : t.value (f + 1) d p = .ok (.num n, q)) :
    q ≤ t.bytes.size := by
  obtain ⟨c, -, ⟨-, hx⟩ | ⟨-, hx⟩⟩ := value_eq_num h
  · exact number_le hx
  · exact number_le hx

namespace Frames

variable (hfr : Frames t r i)
include hfr

/-- Inside `t`, `r` holds the bytes of `t`. -/
theorem at?_lt {p : Nat} (hp : p < t.bytes.size) : r.at? (i + p) = t.at? p := by
  rw [hfr.spells p (by simpa using hp)]
  simp [at?, getElem?_pos t.bytes p hp, ByteArray.getElem_eq_getElem_data]

/-- Where `t` has a byte, `r` has it too. -/
theorem at?_some {p : Nat} {b : UInt8} (h : t.at? p = some b) : r.at? (i + p) = some b := by
  obtain ⟨hp, -⟩ := at?_eq_some_iff.1 h
  rw [hfr.at?_lt hp, h]

/-- A scan in `r` from a byte of `t` stops where the scan in `t` stops: a byte that ends a number
passes neither `skipBlanks` nor `skipDigits`. -/
theorem skips {P : UInt8 → Bool} {f0 f : Nat → Nat} (hf0 : t.Skips P f0) (hf : r.Skips P f)
    (hP : ∀ b, EndsNumber b → P b = false) :
    ∀ p, p ≤ t.bytes.size → f (i + p) = i + f0 p := by
  intro p hp
  induction hk : t.bytes.size - p generalizing p with
  | zero =>
    obtain rfl : p = t.bytes.size := by omega
    rw [hf0.of_none (at?_of_size_le (Nat.le_refl _))]
    cases hb : r.at? (i + t.bytes.size) with
    | none => exact hf.of_none hb
    | some b => exact hf.of_at hb (hP b (hfr.stop b hb))
  | succ k ih =>
    have hlt : p < t.bytes.size := by omega
    have hb : t.at? p = some t.bytes[p] := at?_eq_some_iff.2 ⟨hlt, rfl⟩
    have hrb := hfr.at?_some hb
    cases hP : P t.bytes[p] with
    | false => rw [hf.of_at hrb hP, hf0.of_at hb hP]
    | true =>
      rw [hf.step hrb hP, hf0.step hb hP, ← ih (p + 1) hlt (by omega), Nat.add_assoc]

theorem skipDigits {p : Nat} (hp : p ≤ t.bytes.size) : r.skipDigits (i + p) = i + t.skipDigits p :=
  hfr.skips skips_skipDigits skips_skipDigits (fun _ hb => hb.1) p hp

theorem skipBlanks {p : Nat} (hp : p ≤ t.bytes.size) : r.skipBlanks (i + p) = i + t.skipBlanks p :=
  hfr.skips skips_skipBlanks skips_skipBlanks (fun _ hb => hb.2.1) p hp

/-- The digits between two places of `t` are the digits between the same places in `r`. -/
theorem digitsBetween {p stop : Nat} (hs : stop ≤ t.bytes.size) :
    r.digitsBetween (i + p) (i + stop) = t.digitsBetween p stop := by
  unfold Reader.digitsBetween
  rw [Nat.add_sub_add_left]
  refine List.map_congr_left fun k hk => ?_
  rw [List.mem_range] at hk
  rw [Nat.add_assoc, hfr.at?_lt (by omega)]

/-- The exponent of a number read in `t` is read in `r`. -/
theorem exponentPart {positive : Bool} {d : Nat} {e0 : Int} {p q : Nat} {x : Float}
    (h : t.exponentPart positive d e0 p = .ok (x, q)) :
    r.exponentPart positive d e0 (i + p) = .ok (x, i + q) := by
  unfold Reader.exponentPart at h ⊢
  simp only at h ⊢
  rcases Nat.lt_or_ge (p + 1) t.bytes.size with hlt | hge
  · rw [show i + p + 1 = i + (p + 1) by omega, hfr.at?_lt hlt]
    generalize hJ : Prod.snd (_ : Bool × Nat) = J at h
    generalize hup : Prod.fst (_ : Bool × Nat) = up at h
    generalize hJ' : Prod.snd (_ : Bool × Nat) = J'
    generalize hup' : Prod.fst (_ : Bool × Nat) = up'
    obtain ⟨rfl, rfl⟩ : J' = i + J ∧ up' = up := by
      clear h
      subst hJ hJ' hup hup'
      split <;> simp [Nat.add_assoc]
    simp only [Nat.add_assoc]
    split at h
    · cases h
    next c hc =>
    rw [hfr.at?_some hc]
    simp only
    split at h
    · cases h
    next hd =>
    rw [if_neg hd]
    have hJc := (at?_eq_some_iff.1 hc).1
    rw [hfr.skipDigits (by omega), hfr.digitsBetween (t.skips_skipDigits.bounds _ (by omega)).2]
    split at h
    · cases h
    next hds =>
    rw [hds] at h ⊢
    split at h
    · split at h
      · next hf =>
        cases h
        rw [floatOf_ok hf]
      · cases h
    · split at h
      · cases h
      · next hdu =>
        rw [if_neg hdu]
        cases h
        rfl
  · simp [at?_of_size_le hge] at h

/-- Where `t` does not hold a byte that can go on a number, `r` does not hold it either, up to
the end of `t`. -/
theorem at?_ne {j : Nat} {b : UInt8} (hj : j ≤ t.bytes.size) (hb : ¬ EndsNumber b)
    (h : t.at? j ≠ some b) : r.at? (i + j) ≠ some b := by
  rcases Nat.lt_or_ge j t.bytes.size with hlt | hge
  · rwa [hfr.at?_lt hlt]
  · obtain rfl : j = t.bytes.size := by omega
    exact fun hr => hb (hfr.stop b hr)

/-- The fraction of a number read in `t` is read in `r`. -/
theorem fractionPart {positive : Bool} {d : Nat} {e0 : Int} {p q : Nat} {x : Float}
    (hp : p < t.bytes.size) (h : t.fractionPart positive d e0 p = .ok (x, q)) :
    r.fractionPart positive d e0 (i + p) = .ok (x, i + q) := by
  unfold Reader.fractionPart at h ⊢
  simp only at h ⊢
  rw [show i + p + 1 = i + (p + 1) by omega, hfr.skipDigits (by omega)]
  split at h
  · split at h <;> cases h
  next hne =>
  rw [if_neg (by simpa using hne)]
  have hstop := (t.skips_skipDigits.bounds (p + 1) (by omega)).2
  rw [hfr.digitsBetween hstop]
  split at h
  · next heq =>
    rw [hfr.at?_some heq]
    exact hfr.exponentPart h
  · next heq =>
    rw [hfr.at?_some heq]
    exact hfr.exponentPart h
  · next h101 h69 =>
    split
    · next heq => exact absurd heq (hfr.at?_ne hstop (by simp [EndsNumber]) h101)
    · next heq => exact absurd heq (hfr.at?_ne hstop (by simp [EndsNumber]) h69)
    · split at h
      · next hf =>
        cases h
        rw [floatOf_ok hf]
      · cases h

/-- What follows the integer part of a number read in `t` is read in `r`. -/
theorem afterDigits {positive : Bool} {d extra j q : Nat} {n : Number}
    (hj : j ≤ t.bytes.size) (h : t.afterDigits positive d extra j = .ok (n, q)) :
    r.afterDigits positive d extra (i + j) = .ok (n, i + q) := by
  unfold Reader.afterDigits at h ⊢
  split at h
  · next heq =>
    rw [hfr.at?_some heq]
    split at h
    · next hk =>
      cases h
      rw [hfr.fractionPart (at?_eq_some_iff.1 heq).1 hk]
      rfl
    · cases h
  · next heq =>
    rw [hfr.at?_some heq]
    split at h
    · next hk =>
      cases h
      rw [hfr.exponentPart hk]
      rfl
    · cases h
  · next heq =>
    rw [hfr.at?_some heq]
    split at h
    · next hk =>
      cases h
      rw [hfr.exponentPart hk]
      rfl
    · cases h
  · next h46 h101 h69 =>
    split
    · next heq => exact absurd heq (hfr.at?_ne hj (by simp [EndsNumber]) h46)
    · next heq => exact absurd heq (hfr.at?_ne hj (by simp [EndsNumber]) h101)
    · next heq => exact absurd heq (hfr.at?_ne hj (by simp [EndsNumber]) h69)
    · split_ifs at h ⊢
      · split at h
        · next hf =>
          cases h
          rw [floatOf_ok hf]
        · cases h
      all_goals cases h; rfl

/-- A number read in `t` is read in `r`. -/
theorem number {positive : Bool} {p q : Nat} {n : Number}
    (h : t.number positive p = .ok (n, q)) : r.number positive (i + p) = .ok (n, i + q) := by
  unfold Reader.number at h ⊢
  split at h
  · cases h
  next c hc =>
  have hp := (at?_eq_some_iff.1 hc).1
  rw [hfr.at?_some hc]
  simp only
  split at h
  · next h48 =>
    rw [if_pos h48, Nat.add_assoc]
    split at h
    · next c2 hc2 =>
      rw [hfr.at?_some hc2]
      simp only
      split at h
      · cases h
      next hd =>
      rw [if_neg hd]
      exact hfr.afterDigits (by omega) h
    · next hn =>
      have hend : p + 1 = t.bytes.size := by
        have : ¬ p + 1 < t.bytes.size := fun hlt => by simp [at?, hlt] at hn
        omega
      split
      · next c2 hc2 =>
        rw [if_neg (by simp [(hfr.stop c2 (hend ▸ hc2)).1])]
        exact hfr.afterDigits (by omega) h
      · exact hfr.afterDigits (by omega) h
  · next h48 =>
    rw [if_neg h48]
    split at h
    · next hd =>
      rw [if_pos hd]
      simp only at h ⊢
      have hstop := (t.skips_skipDigits.bounds p (Nat.le_of_lt hp)).2
      rw [hfr.skipDigits (Nat.le_of_lt hp), hfr.digitsBetween hstop]
      generalize List.foldl _ _ _ = acc at h ⊢
      exact hfr.afterDigits hstop h
    · cases h

/-- A value read in `t` as a number is read in `r`, whatever the fuel and depth left. -/
theorem value_num {f f' d d' p q : Nat} {n : Number} (hp : p ≤ t.bytes.size)
    (h : t.value (f + 1) d p = .ok (.num n, q)) :
    r.value (f' + 1) d' (i + p) = .ok (.num n, i + q) := by
  obtain ⟨c, hc, ⟨rfl, hx⟩ | ⟨hd, hx⟩⟩ := value_eq_num h
  · refine value_of_minus ?_ ?_
    · rw [hfr.skipBlanks hp]
      exact hfr.at?_some hc
    · rw [hfr.skipBlanks hp, Nat.add_assoc]
      exact hfr.number hx
  · refine value_of_digit ?_ hd ?_
    · rw [hfr.skipBlanks hp]
      exact hfr.at?_some hc
    · rw [hfr.skipBlanks hp]
      exact hfr.number hx

end Frames

/-- A number that reads back from its own text reads back wherever that text is written, followed
by its end or a byte that ends a number: the value there is the number, and only blanks stand
between where its reading stops and the byte after the text. -/
theorem value_of_parse {n : Number} (hn : Json.parse n.render = .ok (.num n))
    (hfr : Frames ⟨n.render.toUTF8⟩ r i) (f d : Nat) :
    ∃ j, r.value (f + 1) d i = .ok (.num n, j) ∧ r.skipBlanks j = i + n.render.toUTF8.size := by
  unfold Json.parse at hn
  simp only at hn
  split at hn
  · cases hn
  next v j hv =>
  split_ifs at hn with hk
  cases hn
  have hj := value_num_le hv
  have hstop := (skips_skipBlanks.bounds j hj).2
  refine ⟨i + j, by simpa using hfr.value_num (Nat.zero_le _) hv, ?_⟩
  rw [hfr.skipBlanks hj]
  exact congrArg (i + ·) (Nat.le_antisymm hstop (Nat.not_lt.1 hk))

end ChangeRelay.Json.Reader
