import ChangeRelay.Json.Reader
import ChangeRelay.Json.Text
import ChangeRelay.Proofs.Basic
import Mathlib.Tactic.SplitIfs

/-!
# Reading text back: bytes, blanks and strings

The reader's side of `Json.render`, for the parts of a text that are not numbers or nested
values. `Json.Reader.Spells r i bs` says that the text being read holds the bytes `bs` from byte
`i` on; the lemmas here read from any text that holds what was written, whatever comes before and
after it:

* `Reader.Skips` is the shape shared by `skipBlanks` and `skipDigits`, a scan past the bytes
  of one kind: it stops at the first byte of another kind (`Reader.Skips.of_at`) and moves over
  one of its own (`Reader.Skips.step`);
* `Reader.stringFrom_escape`: the escape `jsonEscape` writes for one character is read as that
  character's UTF-8 bytes, whether it is a short escape (`\n`), a `\u00XX` escape or the
  character as it is;
* `Reader.string_jsonQuote`: a quoted string is read back as the string, and reading goes on
  just past its closing quote.
-/

namespace ChangeRelay.Json

/-- The UTF-8 bytes of a text. -/
def bytesOf (s : String) : List UInt8 := s.toList.flatMap String.utf8EncodeChar

@[simp] theorem bytesOf_append (s t : String) : bytesOf (s ++ t) = bytesOf s ++ bytesOf t := by
  simp [bytesOf]

theorem fromUTF8?_toByteArray (s : String) : String.fromUTF8? s.toByteArray = some s := by
  rw [String.fromUTF8?, dif_pos s.isValidUTF8]
  rfl

theorem toByteArray_bytesOf (s : String) : (bytesOf s).toByteArray = s.toByteArray :=
  String.utf8Encode_toList

namespace Reader

/-- The text being read holds the bytes `bs` from byte `i` on. -/
def Spells (r : Reader) (i : Nat) (bs : List UInt8) : Prop :=
  ∀ k (h : k < bs.length), r.at? (i + k) = some bs[k]

variable {r : Reader}

theorem at?_eq_some_iff {i : Nat} {b : UInt8} :
    r.at? i = some b ↔ ∃ h : i < r.bytes.size, r.bytes[i] = b := by
  simp [at?, getElem?_eq_some_iff]

@[simp] theorem spells_nil (i : Nat) : r.Spells i [] := fun _ h => absurd h (Nat.not_lt_zero _)

theorem spells_cons {i : Nat} {b : UInt8} {bs : List UInt8} :
    r.Spells i (b :: bs) ↔ r.at? i = some b ∧ r.Spells (i + 1) bs := by
  constructor
  · intro h
    refine ⟨?_, fun k hk => ?_⟩
    · have h0 := h 0 (by simp)
      rwa [Nat.add_zero, List.getElem_cons_zero] at h0
    · have hk1 := h (k + 1) (by simp [hk])
      rwa [List.getElem_cons_succ, ← Nat.add_assoc, Nat.add_right_comm] at hk1
  · rintro ⟨h0, h⟩ k hk
    cases k with
    | zero => simpa using h0
    | succ k => simpa [Nat.add_assoc, Nat.add_comm 1 k] using h k (by simpa using hk)

theorem spells_append {i : Nat} {as bs : List UInt8} :
    r.Spells i (as ++ bs) ↔ r.Spells i as ∧ r.Spells (i + as.length) bs := by
  induction as generalizing i with
  | nil => simp
  | cons a as ih =>
    rw [List.cons_append, spells_cons, spells_cons, ih]
    simp [Nat.add_assoc, Nat.add_comm 1 as.length, and_assoc]

/-- A text's own reader holds its bytes from the start, and nothing after them. -/
theorem spells_self (s : String) : (⟨s.toUTF8⟩ : Reader).Spells 0 (bytesOf s) := by
  intro k hk
  simp only [at?, Nat.zero_add, String.toUTF8_eq_toByteArray, ← toByteArray_bytesOf]
  rw [getElem?_pos _ _ (by simpa using hk), List.getElem_toByteArray]

theorem at?_self_end (s : String) : (⟨s.toUTF8⟩ : Reader).at? (bytesOf s).length = none := by
  simp [at?, String.toUTF8_eq_toByteArray, ← toByteArray_bytesOf]

/-! ## Scans -/

/-- `f` scans from a byte past the bytes that pass `P`, as `skipBlanks` and `skipDigits` do. -/
def Skips (r : Reader) (P : UInt8 → Bool) (f : Nat → Nat) : Prop :=
  ∀ p, f p = if h : p < r.bytes.size then if P r.bytes[p] then f (p + 1) else p else p

theorem skips_skipBlanks : r.Skips isBlank r.skipBlanks := fun p => by rw [skipBlanks]

theorem skips_skipDigits : r.Skips isDigit r.skipDigits := fun p => by rw [skipDigits]

namespace Skips

variable {P : UInt8 → Bool} {f : Nat → Nat}

theorem of_none (hf : r.Skips P f) {p : Nat} (h : r.at? p = none) : f p = p := by
  have hp : ¬ p < r.bytes.size := fun hp => by
    rw [at?, getElem?_pos r.bytes p hp] at h
    cases h
  rw [hf p, dif_neg hp]

theorem of_at (hf : r.Skips P f) {p : Nat} {b : UInt8} (h : r.at? p = some b) (hb : P b = false) :
    f p = p := by
  obtain ⟨hp, rfl⟩ := at?_eq_some_iff.1 h
  rw [hf p, dif_pos hp, if_neg (by simp [hb])]

theorem step (hf : r.Skips P f) {p : Nat} {b : UInt8} (h : r.at? p = some b) (hb : P b = true) :
    f p = f (p + 1) := by
  obtain ⟨hp, rfl⟩ := at?_eq_some_iff.1 h
  rw [hf p, dif_pos hp, if_pos hb]

/-- A scan from inside the text stops inside it, at or after where it started. -/
theorem bounds (hf : r.Skips P f) :
    ∀ p, p ≤ r.bytes.size → p ≤ f p ∧ f p ≤ r.bytes.size := by
  intro p hp
  induction hk : r.bytes.size - p generalizing p with
  | zero =>
    rw [hf.of_none (by simp [at?, show r.bytes.size ≤ p by omega])]
    exact ⟨Nat.le_refl p, hp⟩
  | succ k ih =>
    have hlt : p < r.bytes.size := by omega
    have hb : r.at? p = some r.bytes[p] := at?_eq_some_iff.2 ⟨hlt, rfl⟩
    cases hP : P r.bytes[p] with
    | false => rw [hf.of_at hb hP]; exact ⟨Nat.le_refl p, hp⟩
    | true =>
      rw [hf.step hb hP]
      have := ih (p + 1) hlt (by omega)
      exact ⟨by omega, this.2⟩

/-- A scan over bytes that all pass `P` goes past them all. -/
theorem spells (hf : r.Skips P f) :
    ∀ {bs : List UInt8} {p : Nat}, r.Spells p bs → (∀ b ∈ bs, P b = true) → f p = f (p + bs.length)
  | [], p, _, _ => rfl
  | b :: bs, p, h, hbs => by
    obtain ⟨hb, h⟩ := spells_cons.1 h
    rw [hf.step hb (hbs b (List.mem_cons_self ..)), hf.spells h fun x hx => hbs x
      (List.mem_cons_of_mem _ hx), List.length_cons, Nat.add_assoc, Nat.add_comm 1]

end Skips

/-! ## Strings -/

/-- The bytes that stand for `c` inside a string literal. -/
def escapeBytes (c : Char) : List UInt8 := (jsonEscape c).flatMap String.utf8EncodeChar

theorem bytesOf_jsonQuote (s : String) :
    bytesOf (jsonQuote s) = 34 :: (s.toList.flatMap escapeBytes ++ [34]) := by
  have hq : String.utf8EncodeChar '"' = [34] := by decide
  simp [bytesOf, jsonQuote, List.flatMap_assoc, hq]
  rfl

/-- A byte other than a quote, a backslash or a control character is taken as it is. -/
theorem stringFrom_plain {acc : ByteArray} {i : Nat} {b : UInt8} (h : r.at? i = some b)
    (hb : 32 ≤ b) (h34 : b ≠ 34) (h92 : b ≠ 92) :
    r.stringFrom acc i = r.stringFrom (acc.push b) (i + 1) := by
  obtain ⟨hi, rfl⟩ := at?_eq_some_iff.1 h
  rw [stringFrom.eq_1, dif_pos hi]
  simp [h34, h92, UInt8.not_lt.2 hb]

/-- A run of such bytes is taken as it is. -/
theorem stringFrom_plainBytes :
    ∀ {bs : List UInt8} {acc : ByteArray} {i : Nat}, (∀ b ∈ bs, 32 ≤ b ∧ b ≠ 34 ∧ b ≠ 92) →
      r.Spells i bs → r.stringFrom acc i = r.stringFrom (acc ++ bs.toByteArray) (i + bs.length)
  | [], acc, i, _, _ => by simp
  | b :: bs, acc, i, hbs, h => by
    obtain ⟨hb, h⟩ := spells_cons.1 h
    obtain ⟨h32, h34, h92⟩ := hbs b (List.mem_cons_self ..)
    rw [stringFrom_plain hb h32 h34 h92,
      stringFrom_plainBytes (fun x hx => hbs x (List.mem_cons_of_mem _ hx)) h]
    have hacc : acc ++ (b :: bs).toByteArray = acc.push b ++ bs.toByteArray := by
      rw [← List.singleton_append, List.toByteArray_append, ← ByteArray.append_assoc,
        ByteArray.append_toByteArray_singleton]
    rw [hacc, List.length_cons, Nat.add_assoc, Nat.add_comm 1]

/-- A byte at or above `0x80` is none of the bytes a string literal treats apart. -/
theorem plain_of_high {b : UInt8} (h : 128 ≤ b) : 32 ≤ b ∧ b ≠ 34 ∧ b ≠ 92 := by
  refine ⟨UInt8.le_trans (by decide) h, ?_, ?_⟩ <;> rintro rfl <;> exact absurd h (by decide)

/-- A character from the space on, other than a quote and a backslash, is written in bytes that a
string literal takes as they are: one byte, its own code, or bytes from `0x80` on. -/
theorem utf8EncodeChar_plain {c : Char} (h32 : 32 ≤ c.toNat) (h34 : c ≠ '"') (h92 : c ≠ '\\') :
    ∀ b ∈ String.utf8EncodeChar c, 32 ≤ b ∧ b ≠ 34 ∧ b ≠ 92 := by
  rcases Char.utf8Size_eq c with h1 | h2 | h3 | h4
  · rw [String.utf8EncodeChar_eq_singleton h1]
    have hv : c.val.toNat ≤ 127 := UInt32.le_iff_toNat_le.1 (Char.utf8Size_eq_one_iff.1 h1)
    have hb : c.val.toUInt8.toNat = c.toNat := by
      rw [UInt32.toNat_toUInt8]
      exact Nat.mod_eq_of_lt (by omega)
    intro b hmem
    obtain rfl := List.mem_singleton.1 hmem
    refine ⟨UInt8.le_iff_toNat_le.2 (by rw [hb]; exact h32), fun heq => h34 ?_, fun heq => h92 ?_⟩
    · exact Char.toNat_inj.1 (by rw [← hb, heq]; rfl)
    · exact Char.toNat_inj.1 (by rw [← hb, heq]; rfl)
  all_goals
    first
    | rw [String.utf8EncodeChar_eq_cons_cons h2]
    | rw [String.utf8EncodeChar_eq_cons_cons_cons h3]
    | rw [String.utf8EncodeChar_eq_cons_cons_cons_cons h4]
    simp only [List.mem_cons, List.not_mem_nil, or_false]
    rintro b (rfl | rfl | rfl | rfl) <;>
      exact plain_of_high (UInt8.le_trans (by decide) UInt8.right_le_or)

/-- A backslash and the letter of a short escape stand for one byte. -/
theorem stringFrom_short {acc : ByteArray} {i : Nat} {e b : UInt8} (h : r.Spells i [92, e])
    (he : (e, b) ∈ [(34, 34), (92, 92), (110, 10), (114, 13), (116, 9), (98, 8), (102, 12)]) :
    r.stringFrom acc i = r.stringFrom (acc.push b) (i + 2) := by
  obtain ⟨h1, h2⟩ := spells_cons.1 h
  obtain ⟨hi, hb⟩ := at?_eq_some_iff.1 h1
  have h2 : r.at? (i + 1) = some e := (spells_cons.1 h2).1
  rw [stringFrom.eq_1, dif_pos hi]
  simp only [List.mem_cons, Prod.mk.injEq, List.not_mem_nil, or_false] at he
  rcases he with ⟨rfl, rfl⟩ | ⟨rfl, rfl⟩ | ⟨rfl, rfl⟩ | ⟨rfl, rfl⟩ | ⟨rfl, rfl⟩ | ⟨rfl, rfl⟩ |
    ⟨rfl, rfl⟩ <;> simp [hb, h2]

/-- A lower-case hex digit is one byte, read back as its value. -/
theorem hexDigit_bytes : ∀ n < 16, (String.utf8EncodeChar (hexDigit n)).map hexValue = [some n] := by
  decide

theorem spells_hexDigit {j n : Nat} (hn : n < 16) (h : r.Spells j (String.utf8EncodeChar (hexDigit n))) :
    (r.at? j).bind hexValue = some n ∧ (String.utf8EncodeChar (hexDigit n)).length = 1 := by
  have hm := hexDigit_bytes n hn
  generalize String.utf8EncodeChar (hexDigit n) = bs at h hm ⊢
  rcases bs with _ | ⟨b, _ | ⟨b', bs⟩⟩
  · simp at hm
  · simp only [List.map_cons, List.map_nil, List.cons.injEq, and_true] at hm
    simp [(spells_cons.1 h).1, hm]
  · simp at hm

/-- The four hex digits `00XX` of a control character's escape are read as its code. -/
theorem hex4_control {j : Nat} {c : Char}
    (h : r.Spells j ([48, 48] ++ String.utf8EncodeChar (hexDigit (c.toNat / 16)) ++
      String.utf8EncodeChar (hexDigit (c.toNat % 16))))
    (hc : c.toNat < 32) : r.hex4 j = .ok (c.toNat, j + 4) := by
  obtain ⟨h01, h3⟩ := spells_append.1 h
  obtain ⟨h01, h2⟩ := spells_append.1 h01
  obtain ⟨h0, h1⟩ := spells_cons.1 h01
  have h1 : r.at? (j + 1) = some 48 := (spells_cons.1 h1).1
  obtain ⟨hd2, hl2⟩ := spells_hexDigit (by omega) h2
  obtain ⟨hd3, -⟩ := spells_hexDigit (Nat.mod_lt _ (by omega)) h3
  simp only [List.length_append, List.length_cons, List.length_nil, hl2, Nat.zero_add,
    Nat.reduceAdd] at hd2 hd3
  have hs : j + 4 ≤ r.bytes.size := by
    cases hb : r.at? (j + 3) with
    | none => simp [hb] at hd3
    | some b =>
      obtain ⟨hlt, -⟩ := at?_eq_some_iff.1 hb
      omega
  have h48 : hexValue 48 = some 0 := by decide
  simp [hex4, hs, List.range_succ, h0, h1, h48, hd2, hd3]
  omega

/-- The bytes of the `\u00XX` escape of a control character. -/
def controlBytes (c : Char) : List UInt8 :=
  List.flatMap String.utf8EncodeChar
    ['\\', 'u', '0', '0', hexDigit (c.toNat / 16), hexDigit (c.toNat % 16)]

theorem controlBytes_eq (c : Char) :
    controlBytes c = [92, 117, 48, 48] ++ String.utf8EncodeChar (hexDigit (c.toNat / 16)) ++
      String.utf8EncodeChar (hexDigit (c.toNat % 16)) := by
  have hu : List.flatMap String.utf8EncodeChar ['\\', 'u', '0', '0'] = [92, 117, 48, 48] := by
    decide
  rw [controlBytes, show ∀ x y : Char, ['\\', 'u', '0', '0', x, y] = ['\\', 'u', '0', '0'] ++ [x, y]
    from fun _ _ => rfl, List.flatMap_append, hu]
  simp

theorem length_controlBytes (c : Char) (hc : c.toNat < 32) : (controlBytes c).length = 6 := by
  have h1 := (hexDigit_bytes (c.toNat / 16) (by omega))
  have h2 := (hexDigit_bytes (c.toNat % 16) (Nat.mod_lt _ (by omega)))
  have l1 := congrArg List.length h1
  have l2 := congrArg List.length h2
  simp only [List.length_map, List.length_cons, List.length_nil] at l1 l2
  simp [controlBytes_eq, l1, l2]

/-- The `\u00XX` escape of a control character is read as the character. -/
theorem stringFrom_control {acc : ByteArray} {i : Nat} {c : Char} (hc : c.toNat < 32)
    (h : r.Spells i (controlBytes c)) :
    r.stringFrom acc i = r.stringFrom (acc ++ [c].utf8Encode) (i + 6) := by
  rw [controlBytes_eq, List.append_assoc, spells_append] at h
  obtain ⟨h4, hhex⟩ := h
  obtain ⟨h92, h4⟩ := spells_cons.1 h4
  obtain ⟨hu, h4⟩ := spells_cons.1 h4
  obtain ⟨hi, hb⟩ := at?_eq_some_iff.1 h92
  have hhex : r.Spells (i + 2) ([48, 48] ++ String.utf8EncodeChar (hexDigit (c.toNat / 16)) ++
      String.utf8EncodeChar (hexDigit (c.toNat % 16))) := by
    rw [List.append_assoc, spells_append]
    exact ⟨by simpa [Nat.add_assoc] using h4, by simpa [Nat.add_assoc] using hhex⟩
  have hesc : r.unicodeEscape acc (i + 2) = .ok (acc ++ [c].utf8Encode, i + 6) := by
    have hlo : ¬ (0xDC00 ≤ c.toNat) := by omega
    simp [unicodeEscape, hex4_control hhex hc, hlo, pushCode, Char.ofNat_toNat,
      String.toByteArray_singleton]
    omega
  rw [stringFrom.eq_1, dif_pos hi]
  simp [hb, hu, hesc]

theorem append_utf8Encode_single {acc : ByteArray} {c : Char} {b : UInt8}
    (h : String.utf8EncodeChar c = [b]) : acc ++ [c].utf8Encode = acc.push b := by
  rw [List.utf8Encode, List.flatMap_cons, List.flatMap_nil, List.append_nil, h,
    ByteArray.append_toByteArray_singleton]

/-- A short escape `\x` of a character of one byte `b` is read as that byte. -/
theorem stringFrom_shortChar {acc : ByteArray} {i : Nat} {c x : Char} {e b : UInt8}
    (hx : List.flatMap String.utf8EncodeChar ['\\', x] = [92, e])
    (hc : String.utf8EncodeChar c = [b])
    (he : (e, b) ∈ [(34, 34), (92, 92), (110, 10), (114, 13), (116, 9), (98, 8), (102, 12)])
    (h : r.Spells i (List.flatMap String.utf8EncodeChar ['\\', x])) :
    r.stringFrom acc i = r.stringFrom (acc ++ [c].utf8Encode)
      (i + (List.flatMap String.utf8EncodeChar ['\\', x]).length) := by
  rw [hx] at h ⊢
  rw [stringFrom_short h he, append_utf8Encode_single hc]
  rfl

/-- The escape of one character is read as the character's UTF-8 bytes. -/
theorem stringFrom_escape (c : Char) {acc : ByteArray} {i : Nat} (h : r.Spells i (escapeBytes c)) :
    r.stringFrom acc i = r.stringFrom (acc ++ [c].utf8Encode) (i + (escapeBytes c).length) := by
  unfold escapeBytes jsonEscape at *
  split_ifs at h ⊢ with hq hb hn hr ht h8 h12 hlow
  · subst hq
    exact stringFrom_shortChar rfl rfl (by decide) h
  · subst hb
    exact stringFrom_shortChar rfl rfl (by decide) h
  · subst hn
    exact stringFrom_shortChar rfl rfl (by decide) h
  · subst hr
    exact stringFrom_shortChar rfl rfl (by decide) h
  · subst ht
    exact stringFrom_shortChar rfl rfl (by decide) h
  · obtain rfl : c = Char.ofNat 8 := Char.toNat_inj.1 (by rw [h8]; decide)
    exact stringFrom_shortChar rfl rfl (by decide) h
  · obtain rfl : c = Char.ofNat 12 := Char.toNat_inj.1 (by rw [h12]; decide)
    exact stringFrom_shortChar rfl rfl (by decide) h
  · rw [← controlBytes] at h ⊢
    rw [stringFrom_control hlow h, length_controlBytes c hlow]
  · have hplain := utf8EncodeChar_plain (Nat.le_of_not_lt hlow) hq hb
    simp only [List.flatMap_cons, List.flatMap_nil, List.append_nil] at h ⊢
    rw [stringFrom_plainBytes hplain h]
    simp only [List.utf8Encode, List.flatMap_cons, List.flatMap_nil, List.append_nil]

/-- The escapes of a list of characters, then a closing quote, are read as the characters' UTF-8
bytes, and reading stops just past the quote. -/
theorem stringFrom_escapes :
    ∀ (cs : List Char) {acc : ByteArray} {i : Nat}, r.Spells i (cs.flatMap escapeBytes ++ [34]) →
      r.stringFrom acc i = .ok (acc ++ cs.utf8Encode, i + (cs.flatMap escapeBytes).length + 1)
  | [], acc, i, h => by
    obtain ⟨hi, hb⟩ := at?_eq_some_iff.1 (spells_cons.1 h).1
    rw [stringFrom.eq_1, dif_pos hi]
    simp [hb]
  | c :: cs, acc, i, h => by
    rw [List.flatMap_cons, List.append_assoc, spells_append] at h
    rw [stringFrom_escape c h.1, stringFrom_escapes cs h.2]
    have hacc : acc ++ [c].utf8Encode ++ cs.utf8Encode = acc ++ (c :: cs).utf8Encode := by
      rw [ByteArray.append_assoc, ← List.utf8Encode_append]
      rfl
    rw [hacc, List.flatMap_cons, List.length_append]
    congr 2
    omega

/-- A quoted string is read back as the string, and reading goes on just past its closing
quote. -/
theorem string_jsonQuote (s : String) {i : Nat} (h : r.Spells i (bytesOf (jsonQuote s))) :
    r.string (i + 1) = .ok (s, i + (bytesOf (jsonQuote s)).length) := by
  rw [bytesOf_jsonQuote, spells_cons] at h
  rw [string, stringFrom_escapes s.toList h.2]
  simp only [ByteArray.empty_append, String.utf8Encode_toList, fromUTF8?_toByteArray,
    Option.getD_some, bytesOf_jsonQuote, List.length_cons, List.length_append, List.length_nil]
  congr 2
  omega

end Reader

end ChangeRelay.Json
