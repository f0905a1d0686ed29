import ChangeRelay.Proofs.Json.ReadNumber
import ChangeRelay.Proofs.Json.Members

/-!
# Reading a written value back

`Json.render` and `Json.parse` are inverse on the values the reader can take back: those whose
objects hold their keys in order, whose numbers read back from their own text, and whose brackets
nest less deep than the reader allows (`Json.Readable`). A value that is not readable is not read
back: a NaN is written `null`, an object out of key order is read back in order, and a value
nested deeper than the reader's limit is refused.

The proof reads a value wherever its text stands (`Json.ReadsAt`): in any text that holds its
bytes from some byte on, followed by the end or a byte that ends a number (a comma, a colon or a
closing bracket), with depth left for its brackets and more fuel than its bytes. A word or a
string is read from its first byte; a number through `Reader.value_of_parse`; an array element
after element (`Reader.elements_rest`), an object member after member (`Reader.member_eq`,
`Reader.members_rest`), each element and member read where it stands. `Readable.readsAt` puts the
cases together by induction over the value, and `Json.parse_render` reads the whole text.
-/

namespace ChangeRelay.Json

namespace Reader

variable {r : Reader}

/-! ### Blanks -/

/-- At `p` the text ends, or holds a byte after which no number goes on. -/
def Ends (r : Reader) (p : Nat) : Prop := ∀ b, r.at? p = some b → EndsNumber b

theorem ends_of_at {p : Nat} {b : UInt8} (h : r.at? p = some b) (hb : EndsNumber b) : r.Ends p :=
  fun b' hb' => by
    rw [h, Option.some.injEq] at hb'
    exact hb' ▸ hb

/-- A scan stops at a byte that does not pass, so scanning again moves no further. -/
theorem Skips.idem {P : UInt8 → Bool} {f : Nat → Nat} (hf : r.Skips P f) (p : Nat) :
    f (f p) = f p := by
  induction hk : r.bytes.size - p generalizing p with
  | zero =>
    have hp : r.at? p = none := by simp [at?, show r.bytes.size ≤ p by omega]
    rw [hf.of_none hp, hf.of_none hp]
  | succ k ih =>
    have hlt : p < r.bytes.size := by omega
    have hb : r.at? p = some r.bytes[p] := at?_eq_some_iff.2 ⟨hlt, rfl⟩
    cases hP : P r.bytes[p] with
    | false => rw [hf.of_at hb hP, hf.of_at hb hP]
    | true => rw [hf.step hb hP, ih (p + 1) (by omega)]

theorem skipBlanks_skipBlanks (p : Nat) : r.skipBlanks (r.skipBlanks p) = r.skipBlanks p :=
  skips_skipBlanks.idem p

theorem skipBlanks_of_at {p : Nat} {b : UInt8} (h : r.at? p = some b) (hb : isBlank b = false) :
    r.skipBlanks p = p :=
  skips_skipBlanks.of_at h hb

theorem Ends.skipBlanks {p : Nat} (h : r.Ends p) : r.skipBlanks p = p := by
  cases hb : r.at? p with
  | none => exact skips_skipBlanks.of_none hb
  | some b => exact skipBlanks_of_at hb (h b hb).2.1

/-- Each reading skips the blanks before it, so blanks skipped already change nothing. -/
theorem value_skipBlanks (f d p : Nat) :
    r.value (f + 1) d (r.skipBlanks p) = r.value (f + 1) d p := by
  rw [value, value, skipBlanks_skipBlanks]

theorem elements_skipBlanks (f d : Nat) (first : Bool) (acc : List Json) (p : Nat) :
    r.elements (f + 1) d first acc (r.skipBlanks p) = r.elements (f + 1) d first acc p := by
  rw [elements, elements, skipBlanks_skipBlanks]

theorem members_skipBlanks (f d : Nat) (first : Bool) (acc : Fields) (p : Nat) :
    r.members (f + 1) d first acc (r.skipBlanks p) = r.members (f + 1) d first acc p := by
  rw [members, members, skipBlanks_skipBlanks]

/-- A value is read only from a byte that can start one: there is a byte after the blanks, and
it is no closing bracket. -/
theorem value_ok_at {f d p : Nat} {x : Json × Nat} (h : r.value (f + 1) d p = .ok x) :
    ∃ c, r.at? (r.skipBlanks p) = some c ∧ c ≠ 93 := by
  rw [value] at h
  simp only at h
  split at h
  · cases h
  next c hc =>
  refine ⟨c, hc, ?_⟩
  rintro rfl
  simp [isDigit] at h

/-! ### One step at a known byte -/

/-- A value at an opening bracket is refused at the last level of depth, and is otherwise read
as elements one level down. -/
theorem value_at_bracket {f d i : Nat} (h : r.at? i = some 91) :
    r.value (f + 1) d i = if d ≤ 1 then .error (r.peekFault .recursionLimit i)
      else (r.elements f (d - 1) true [] (i + 1)).map fun (xs, j) => (Json.arr xs, j) := by
  rw [value, skipBlanks_of_at h (by decide), h]
  simp only
  rw [if_neg (by decide), if_neg (by decide), if_neg (by decide), if_neg (by decide),
    if_neg (by decide), if_neg (by decide), if_pos (by decide)]

/-- A value at an opening brace is refused at the last level of depth, and is otherwise read as
members one level down. -/
theorem value_at_brace {f d i : Nat} (h : r.at? i = some 123) :
    r.value (f + 1) d i = if d ≤ 1 then .error (r.peekFault .recursionLimit i)
      else (r.members f (d - 1) true [] (i + 1)).map fun (fs, j) => (Json.obj fs, j) := by
  rw [value, skipBlanks_of_at h (by decide), h]
  simp only
  rw [if_neg (by decide), if_neg (by decide), if_neg (by decide), if_neg (by decide),
    if_neg (by decide), if_neg (by decide), if_neg (by decide), if_pos (by decide)]

/-- The first member is read from its key's opening quote. -/
theorem members_first {f d i : Nat} {acc : Fields} (h34 : r.at? i = some 34) :
    r.members (f + 1) d true acc i = r.member f d acc (i + 1) := by
  rw [members, skipBlanks_of_at h34 (by decide), h34]
  simp only
  rw [if_neg (by decide), if_pos trivial, if_pos (by decide)]

/-- A later member is read after its comma, from its key's opening quote. -/
theorem members_next {f d i : Nat} {acc : Fields} (h44 : r.at? i = some 44)
    (h34 : r.at? (i + 1) = some 34) :
    r.members (f + 1) d false acc i = r.member f d acc (i + 1 + 1) := by
  rw [members, skipBlanks_of_at h44 (by decide), h44]
  simp only
  rw [if_neg (by decide), if_neg (by decide), if_pos (by decide),
    skipBlanks_of_at h34 (by decide), h34]
  rfl

/-- A quoted text starts with its opening quote. -/
theorem at?_quote {p : Nat} {s : String} (h : r.Spells p (bytesOf (jsonQuote s))) :
    r.at? p = some 34 := by
  rw [bytesOf_jsonQuote] at h
  exact (spells_cons.1 h).1

/-! ### Words -/

/-- The letters of a word are checked one after another. -/
theorem ident_spells : ∀ {ws : List UInt8} {i : Nat}, r.Spells i ws →
    r.ident ws i = .ok ((), i + ws.length)
  | [], i, _ => by simp [ident]
  | w :: ws, i, h => by
    obtain ⟨hw, h⟩ := spells_cons.1 h
    rw [ident, hw]
    simp only [beq_self_eq_true, if_true]
    rw [ident_spells h, List.length_cons, Nat.add_assoc, Nat.add_comm 1]

end Reader

/-! ### The bytes of a written value -/

/-- The elements after the first, each after a comma. -/
def elemsBytes (xs : List Json) : List UInt8 := xs.flatMap fun x => 44 :: bytesOf x.render

/-- The members after the first, each after a comma: a quoted key, a colon and a value. -/
def fieldsBytes (fs : Fields) : List UInt8 :=
  fs.flatMap fun kv => 44 :: (bytesOf (jsonQuote kv.1) ++ 58 :: bytesOf kv.2.render)

@[simp] theorem elemsBytes_nil : elemsBytes [] = [] := rfl

@[simp] theorem elemsBytes_cons (x : Json) (xs : List Json) :
    elemsBytes (x :: xs) = 44 :: (bytesOf x.render ++ elemsBytes xs) := rfl

@[simp] theorem fieldsBytes_nil : fieldsBytes [] = [] := rfl

@[simp] theorem fieldsBytes_cons (k : String) (v : Json) (fs : Fields) :
    fieldsBytes ((k, v) :: fs) =
      44 :: (bytesOf (jsonQuote k) ++ 58 :: bytesOf v.render ++ fieldsBytes fs) := by
  simp [fieldsBytes]

@[simp] theorem bytesOf_empty : bytesOf "" = [] := rfl

theorem bytesOf_comma : bytesOf "," = [44] := rfl

theorem bytesOf_colon : bytesOf ":" = [58] := rfl

theorem bytesOf_renderElems_cons (x : Json) (xs : List Json) :
    bytesOf (renderElems (x :: xs)) = bytesOf x.render ++ elemsBytes xs := by
  induction xs generalizing x with
  | nil => simp [renderElems]
  | cons y ys ih =>
    rw [renderElems.eq_3 _ _ (List.cons_ne_nil _ _), bytesOf_append, bytesOf_append, ih,
      bytesOf_comma]
    simp

theorem bytesOf_renderFields_cons (k : String) (v : Json) (fs : Fields) :
    bytesOf (renderFields ((k, v) :: fs)) =
      bytesOf (jsonQuote k) ++ 58 :: bytesOf v.render ++ fieldsBytes fs := by
  induction fs generalizing k v with
  | nil => simp [renderFields, bytesOf_colon]
  | cons kv fs ih =>
    obtain ⟨k', v'⟩ := kv
    rw [renderFields.eq_3 _ _ _ (List.cons_ne_nil _ _), bytesOf_append, bytesOf_append,
      bytesOf_append, bytesOf_append, ih, bytesOf_comma, bytesOf_colon]
    simp

theorem bytesOf_render_arr (xs : List Json) :
    bytesOf (Json.arr xs).render = 91 :: (bytesOf (renderElems xs) ++ [93]) := by
  rw [render, bytesOf_append, bytesOf_append]
  rfl

theorem bytesOf_render_obj (fs : Fields) :
    bytesOf (Json.obj fs).render = 123 :: (bytesOf (renderFields fs) ++ [125]) := by
  rw [render, bytesOf_append, bytesOf_append]
  rfl

theorem two_le_length_jsonQuote (s : String) : 2 ≤ (bytesOf (jsonQuote s)).length := by
  rw [Reader.bytesOf_jsonQuote]
  simp

theorem toUTF8_data_toList (s : String) : s.toUTF8.data.toList = bytesOf s := by
  rw [String.toUTF8_eq_toByteArray, ← toByteArray_bytesOf, List.toList_data_toByteArray]

theorem size_toUTF8 (s : String) : s.toUTF8.size = (bytesOf s).length := by
  rw [String.toUTF8_eq_toByteArray, ← toByteArray_bytesOf, List.size_toByteArray]

/-- Members set in increasing key order go one after another. -/
theorem Fields.insert_of_lt {k : String} {v : Json} :
    ∀ {fs : Fields}, (∀ k' ∈ fs.map Prod.fst, k' < k) → Fields.insert k v fs = fs ++ [(k, v)]
  | [], _ => rfl
  | (k', v') :: rest, h => by
    have hlt : k' < k := h k' (List.mem_cons_self ..)
    rw [Fields.insert, if_neg (lt_asymm hlt), if_neg (ne_of_gt hlt),
      insert_of_lt fun x hx => h x (List.mem_cons_of_mem _ hx)]
    rfl

/-! ### Values that read back -/

end Json

/-- A number whose text reads back as the number. A NaN or an infinity, which JSON writes as
`null`, does not. -/
def Number.ReadsBack (n : Number) : Prop := Json.parse n.render = .ok (.num n)

namespace Json

/-- A value that reads back from its text when the reader has depth `d` left for it: its objects
hold their keys in order, its numbers read back from their own text, and each bracket, which
takes one level, finds more than one left. -/
inductive Readable : Nat → Json → Prop
  | null {d : Nat} : Readable d .null
  | bool {d : Nat} (b : Bool) : Readable d (.bool b)
  | num {d : Nat} {n : Number} (hn : n.ReadsBack) : Readable d (.num n)
  | str {d : Nat} (s : String) : Readable d (.str s)
  | arr {d : Nat} {xs : List Json} (hd : 1 < d) (hxs : ∀ x ∈ xs, Readable (d - 1) x) :
      Readable d (.arr xs)
  | obj {d : Nat} {fs : Fields} (hd : 1 < d) (ho : fs.Ordered)
      (hfs : ∀ kv ∈ fs, Readable (d - 1) kv.2) : Readable d (.obj fs)

/-- `v` is read back wherever its text stands: from any text that holds its bytes from `i` on,
followed by the end or a byte that ends a number, a value read at `i` with depth `d` left and
more fuel than its bytes is `v`, and only blanks stand between where the reading stops and the
byte after its text. -/
def ReadsAt (d : Nat) (v : Json) : Prop :=
  ∀ (r : Reader) (i f : Nat), r.Spells i (bytesOf v.render) →
    r.Ends (i + (bytesOf v.render).length) → (bytesOf v.render).length < f →
    ∃ j, r.value f d i = .ok (v, j) ∧ r.skipBlanks j = i + (bytesOf v.render).length

open Reader

theorem readsAt_null (d : Nat) : ReadsAt d .null := by
  intro r i f hsp hend hf
  have hb : bytesOf Json.null.render = [110, 117, 108, 108] := rfl
  rw [hb] at hsp hend hf ⊢
  obtain ⟨g, rfl⟩ : ∃ g, f = g + 1 := ⟨f - 1, by omega⟩
  obtain ⟨hn, hw⟩ := spells_cons.1 hsp
  refine ⟨i + 4, ?_, hend.skipBlanks⟩
  rw [value, skipBlanks_of_at hn (by decide), hn]
  simp only
  rw [if_pos (by decide), ident_spells hw]
  rfl

theorem readsAt_bool (d : Nat) (b : Bool) : ReadsAt d (.bool b) := by
  intro r i f hsp hend hf
  obtain ⟨g, rfl⟩ : ∃ g, f = g + 1 := ⟨f - 1, by omega⟩
  cases b with
  | true =>
    have hb : bytesOf (Json.bool true).render = [116, 114, 117, 101] := rfl
    rw [hb] at hsp hend ⊢
    obtain ⟨ht, hw⟩ := spells_cons.1 hsp
    refine ⟨i + 4, ?_, hend.skipBlanks⟩
    rw [value, skipBlanks_of_at ht (by decide), ht]
    simp only
    rw [if_neg (by decide), if_pos (by decide), ident_spells hw]
    rfl
  | false =>
    have hb : bytesOf (Json.bool false).render = [102, 97, 108, 115, 101] := rfl
    rw [hb] at hsp hend ⊢
    obtain ⟨hf', hw⟩ := spells_cons.1 hsp
    refine ⟨i + 5, ?_, hend.skipBlanks⟩
    rw [value, skipBlanks_of_at hf' (by decide), hf']
    simp only
    rw [if_neg (by decide), if_neg (by decide), if_pos (by decide), ident_spells hw]
    rfl

theorem readsAt_str (d : Nat) (s : String) : ReadsAt d (.str s) := by
  intro r i f hsp hend hf
  rw [render] at hsp hend ⊢
  obtain ⟨g, rfl⟩ : ∃ g, f = g + 1 := ⟨f - 1, by omega⟩
  have h34 : r.at? i = some 34 := at?_quote hsp
  refine ⟨_, ?_, hend.skipBlanks⟩
  rw [value, skipBlanks_of_at h34 (by decide), h34]
  simp only
  rw [if_neg (by decide), if_neg (by decide), if_neg (by decide), if_neg (by decide),
    if_neg (by decide), if_pos (by decide), string_jsonQuote s hsp]
  rfl

/-- A number is read where it is written when its own text reads back as it. -/
theorem readsAt_num (d : Nat) {n : Number} (hn : n.ReadsBack) : ReadsAt d (.num n) := by
  intro r i f hsp hend hf
  rw [render] at hsp hend ⊢
  obtain ⟨g, rfl⟩ : ∃ g, f = g + 1 := ⟨f - 1, by omega⟩
  have hfr : Frames ⟨n.render.toUTF8⟩ r i := by
    refine ⟨?_, fun b hb => hend b ?_⟩
    · show r.Spells i n.render.toUTF8.data.toList
      rwa [toUTF8_data_toList]
    · rwa [← size_toUTF8]
  obtain ⟨j, hv, hj⟩ := value_of_parse hn hfr g d
  exact ⟨j, hv, by rw [hj, size_toUTF8]⟩

/-! ### Arrays -/

namespace Reader

variable {r : Reader}

/-- After an element come a comma or the closing bracket, and no number goes on over either. -/
theorem ends_elems {xs : List Json} {p : Nat} (h : r.Spells p (elemsBytes xs ++ [93])) :
    r.Ends p := by
  cases xs with
  | nil => exact ends_of_at (spells_cons.1 h).1 (by unfold EndsNumber; decide)
  | cons x xs => exact ends_of_at (spells_cons.1 h).1 (by unfold EndsNumber; decide)

/-- The elements after the first are read one after another up to the closing bracket, each
added to those read before. -/
theorem elements_rest {d : Nat} : ∀ {xs : List Json}, (∀ x ∈ xs, ReadsAt d x) →
    ∀ {acc : List Json} {i f : Nat}, r.Spells i (elemsBytes xs ++ [93]) →
    (elemsBytes xs).length < f →
    r.elements f d false acc i = .ok (acc.reverse ++ xs, i + (elemsBytes xs).length + 1)
  | [], _, acc, i, f, hsp, hf => by
    obtain ⟨g, rfl⟩ : ∃ g, f = g + 1 := ⟨f - 1, by omega⟩
    have h93 : r.at? i = some 93 := (spells_cons.1 hsp).1
    rw [elements, skipBlanks_of_at h93 (by decide), h93]
    simp
  | x :: xs, hxs, acc, i, f, hsp, hf => by
    obtain ⟨g, rfl⟩ : ∃ g, f = g + 1 := ⟨f - 1, by omega⟩
    rw [elemsBytes_cons, List.cons_append, spells_cons, List.append_assoc, spells_append] at hsp
    obtain ⟨h44, hx, hrest⟩ := hsp
    have hlen : (elemsBytes (x :: xs)).length =
        (bytesOf x.render).length + (elemsBytes xs).length + 1 := by
      simp only [elemsBytes_cons, List.length_cons, List.length_append]
    obtain ⟨j, hv, hj⟩ :=
      hxs x (List.mem_cons_self ..) r (i + 1) g hx (ends_elems hrest) (by omega)
    obtain ⟨h, rfl⟩ : ∃ h, g = h + 1 := ⟨g - 1, by omega⟩
    obtain ⟨c, hc, hc93⟩ := value_ok_at hv
    rw [elements, skipBlanks_of_at h44 (by decide), h44]
    simp only
    rw [if_neg (by decide), if_neg (by decide), if_pos (by decide)]
    split
    · next heq => exact absurd (Option.some.inj (hc.symm.trans heq)) hc93
    · next heq => rw [hc] at heq; cases heq
    · rw [value_skipBlanks, hv]
      simp only
      rw [← elements_skipBlanks, hj,
        elements_rest (fun y hy => hxs y (List.mem_cons_of_mem _ hy)) hrest (by omega),
        List.reverse_cons, List.append_assoc, List.singleton_append, hlen]
      congr 3
      omega

/-- The elements of an array, read from just after its opening bracket. -/
theorem elements_all {d : Nat} {xs : List Json} (hxs : ∀ x ∈ xs, ReadsAt d x) {i f : Nat}
    (hsp : r.Spells i (bytesOf (renderElems xs) ++ [93]))
    (hf : (bytesOf (renderElems xs)).length + 1 < f) :
    r.elements f d true [] i = .ok (xs, i + (bytesOf (renderElems xs)).length + 1) := by
  obtain ⟨g, rfl⟩ : ∃ g, f = g + 1 := ⟨f - 1, by omega⟩
  cases xs with
  | nil =>
    have h93 : r.at? i = some 93 := (spells_cons.1 hsp).1
    rw [elements, skipBlanks_of_at h93 (by decide), h93]
    simp [renderElems]
  | cons x xs =>
    rw [bytesOf_renderElems_cons] at hsp hf ⊢
    rw [List.append_assoc, spells_append] at hsp
    obtain ⟨hx, hrest⟩ := hsp
    obtain ⟨j, hv, hj⟩ :=
      hxs x (List.mem_cons_self ..) r i g hx (ends_elems hrest) (by simp at hf; omega)
    obtain ⟨h, rfl⟩ : ∃ h, g = h + 1 := ⟨g - 1, by omega⟩
    obtain ⟨c, hc, hc93⟩ := value_ok_at hv
    rw [elements, hc]
    simp only
    rw [if_neg (by simpa using hc93), if_pos trivial, value_skipBlanks, hv]
    simp only
    rw [← elements_skipBlanks, hj,
      elements_rest (fun y hy => hxs y (List.mem_cons_of_mem _ hy)) hrest (by simp at hf; omega)]
    simp only [List.reverse_singleton, List.singleton_append, List.length_append]
    congr 3
    omega

end Reader

theorem readsAt_arr {d : Nat} {xs : List Json} (hd : 1 < d) (hxs : ∀ x ∈ xs, ReadsAt (d - 1) x) :
    ReadsAt d (.arr xs) := by
  intro r i f hsp hend hf
  rw [bytesOf_render_arr] at hsp hend hf ⊢
  obtain ⟨h91, hsp⟩ := spells_cons.1 hsp
  obtain ⟨g, rfl⟩ : ∃ g, f = g + 1 := ⟨f - 1, by omega⟩
  refine ⟨_, ?_, hend.skipBlanks⟩
  rw [value_at_bracket h91, if_neg (by omega), elements_all hxs hsp (by simp at hf; omega)]
  simp only [Except.map, List.length_cons, List.length_append, List.length_nil]
  congr 2
  omega

/-! ### Objects -/

namespace Reader

variable {r : Reader}

/-- After a member come a comma or the closing brace. -/
theorem ends_fields {fs : Fields} {p : Nat} (h : r.Spells p (fieldsBytes fs ++ [125])) :
    r.Ends p := by
  cases fs with
  | nil => exact ends_of_at (spells_cons.1 h).1 (by unfold EndsNumber; decide)
  | cons kv fs => exact ends_of_at (spells_cons.1 h).1 (by unfold EndsNumber; decide)

/-- One member: its key quoted from `p` on, a colon and its value. The member is set in the
members read before, and reading goes on from where the value's text ends. -/
theorem member_eq {d : Nat} {k : String} {v : Json} (hv : ReadsAt d v) {pre : Fields}
    {p f : Nat} (hsp : r.Spells p (bytesOf (jsonQuote k) ++ 58 :: bytesOf v.render))
    (hend : r.Ends (p + (bytesOf (jsonQuote k)).length + 1 + (bytesOf v.render).length))
    (hf : (bytesOf v.render).length < f) :
    r.member (f + 1) d pre (p + 1) = r.members f d false (Fields.insert k v pre)
      (p + (bytesOf (jsonQuote k)).length + 1 + (bytesOf v.render).length) := by
  rw [spells_append, spells_cons] at hsp
  obtain ⟨hk, h58, hval⟩ := hsp
  obtain ⟨j, hv, hj⟩ := hv r _ f hval hend hf
  obtain ⟨g, rfl⟩ : ∃ g, f = g + 1 := ⟨f - 1, by omega⟩
  rw [member, string_jsonQuote k hk]
  simp only
  rw [skipBlanks_of_at h58 (by decide), h58]
  simp only
  rw [if_neg (by decide), hv]
  simp only
  rw [← members_skipBlanks, hj]

/-- The members after the first are read one after another up to the closing brace. Their keys
come in order, so each is set after those read before. -/
theorem members_rest {d : Nat} : ∀ {rest : Fields}, (∀ kv ∈ rest, ReadsAt d kv.2) →
    ∀ {pre : Fields} {i f : Nat}, (pre ++ rest).Ordered → r.Spells i (fieldsBytes rest ++ [125]) →
    (fieldsBytes rest).length < f →
    r.members f d false pre i = .ok (pre ++ rest, i + (fieldsBytes rest).length + 1)
  | [], _, pre, i, f, _, hsp, hf => by
    obtain ⟨g, rfl⟩ : ∃ g, f = g + 1 := ⟨f - 1, by omega⟩
    have h125 : r.at? i = some 125 := (spells_cons.1 hsp).1
    rw [members, skipBlanks_of_at h125 (by decide), h125]
    simp
  | (k, v) :: rest, hfs, pre, i, f, hord, hsp, hf => by
    obtain ⟨g, rfl⟩ : ∃ g, f = g + 1 := ⟨f - 1, by omega⟩
    rw [fieldsBytes_cons, List.cons_append, spells_cons, List.append_assoc, spells_append] at hsp
    obtain ⟨h44, hkv, hrest⟩ := hsp
    have hq := two_le_length_jsonQuote k
    have hlen : (fieldsBytes ((k, v) :: rest)).length = (bytesOf (jsonQuote k)).length + 1 +
        (bytesOf v.render).length + (fieldsBytes rest).length + 1 := by
      simp only [fieldsBytes_cons, List.length_cons, List.length_append]
      omega
    have h34 : r.at? (i + 1) = some 34 := at?_quote (spells_append.1 hkv).1
    have hpos : i + 1 + (bytesOf (jsonQuote k) ++ 58 :: bytesOf v.render).length =
        i + 1 + (bytesOf (jsonQuote k)).length + 1 + (bytesOf v.render).length := by
      simp only [List.length_append, List.length_cons]
      omega
    rw [hpos] at hrest
    obtain ⟨h, rfl⟩ : ∃ h, g = h + 1 := ⟨g - 1, by omega⟩
    have hkeys : List.Pairwise (· < ·) (pre.map Prod.fst ++ k :: rest.map Prod.fst) := by
      have h := hord
      rw [Fields.Ordered, List.map_append, List.map_cons] at h
      exact h
    have hlt : ∀ k' ∈ pre.map Prod.fst, k' < k := fun k' hk' =>
      (List.pairwise_append.1 hkeys).2.2 k' hk' k (List.mem_cons_self ..)
    have hv : ReadsAt d v := hfs (k, v) (List.mem_cons_self ..)
    rw [members_next h44 h34, member_eq hv hkv (ends_fields hrest) (by omega),
      Fields.insert_of_lt hlt,
      members_rest (fun kv hkv => hfs kv (List.mem_cons_of_mem _ hkv))
        (by rwa [List.append_assoc, List.singleton_append]) hrest (by omega),
      List.append_assoc, List.singleton_append, hlen]
    simp only [Except.ok.injEq, Prod.mk.injEq, true_and]
    omega

/-- The members of an object, read from just after its opening brace. -/
theorem members_all {d : Nat} {fs : Fields} (hfs : ∀ kv ∈ fs, ReadsAt d kv.2) (hord : fs.Ordered)
    {i f : Nat} (hsp : r.Spells i (bytesOf (renderFields fs) ++ [125]))
    (hf : (bytesOf (renderFields fs)).length + 1 < f) :
    r.members f d true [] i = .ok (fs, i + (bytesOf (renderFields fs)).length + 1) := by
  obtain ⟨g, rfl⟩ : ∃ g, f = g + 1 := ⟨f - 1, by omega⟩
  cases fs with
  | nil =>
    have h125 : r.at? i = some 125 := (spells_cons.1 hsp).1
    rw [members, skipBlanks_of_at h125 (by decide), h125]
    simp [renderFields]
  | cons kv rest =>
    obtain ⟨k, v⟩ := kv
    rw [bytesOf_renderFields_cons] at hsp hf ⊢
    rw [List.append_assoc, spells_append] at hsp
    obtain ⟨hkv, hrest⟩ := hsp
    have hq := two_le_length_jsonQuote k
    have h34 : r.at? i = some 34 := at?_quote (spells_append.1 hkv).1
    have hlen : (bytesOf (jsonQuote k) ++ 58 :: bytesOf v.render).length =
        (bytesOf (jsonQuote k)).length + 1 + (bytesOf v.render).length := by
      simp only [List.length_append, List.length_cons]
      omega
    rw [hlen, ← Nat.add_assoc, ← Nat.add_assoc] at hrest
    simp only [List.length_append, hlen] at hf ⊢
    obtain ⟨h, rfl⟩ : ∃ h, g = h + 1 := ⟨g - 1, by omega⟩
    have hv : ReadsAt d v := hfs (k, v) (List.mem_cons_self ..)
    rw [members_first h34, member_eq hv hkv (ends_fields hrest) (by omega)]
    rw [show Fields.insert k v [] = [] ++ [(k, v)] from rfl,
      members_rest (fun kv hkv => hfs kv (List.mem_cons_of_mem _ hkv)) hord hrest (by omega)]
    simp only [List.nil_append, List.singleton_append, Except.ok.injEq, Prod.mk.injEq, true_and]
    omega

end Reader

theorem readsAt_obj {d : Nat} {fs : Fields} (hd : 1 < d) (hord : fs.Ordered)
    (hfs : ∀ kv ∈ fs, ReadsAt (d - 1) kv.2) : ReadsAt d (.obj fs) := by
  intro r i f hsp hend hf
  rw [bytesOf_render_obj] at hsp hend hf ⊢
  obtain ⟨h123, hsp⟩ := spells_cons.1 hsp
  obtain ⟨g, rfl⟩ : ∃ g, f = g + 1 := ⟨f - 1, by omega⟩
  refine ⟨_, ?_, hend.skipBlanks⟩
  rw [value_at_brace h123, if_neg (by omega), members_all hfs hord hsp (by simp at hf; omega)]
  simp only [Except.map, List.length_cons, List.length_append, List.length_nil, Except.ok.injEq,
    Prod.mk.injEq, true_and]
  omega

/-- A readable value is read back wherever its text stands, by induction over the value: each
element and member is read where it stands in the text of its array or object. -/
theorem Readable.readsAt {d : Nat} {v : Json} (h : Readable d v) : ReadsAt d v := by
  induction h with
  | null => exact readsAt_null _
  | bool b => exact readsAt_bool _ b
  | num hn => exact readsAt_num _ hn
  | str s => exact readsAt_str _ s
  | arr hd _ ih => exact readsAt_arr hd ih
  | obj hd ho _ ih => exact readsAt_obj hd ho ih

/-- The text of a value that the reader can take back reads back as the value. -/
theorem parse_render {v : Json} (hv : Readable Reader.depthLimit v) :
    Json.parse v.render = .ok v := by
  let t : Reader := ⟨v.render.toUTF8⟩
  have hsize : t.bytes.size = (bytesOf v.render).length := size_toUTF8 _
  have hend : t.Ends (0 + (bytesOf v.render).length) := fun b hb => by
    rw [Nat.zero_add, at?_self_end] at hb
    cases hb
  obtain ⟨j, hval, hj⟩ := hv.readsAt t 0 t.fuel (spells_self _) hend (by
    rw [fuel, hsize]
    omega)
  unfold Json.parse
  simp only
  rw [hval]
  simp only
  rw [if_neg (by rw [hj, Nat.zero_add, ← hsize]; exact Nat.lt_irrefl _)]

end ChangeRelay.Json
