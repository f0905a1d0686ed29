import ChangeRelay.Proofs.Json.ReadBack

/-!
# Values nested deeper than the reader allows

The reader takes one level of its depth for each bracket and refuses a bracket that finds no more
than one level left, so whether a value reads back depends on how deep it stands. Arrays nested
`k + 1` deep (`Json.nested k`) read back with more than `k + 1` levels left
(`Json.readable_nested`) and are refused with fewer (`Json.refused_nested`), wherever their text
stands (`Json.Refused`). An object is refused when one of its members is, after members that read
back (`Json.refused_obj`): the reader goes through them in order and stops at the first it refuses.
-/

namespace ChangeRelay.Json

/-- Arrays nested `k + 1` deep, the innermost one empty. -/
def nested : Nat → Json
  | 0 => .arr []
  | k + 1 => .arr [nested k]

theorem readable_nested : ∀ (k : Nat) {d : Nat}, k + 1 < d → Readable d (nested k)
  | 0, _, hd => .arr (by omega) (by simp)
  | k + 1, _, hd => .arr (by omega) (by
      intro x hx
      rw [List.mem_singleton] at hx
      exact hx ▸ readable_nested k (by omega))

/-- `v` is refused wherever its text stands: from any text that holds its bytes from `i` on, a
value read at `i` with depth `d` left and more fuel than its bytes is an error. -/
def Refused (d : Nat) (v : Json) : Prop :=
  ∀ (r : Reader) (i f : Nat), r.Spells i (bytesOf v.render) → (bytesOf v.render).length < f →
    ∃ err, r.value f d i = .error err

open Reader

theorem bytesOf_nested_succ (k : Nat) :
    bytesOf (nested (k + 1)).render = 91 :: (bytesOf (nested k).render ++ [93]) := by
  rw [nested, bytesOf_render_arr, bytesOf_renderElems_cons, elemsBytes_nil, List.append_nil]

/-- A bracket that finds no more than one level left is refused. -/
theorem refused_arr_depth {d : Nat} (hd : d ≤ 1) (xs : List Json) : Refused d (.arr xs) := by
  intro r i f hsp hf
  rw [bytesOf_render_arr] at hsp hf
  obtain ⟨g, rfl⟩ : ∃ g, f = g + 1 := ⟨f - 1, by omega⟩
  have h91 := (spells_cons.1 hsp).1
  rw [value_at_bracket h91, if_pos hd]
  exact ⟨_, rfl⟩

/-- Arrays nested `k + 1` deep are refused with at most `k + 1` levels left: each bracket takes
one, and the innermost finds no more than one. -/
theorem refused_nested : ∀ (k : Nat) {d : Nat}, d ≤ k + 1 → Refused d (nested k)
  | 0, _, hd => refused_arr_depth hd []
  | k + 1, d, hd => by
    rcases Nat.lt_or_ge 1 d with h1 | h1
    · intro r i f hsp hf
      rw [bytesOf_nested_succ] at hsp hf
      obtain ⟨h91, hsp⟩ := spells_cons.1 hsp
      have hin := (spells_append.1 hsp).1
      have h91' : r.at? (i + 1) = some 91 := by
        cases k with
        | zero => exact (spells_cons.1 hin).1
        | succ k =>
          rw [bytesOf_nested_succ] at hin
          exact (spells_cons.1 hin).1
      obtain ⟨h, rfl⟩ : ∃ h, f = h + 1 + 1 := ⟨f - 2, by simp at hf; omega⟩
      obtain ⟨err, herr⟩ := refused_nested k (d := d - 1) (by omega) r (i + 1) h hin
        (by simp at hf; omega)
      refine ⟨err, ?_⟩
      rw [value_at_bracket h91, if_neg (by omega), elements, skipBlanks_of_at h91' (by decide),
        h91']
      simp only
      rw [if_neg (by decide), if_pos trivial, herr]
      rfl
    · exact refused_arr_depth h1 _

namespace Reader

variable {r : Reader}

/-- A member whose value is refused fails. -/
theorem member_refused {d : Nat} {k : String} {v : Json} (hv : Refused d v) {acc : Fields}
    {p f : Nat} (hsp : r.Spells p (bytesOf (jsonQuote k) ++ 58 :: bytesOf v.render))
    (hf : (bytesOf v.render).length < f) : ∃ err, r.member (f + 1) d acc (p + 1) = .error err := by
  rw [spells_append, spells_cons] at hsp
  obtain ⟨hk, h58, hval⟩ := hsp
  obtain ⟨err, herr⟩ := hv r _ f hval hf
  refine ⟨err, ?_⟩
  rw [member, string_jsonQuote k hk]
  simp only
  rw [skipBlanks_of_at h58 (by decide), h58]
  simp only
  rw [if_neg (by decide), herr]

/-- Members after the first fail at the first member whose value is refused, when the members
before it read back. -/
theorem members_refused {d : Nat} {k : String} {v : Json} (hv : Refused d v) :
    ∀ {pre : Fields}, (∀ kv ∈ pre, ReadsAt d kv.2) → ∀ {rest acc : Fields} {i f : Nat},
    r.Spells i (fieldsBytes (pre ++ (k, v) :: rest) ++ [125]) →
    (fieldsBytes (pre ++ (k, v) :: rest)).length < f →
    ∃ err, r.members f d false acc i = .error err
  | [], _, rest, acc, i, f, hsp, hf => by
    rw [List.nil_append, fieldsBytes_cons, List.cons_append, spells_cons, List.append_assoc,
      spells_append] at hsp
    obtain ⟨h44, hkv, -⟩ := hsp
    have h34 : r.at? (i + 1) = some 34 := at?_quote (spells_append.1 hkv).1
    simp only [List.nil_append, fieldsBytes_cons, List.length_cons, List.length_append] at hf
    obtain ⟨h, rfl⟩ : ∃ h, f = h + 1 + 1 := ⟨f - 2, by omega⟩
    have hq := two_le_length_jsonQuote k
    obtain ⟨err, herr⟩ : ∃ err, r.member (h + 1) d acc (i + 1 + 1) = .error err :=
      member_refused hv hkv (by omega)
    refine ⟨err, ?_⟩
    rw [members_next h44 h34]
    exact herr
  | (k', v') :: pre, hpre, rest, acc, i, f, hsp, hf => by
    rw [List.cons_append, fieldsBytes_cons, List.cons_append, spells_cons, List.append_assoc,
      spells_append] at hsp
    obtain ⟨h44, hkv, hrest⟩ := hsp
    have hq := two_le_length_jsonQuote k'
    have h34 : r.at? (i + 1) = some 34 := at?_quote (spells_append.1 hkv).1
    have hpos : i + 1 + (bytesOf (jsonQuote k') ++ 58 :: bytesOf v'.render).length =
        i + 1 + (bytesOf (jsonQuote k')).length + 1 + (bytesOf v'.render).length := by
      simp only [List.length_append, List.length_cons]
      omega
    rw [hpos] at hrest
    simp only [List.cons_append, fieldsBytes_cons, List.length_cons, List.length_append] at hf
    obtain ⟨h, rfl⟩ : ∃ h, f = h + 1 + 1 := ⟨f - 2, by omega⟩
    have hv' : ReadsAt d v' := hpre (k', v') (List.mem_cons_self ..)
    obtain ⟨err, herr⟩ : ∃ err, r.members h d false (Fields.insert k' v' acc)
        (i + 1 + (bytesOf (jsonQuote k')).length + 1 + (bytesOf v'.render).length) = .error err :=
      members_refused hv (fun kv hkv => hpre kv (List.mem_cons_of_mem _ hkv)) hrest (by omega)
    refine ⟨err, ?_⟩
    rw [members_next h44 h34, member_eq hv' hkv (ends_fields hrest) (by omega), herr]

end Reader

/-- An object is refused when one of its members is, after members that read back. -/
theorem refused_obj {d : Nat} {pre rest : Fields} {k : String} {v : Json} (hd : 1 < d)
    (hpre : ∀ kv ∈ pre, ReadsAt (d - 1) kv.2) (hv : Refused (d - 1) v) :
    Refused d (.obj (pre ++ (k, v) :: rest)) := by
  intro r i f hsp hf
  rw [bytesOf_render_obj] at hsp hf
  obtain ⟨h123, hsp⟩ := spells_cons.1 hsp
  simp only [List.length_cons, List.length_append] at hf
  obtain ⟨g, rfl⟩ : ∃ g, f = g + 1 := ⟨f - 1, by omega⟩
  suffices h : ∃ err, r.members g (d - 1) true [] (i + 1) = .error err by
    obtain ⟨err, herr⟩ := h
    refine ⟨err, ?_⟩
    rw [value_at_brace h123, if_neg (by omega), herr]
    rfl
  cases pre with
  | nil =>
    rw [List.nil_append, bytesOf_renderFields_cons, List.append_assoc, spells_append] at hsp
    have hkv := hsp.1
    have h34 : r.at? (i + 1) = some 34 := at?_quote (spells_append.1 hkv).1
    rw [List.nil_append, bytesOf_renderFields_cons] at hf
    simp only [List.length_append, List.length_cons] at hf
    have hq := two_le_length_jsonQuote k
    obtain ⟨h, rfl⟩ : ∃ h, g = h + 1 + 1 := ⟨g - 2, by omega⟩
    obtain ⟨err, herr⟩ : ∃ err, r.member (h + 1) (d - 1) [] (i + 1 + 1) = .error err :=
      member_refused hv hkv (by omega)
    refine ⟨err, ?_⟩
    rw [members_first h34, herr]
  | cons kv pre =>
    obtain ⟨k0, v0⟩ := kv
    rw [List.cons_append, bytesOf_renderFields_cons, List.append_assoc, spells_append] at hsp
    obtain ⟨hkv, hrest⟩ := hsp
    have hq := two_le_length_jsonQuote k0
    have h34 : r.at? (i + 1) = some 34 := at?_quote (spells_append.1 hkv).1
    have hpos : i + 1 + (bytesOf (jsonQuote k0) ++ 58 :: bytesOf v0.render).length =
        i + 1 + (bytesOf (jsonQuote k0)).length + 1 + (bytesOf v0.render).length := by
      simp only [List.length_append, List.length_cons]
      omega
    rw [hpos] at hrest
    rw [List.cons_append, bytesOf_renderFields_cons] at hf
    simp only [List.length_append, List.length_cons] at hf
    obtain ⟨h, rfl⟩ : ∃ h, g = h + 1 + 1 := ⟨g - 2, by omega⟩
    have hv0 : ReadsAt (d - 1) v0 := hpre (k0, v0) (List.mem_cons_self ..)
    obtain ⟨err, herr⟩ : ∃ err, r.members h (d - 1) false (Fields.insert k0 v0 [])
        (i + 1 + (bytesOf (jsonQuote k0)).length + 1 + (bytesOf v0.render).length) =
          .error err :=
      members_refused hv (fun kv hkv => hpre kv (List.mem_cons_of_mem _ hkv)) hrest (by omega)
    refine ⟨err, ?_⟩
    rw [members_first h34, member_eq hv0 hkv (ends_fields hrest) (by omega), herr]

/-- A text whose value is refused with the reader's whole depth is not read. -/
theorem parse_refused {v : Json} (hv : Refused Reader.depthLimit v) :
    ∃ err, Json.parse v.render = .error err := by
  let t : Reader := ⟨v.render.toUTF8⟩
  have hsize : t.bytes.size = (bytesOf v.render).length := size_toUTF8 _
  obtain ⟨err, herr⟩ := hv t 0 t.fuel (spells_self _) (by
    rw [fuel, hsize]
    omega)
  refine ⟨err, ?_⟩
  unfold Json.parse
  simp only
  rw [herr]

end ChangeRelay.Json
