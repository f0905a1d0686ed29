import ChangeRelay.Json.Basic
import Mathlib.Data.String.Basic

/-!
# Members of objects

An object holds its members in strictly increasing key order (`Json.Fields.Ordered`). The mappers
build objects by setting members one after another (`Json.Fields.insert`, `Json.Fields.ofList`)
and read them by key (`Json.Fields.get?`). This module says what these come to:

* a lookup by key is `List.lookup` (`Fields.get?_eq_lookup`), and of the members set one after
  another the one set last is found (`Fields.get?_ofList`);
* setting a member keeps the order (`Fields.Ordered.insert`), so every object built from nothing
  is ordered (`Fields.ordered_ofList`);
* two ordered objects with the same lookups are the same object (`Fields.ext_get?`).
-/

namespace ChangeRelay.Json

/-- Members in strictly increasing key order, so one member per key. -/
def Fields.Ordered (fs : Fields) : Prop := (fs.map Prod.fst).Pairwise (· < ·)

namespace Fields

@[simp] theorem ordered_nil : Ordered [] := List.Pairwise.nil

theorem ordered_cons {k : String} {v : Json} {fs : Fields} :
    Ordered ((k, v) :: fs) ↔ (∀ k' ∈ fs.map Prod.fst, k < k') ∧ fs.Ordered := by
  simp [Ordered]

@[simp] theorem get?_nil (k : String) : get? k [] = none := rfl

theorem get?_cons (k k' : String) (v : Json) (fs : Fields) :
    get? k ((k', v) :: fs) = if k = k' then some v else get? k fs := rfl

/-- A lookup by key finds the first member of that key. -/
theorem get?_eq_lookup (k : String) (fs : Fields) : get? k fs = fs.lookup k := by
  induction fs with
  | nil => rfl
  | cons m rest ih =>
    obtain ⟨k', v⟩ := m
    by_cases h : k = k'
    · subst h
      simp [get?_cons]
    · simp [get?_cons, List.lookup_cons, h, beq_false_of_ne h, ih]

theorem mem_keys_of_get? {k : String} {v : Json} {fs : Fields} (h : get? k fs = some v) :
    k ∈ fs.map Prod.fst := by
  induction fs with
  | nil => cases h
  | cons m rest ih =>
    obtain ⟨k', v'⟩ := m
    by_cases hk : k = k'
    · simp [hk]
    · rw [get?_cons, if_neg hk] at h
      exact List.mem_cons_of_mem _ (ih h)

theorem get?_eq_none_of_not_mem {k : String} {fs : Fields} (h : k ∉ fs.map Prod.fst) :
    get? k fs = none := by
  cases hg : get? k fs with
  | none => rfl
  | some v => exact absurd (mem_keys_of_get? hg) h

/-- In an ordered object a member is what the lookup of its key finds. -/
theorem get?_of_mem {k : String} {v : Json} :
    ∀ {fs : Fields}, Fields.Ordered fs → (k, v) ∈ fs → get? k fs = some v
  | [], _, h => nomatch h
  | (k', v') :: rest, hfs, h => by
    rw [ordered_cons] at hfs
    rcases List.mem_cons.1 h with heq | h
    · cases heq
      simp [get?_cons]
    · have hlt : k' < k := hfs.1 k (List.mem_map_of_mem (f := Prod.fst) h)
      rw [get?_cons, if_neg (ne_of_gt hlt)]
      exact get?_of_mem hfs.2 h

/-- Setting member `k'` changes the lookup of `k'` alone. -/
theorem get?_insert (k k' : String) (v : Json) (fs : Fields) :
    get? k (insert k' v fs) = if k = k' then some v else get? k fs := by
  induction fs with
  | nil => rfl
  | cons m rest ih =>
    obtain ⟨k'', v''⟩ := m
    simp only [insert]
    split
    · rfl
    · split
      · next heq =>
        subst heq
        by_cases h : k = k' <;> simp [get?_cons, h]
      · next hne =>
        rw [get?_cons, ih, get?_cons]
        by_cases h : k = k''
        · subst h
          simp [Ne.symm hne]
        · simp [h]

/-- Members set one after another: the lookup finds the one set last. -/
theorem get?_foldl_insert (k : String) (kvs : List (String × Json)) (acc : Fields) :
    get? k (kvs.foldl (fun acc kv => insert kv.1 kv.2 acc) acc) =
      (kvs.reverse.lookup k).or (get? k acc) := by
  induction kvs generalizing acc with
  | nil => simp
  | cons kv rest ih =>
    obtain ⟨k', v⟩ := kv
    rw [List.foldl_cons, ih, get?_insert, List.reverse_cons, List.lookup_append, Option.or_assoc]
    by_cases h : k = k'
    · subst h
      simp
    · simp [List.lookup_cons, h, beq_false_of_ne h]

/-- Of two pairs with one key, the later one is found. -/
theorem get?_ofList (k : String) (kvs : List (String × Json)) :
    get? k (ofList kvs) = kvs.reverse.lookup k := by
  rw [ofList, get?_foldl_insert]
  simp

/-- The keys after setting a member: its key and the keys before. -/
theorem mem_keys_insert (k x : String) (v : Json) (fs : Fields) :
    x ∈ (insert k v fs).map Prod.fst ↔ x = k ∨ x ∈ fs.map Prod.fst := by
  induction fs with
  | nil => simp [insert]
  | cons m rest ih =>
    obtain ⟨k', v'⟩ := m
    simp only [insert]
    split
    · simp
    · split
      · next heq => subst heq; simp
      · simp only [List.map_cons, List.mem_cons, ih]
        exact or_left_comm

/-- A member after setting one is the member set or a member from before. -/
theorem mem_insert {k : String} {v : Json} {kv : String × Json} :
    ∀ {fs : Fields}, kv ∈ insert k v fs → kv = (k, v) ∨ kv ∈ fs
  | [], h => by simpa [insert] using h
  | (k', v') :: rest, h => by
    simp only [insert] at h
    split at h
    · rcases List.mem_cons.1 h with rfl | h
      · exact .inl rfl
      · exact .inr h
    · split at h
      · rcases List.mem_cons.1 h with rfl | h
        · exact .inl rfl
        · exact .inr (List.mem_cons_of_mem _ h)
      · rcases List.mem_cons.1 h with rfl | h
        · exact .inr (List.mem_cons_self ..)
        · rcases mem_insert h with h | h
          · exact .inl h
          · exact .inr (List.mem_cons_of_mem _ h)

/-- The members of an object built from pairs are among the pairs. -/
theorem mem_ofList {kv : String × Json} {kvs : List (String × Json)} (h : kv ∈ ofList kvs) :
    kv ∈ kvs := by
  suffices hacc : ∀ acc : Fields,
      kv ∈ kvs.foldl (fun acc kv => insert kv.1 kv.2 acc) acc → kv ∈ acc ∨ kv ∈ kvs from
    (hacc [] h).resolve_left List.not_mem_nil
  clear h
  induction kvs with
  | nil => exact fun _ h => .inl h
  | cons p rest ih =>
    intro acc h
    rcases ih _ h with h | h
    · rcases mem_insert h with rfl | h
      · exact .inr (List.mem_cons_self ..)
      · exact .inl h
    · exact .inr (List.mem_cons_of_mem _ h)

/-- Setting a member keeps the members in key order. -/
theorem Ordered.insert (k : String) (v : Json) :
    ∀ {fs : Fields}, fs.Ordered → (Fields.insert k v fs).Ordered
  | [], _ => by simp [Fields.insert, Ordered]
  | (k', v') :: rest, h => by
    rw [ordered_cons] at h
    simp only [Fields.insert]
    split
    · next hlt =>
      refine ordered_cons.2 ⟨fun x hx => ?_, ordered_cons.2 h⟩
      rcases List.mem_cons.1 hx with rfl | hx
      · exact hlt
      · exact lt_trans hlt (h.1 x hx)
    · split
      · next heq => subst heq; exact ordered_cons.2 h
      · next hnlt hne =>
        have hk'k : k' < k := lt_of_le_of_ne (not_lt.1 hnlt) (Ne.symm hne)
        refine ordered_cons.2 ⟨fun x hx => ?_, Ordered.insert k v h.2⟩
        rcases (mem_keys_insert k x v rest).1 hx with rfl | hx
        · exact hk'k
        · exact h.1 x hx

/-- Members set one after another from nothing are in key order. -/
theorem ordered_ofList (kvs : List (String × Json)) : Fields.Ordered (ofList kvs) := by
  suffices h : ∀ acc : Fields, Fields.Ordered acc →
      Fields.Ordered (kvs.foldl (fun acc kv => insert kv.1 kv.2 acc) acc) from h [] ordered_nil
  induction kvs with
  | nil => exact fun _ h => h
  | cons kv rest ih => exact fun acc h => ih _ (h.insert kv.1 kv.2)

/-- Two ordered objects with the same lookups are the same object. -/
theorem ext_get? : ∀ {fs gs : Fields}, Fields.Ordered fs → Fields.Ordered gs →
    (∀ k, get? k fs = get? k gs) → fs = gs
  | [], [], _, _, _ => rfl
  | [], (k, v) :: gs, _, _, h => by simpa [get?_cons] using (h k).symm
  | (k, v) :: fs, [], _, _, h => by simpa [get?_cons] using h k
  | (k, v) :: fs, (k', v') :: gs, hf, hg, h => by
    rw [ordered_cons] at hf hg
    have hk : k = k' := by
      refine Decidable.byContradiction fun hne => ?_
      have h1 := h k
      have h2 := (h k').symm
      rw [get?_cons, get?_cons, if_pos rfl, if_neg hne] at h1
      rw [get?_cons, get?_cons, if_pos rfl, if_neg (Ne.symm hne)] at h2
      exact lt_asymm (hg.1 k (mem_keys_of_get? h1.symm)) (hf.1 k' (mem_keys_of_get? h2.symm))
    subst hk
    have hv : v = v' := by simpa [get?_cons] using h k
    subst hv
    congr 1
    refine ext_get? hf.2 hg.2 fun x => ?_
    by_cases hx : x = k
    · subst hx
      rw [get?_eq_none_of_not_mem (fun hm => lt_irrefl _ (hf.1 x hm)),
        get?_eq_none_of_not_mem (fun hm => lt_irrefl _ (hg.1 x hm))]
    · simpa [get?_cons, hx] using h x

end Fields

end ChangeRelay.Json
