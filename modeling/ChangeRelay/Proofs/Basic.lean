import ChangeRelay.Json.Basic

/-!
# Results and members

Small facts the proofs about mapping and about the wire share: how a computation in the `Except`
monad goes on from a value or stops at an error, and how members of nested objects are read.
-/

namespace ChangeRelay

/-- The member at a path of nested objects. -/
def Json.path? (j : Json) : List String → Option Json
  | [] => some j
  | k :: ks => (j.field? k).bind (·.path? ks)

@[simp] theorem Json.path?_nil (j : Json) : j.path? [] = some j := rfl

@[simp] theorem Json.path?_cons (j : Json) (k : String) (ks : List String) :
    j.path? (k :: ks) = (j.field? k).bind (·.path? ks) := rfl

@[simp] theorem Json.field?_obj (fs : Json.Fields) (k : String) :
    (Json.obj fs).field? k = Json.Fields.get? k fs := rfl

theorem Json.bind_str?_eq_some (x : Option Json) (s : String) :
    x.bind Json.str? = some s ↔ x = some (.str s) := by
  cases x with
  | none => simp
  | some v => cases v <;> simp [Json.str?]

@[simp] theorem Except.pure_eq {ε α : Type} (a : α) : (pure a : Except ε α) = .ok a := rfl

@[simp] theorem Except.throw_eq {ε α : Type} (e : ε) : (throw e : Except ε α) = .error e := rfl

@[simp] theorem Except.error_bind {ε α β : Type} (e : ε) (f : α → Except ε β) :
    (Except.error e >>= f) = .error e := rfl

@[simp] theorem Except.ok_bind {ε α β : Type} (a : α) (f : α → Except ε β) :
    (Except.ok a >>= f) = f a := rfl

@[simp] theorem Except.map_error {ε α β : Type} (e : ε) (f : α → β) :
    (f <$> Except.error e) = .error e := rfl

@[simp] theorem Except.map_ok {ε α β : Type} (a : α) (f : α → β) :
    (f <$> (Except.ok a : Except ε α)) = .ok (f a) := rfl

end ChangeRelay
