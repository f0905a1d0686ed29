/-!
# JSON values

A JSON value as the relay reads and writes it. A number keeps the kind it was read as: an
unsigned integer below `2^64`, a negative integer no smaller than `-2^63`, or a double; the kind
decides how a decoder may use it and how it is written back. An object holds its members in
strictly increasing key order, one member per key (`Json.Fields.insert` keeps both), so members
are looked up, printed and compared in that one order.
-/

namespace ChangeRelay

/-- A JSON number, by the kind it was read as. -/
inductive Number where
  /-- An unsigned integer, below `2^64`. -/
  | nat (n : Nat)
  /-- A negative integer, at least `-2^63`. -/
  | negInt (n : Int)
  /-- A double. -/
  | float (x : Float)
  deriving Inhabited, Repr

/-- A JSON value. -/
inductive Json where
  | null
  | bool (b : Bool)
  | num (n : Number)
  | str (s : String)
  | arr (xs : List Json)
  /-- Members in strictly increasing key order. -/
  | obj (fields : List (String × Json))
  deriving Inhabited, Repr

namespace Json

/-- Members of an object, keyed in increasing order. -/
abbrev Fields := List (String × Json)

/-- Sets member `k` to `v`: a member of that key is replaced, otherwise `k` goes where its order
puts it. -/
def Fields.insert (k : String) (v : Json) : Fields → Fields
  | [] => [(k, v)]
  | (k', v') :: rest =>
    if k < k' then (k, v) :: (k', v') :: rest
    else if k = k' then (k, v) :: rest
    else (k', v') :: Fields.insert k v rest

/-- The value of member `k`, if there is one. -/
def Fields.get? (k : String) : Fields → Option Json
  | [] => none
  | (k', v) :: rest => if k = k' then some v else Fields.get? k rest

/-- Removes member `k`. -/
def Fields.erase (k : String) : Fields → Fields
  | [] => []
  | (k', v) :: rest => if k = k' then rest else (k', v) :: Fields.erase k rest

/-- Builds members from pairs in any order; of two pairs with one key the later wins. -/
def Fields.ofList (kvs : List (String × Json)) : Fields :=
  kvs.foldl (fun acc kv => Fields.insert kv.1 kv.2 acc) []

/-- An object from pairs in any order; of two pairs with one key the later wins. -/
def mkObj (kvs : List (String × Json)) : Json := .obj (Fields.ofList kvs)

/-- Member `k` of an object; `none` for a missing member and for a value that is no object. -/
def field? (j : Json) (k : String) : Option Json :=
  match j with
  | .obj fs => Fields.get? k fs
  | _ => none

/-- The text of a string value. -/
def str? : Json → Option String
  | .str s => some s
  | _ => none

/-- The truth of a boolean value. -/
def bool? : Json → Option Bool
  | .bool b => some b
  | _ => none

/-- The members of an object value. -/
def obj? : Json → Option Fields
  | .obj fs => some fs
  | _ => none

/-- Whether the value is `null`. -/
def isNull : Json → Bool
  | .null => true
  | _ => false

/-- An unsigned integer value. -/
def ofNat (n : Nat) : Json := .num (.nat n)

/-- A signed integer: unsigned when not below zero. -/
def ofInt (n : Int) : Json := if 0 ≤ n then .num (.nat n.toNat) else .num (.negInt n)

/-- A value of an optional string: `null` when absent. -/
def ofOption (s : Option String) : Json :=
  match s with
  | some s => .str s
  | none => .null

/-- A list of strings as an array. -/
def ofStrings (xs : List String) : Json := .arr (xs.map .str)

theorem Fields.get?_insert_self (k : String) (v : Json) (fs : Fields) :
    Fields.get? k (Fields.insert k v fs) = some v := by
  induction fs with
  | nil => simp [Fields.insert, Fields.get?]
  | cons kv rest ih =>
    obtain ⟨k', v'⟩ := kv
    simp only [Fields.insert]
    by_cases h1 : k < k'
    · simp [h1, Fields.get?]
    · by_cases h2 : k = k'
      · simp [h2, Fields.get?]
      · simp [h1, h2, Fields.get?, ih]

end Json

end ChangeRelay
