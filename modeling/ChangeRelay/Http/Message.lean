import ChangeRelay.Json.Basic
import ChangeRelay.Http.MediaType

/-!
# Requests and responses

A request has a method, a target (a path, maybe with a query), a content type and a body. A
response has a status, a content type and a body: nothing, text, a JSON document, or JSON lines
streamed one value at a time, where the stream may break off after some lines with an error.

Routing looks at the target's path only: what comes before `?` or `#`, split at its slashes.
A path segment is percent-decoded (`%` and two hex digits stand for a byte; any other `%` stands
for itself) and must then be UTF-8.
-/

namespace ChangeRelay.Http

/-- An HTTP request. -/
structure Request where
  method : String
  target : String
  contentType : Option String := none
  body : String := ""
  deriving Inhabited

/-- The body of a response. -/
inductive Body where
  | empty
  | text (s : String)
  | json (j : Json)
  /-- JSON lines, and the error that broke the stream off, if one did. -/
  | lines (items : List Json) (broken : Option String)
  deriving Inhabited

/-- An HTTP response. -/
structure Response where
  status : Nat
  contentType : Option String
  body : Body
  deriving Inhabited

namespace Response

/-- A response with no body. -/
def bare (status : Nat) : Response := ⟨status, none, .empty⟩

/-- A JSON document. -/
def json (status : Nat) (j : Json) : Response := ⟨status, some "application/json", .json j⟩

/-- Plain text. -/
def text (status : Nat) (s : String) : Response := ⟨status, some "text/plain; charset=utf-8", .text s⟩

/-- JSON lines, maybe broken off by an error. -/
def lines (items : List Json) (broken : Option String) : Response :=
  ⟨200, some "application/x-ndjson", .lines items broken⟩

end Response

/-- The path of a request target: what stands before its query or fragment. -/
def pathOf (target : String) : String :=
  String.ofList (target.toList.takeWhile fun c => c != '?' && c != '#')

/-- The segments of a path that starts with a slash: the parts between slashes. -/
def segmentsOf (path : String) : Option (List String) :=
  match path.toList with
  | '/' :: rest => some ((String.ofList rest).splitOn "/")
  | _ => none

/-- The value of a hex digit. -/
def hexValue (b : UInt8) : Option Nat :=
  if 48 ≤ b && b ≤ 57 then some (b.toNat - 48)
  else if 65 ≤ b && b ≤ 70 then some (b.toNat - 55)
  else if 97 ≤ b && b ≤ 102 then some (b.toNat - 87)
  else none

/-- Percent-decodes bytes: `%` and two hex digits stand for a byte, any other `%` for itself. -/
def percentDecode : List UInt8 → List UInt8
  | 37 :: h :: l :: rest =>
    match hexValue h, hexValue l with
    | some a, some b => UInt8.ofNat (16 * a + b) :: percentDecode rest
    | _, _ => 37 :: percentDecode (h :: l :: rest)
  | b :: rest => b :: percentDecode rest
  | [] => []

/-- A path segment percent-decoded, if the bytes are UTF-8. -/
def decodeSegment (s : String) : Option String :=
  String.fromUTF8? ⟨(percentDecode s.toUTF8.toList).toArray⟩

theorem percentDecode_plain (bs : List UInt8) (h : ∀ b ∈ bs, b ≠ 37) : percentDecode bs = bs := by
  induction bs with
  | nil => rfl
  | cons b rest ih =>
    have hb : b ≠ 37 := h b (by simp)
    have hr := ih (fun x hx => h x (by simp [hx]))
    match b, rest, hb, hr with
    | b, [], _, _ => simp [percentDecode]
    | b, [x], hb, _ =>
      unfold percentDecode
      split <;> simp_all
    | b, x :: y :: zs, hb, hr =>
      unfold percentDecode
      split <;> simp_all

end ChangeRelay.Http
