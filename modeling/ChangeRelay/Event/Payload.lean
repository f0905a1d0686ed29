import ChangeRelay.Json.Text
import ChangeRelay.Time.Rfc3339
import ChangeRelay.Digest.Sha256

/-!
# Ids and times out of payloads

Payloads name entities by a string or by a number (`idText`: a non-empty string as it is, a
number as JSON writes it), carry instants as RFC 3339 text (`instantMillis`: none for a
non-string, an unreadable text, or an instant before the epoch), and name a relation derived
from two endpoints by a digest of both (`edgeId`).
-/

namespace ChangeRelay

/-- The id a value names: a non-empty string, or a number as text. -/
def idText : Json → Option String
  | .str s => if s.isEmpty then none else some s
  | .num n => some n.render
  | _ => none

/-- The instant a value names, in milliseconds since the epoch, when it is an RFC 3339 text at or
after the epoch. -/
def instantMillis : Option Json → Option Nat
  | some (.str s) =>
    match Time.epochMillis s with
    | some ms => if 0 ≤ ms then some ms.toNat else none
    | none => none
  | _ => none

/-- The id of the relation `label` from `start` to `finish`: the first 32 hex digits of the
SHA-256 digest of `start:label:finish`. -/
def edgeId (start label finish : String) : String :=
  String.ofList ((Digest.sha256Hex (start ++ ":" ++ label ++ ":" ++ finish)).toList.take 32)

end ChangeRelay
