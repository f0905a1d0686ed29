import ChangeRelay.Decode.Basic
import ChangeRelay.Error
import ChangeRelay.Json.Basic

/-!
# Commands over JSON

The relay's operations can be driven by JSON commands: a request object names an operation in
`op` and carries its inputs; the answer is a report object, or a refusal. A refusal says whether
the relay itself failed (`RelayError`), a value did not decode as the type wanted, the operation
stopped on a broken invariant (an arithmetic overflow, a negative duration), or the request
itself was malformed.

Options of a request that are absent or `null` take their defaults.
-/

namespace ChangeRelay.Command

/-- Why a command has no report. -/
inductive Refusal where
  | relay (e : RelayError)
  | decode (f : Decode.Fault)
  /-- An operation stopped on a broken invariant. -/
  | halt (message : String)
  | badInput (message : String)

/-- A relay error as a report member. -/
def errorJson (e : RelayError) : Json :=
  Json.mkObj [("error", .str e.kind), ("message", .str e.message)]

/-- An optional relay error as a report member: `null` for none. -/
def outcomeJson : Option RelayError → Json
  | some e => errorJson e
  | none => .null

/-- A refusal as a report. -/
def Refusal.toJson : Refusal → Json
  | .relay e => errorJson e
  | .decode f => Json.mkObj [("error", .str "Deserialize"), ("message", .str (f.message .json))]
  | .halt m => Json.mkObj [("error", .str "panic"), ("message", .str m)]
  | .badInput m => Json.mkObj [("error", .str "BadInput"), ("message", .str m)]

/-- A report, or why there is none. -/
abbrev Answer := Except Refusal Json

/-- A value decoded as the type wanted, a decoding fault refusing the command. -/
def typed (d : Decode.Decoder α) (j : Json) : Except Refusal α :=
  match d j with
  | .ok a => .ok a
  | .error f => .error (.decode f)

/-- A relay result, its error refusing the command. -/
def relayed (r : Except RelayError α) : Except Refusal α :=
  match r with
  | .ok a => .ok a
  | .error e => .error (.relay e)

/-- A member of the request, `null` when absent. -/
def member (req : Json) (k : String) : Json := (req.field? k).getD .null

/-- An option of the request: absent or `null` gives `dflt`. -/
def option (req : Json) (k : String) (d : Decode.Decoder α) (dflt : α) : Except Refusal α :=
  match req.field? k with
  | none | some .null => .ok dflt
  | some j =>
    typed d j

/-- A required input of the request. -/
def input (req : Json) (k : String) (d : Decode.Decoder α) : Except Refusal α :=
  typed d (member req k)

/-- A text member of an object, `""` when absent or not text. -/
def textOf (j : Json) (k : String) : String := ((j.field? k).bind Json.str?).getD ""

/-- A store failure named in a request. -/
def storeFailureOf (name : String) : Except Refusal StoreFailure :=
  match name with
  | "RowNotFound" => .ok .rowNotFound
  | "PoolClosed" => .ok .poolClosed
  | "PoolTimedOut" => .ok .poolTimedOut
  | "WorkerCrashed" => .ok .workerCrashed
  | other => .error (.badInput ("unknown sqlx error '" ++ other ++ "'"))

/-- A relay error described by a request: `{kind, ...}` with the kind's texts as members. -/
def errorOf (spec : Json) : Except Refusal RelayError :=
  match textOf spec "kind" with
  | "Source" => .ok (.source (textOf spec "partition") (textOf spec "message"))
  | "Publish" => .ok (.publish (textOf spec "topic") (textOf spec "message"))
  | "CursorUnavailable" => .ok (.storeUnavailable (textOf spec "key") (textOf spec "message"))
  | "CursorStore" =>
    (fun f => RelayError.store f) <$> storeFailureOf
      (((spec.field? "sqlx").bind Json.str?).getD "RowNotFound")
  | "Mapping" => .ok (.mapping (textOf spec "message"))
  | "Config" => .ok (.config (textOf spec "message"))
  | "Auth" => .ok (.auth (textOf spec "message"))
  | "Bootstrap" => .ok (.bootstrap (textOf spec "message"))
  | "InvalidRequest" => .ok (.invalidRequest (textOf spec "message"))
  | "InvalidState" => .ok (.invalidState (textOf spec "expected") (textOf spec "actual"))
  | "Shutdown" => .ok .shutdown
  | "Internal" => .ok (.internal (textOf spec "message"))
  | other => .error (.badInput ("unknown error kind '" ++ other ++ "'"))

end ChangeRelay.Command
