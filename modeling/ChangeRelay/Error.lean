/-!
# Errors of the relay

`RelayError` lists why an operation of the relay fails, one constructor per cause, and
`RelayError.message` words each. Two classes decide what a worker does with an error:
`isRetryable` (a source, publish or cursor store that is down for now: try again later) and
`isFatal` (bad configuration, rejected credentials, an internal fault: stop the process, since
running again with the same inputs cannot help).
-/

namespace ChangeRelay

/-- Why the cursor database refused an operation. -/
inductive StoreFailure where
  | rowNotFound
  | poolClosed
  | poolTimedOut
  | workerCrashed
  /-- The database answered with an error: its extended result code and message. -/
  | database (code : Nat) (message : String)
  /-- A stored column held another type than text. -/
  | columnType (column : Nat) (stored : String)
  deriving Repr, DecidableEq

/-- Why a stored value could not be read as text, for a value of SQL type `stored`. -/
def StoreFailure.mismatch (stored : String) : String :=
  "mismatched types; Rust type `alloc::string::String` (as SQL type `TEXT`) " ++
    "is not compatible with SQL type `" ++ stored ++ "`"

/-- A store failure in words. -/
def StoreFailure.message : StoreFailure → String
  | .rowNotFound => "no rows returned by a query that expected to return at least one row"
  | .poolClosed => "attempted to acquire a connection on a closed pool"
  | .poolTimedOut => "pool timed out while waiting for an open connection"
  | .workerCrashed => "attempted to communicate with a crashed background worker"
  | .database code msg => "error returned from database: (code: " ++ toString code ++ ") " ++ msg
  | .columnType i stored =>
    "error occurred while decoding column " ++ toString i ++ ": " ++ StoreFailure.mismatch stored

/-- Why an operation of the relay failed. -/
inductive RelayError where
  /-- The change source of a partition failed. -/
  | source (partition message : String)
  /-- Publishing to a topic failed. -/
  | publish (topic message : String)
  /-- The cursor database failed. -/
  | store (failure : StoreFailure)
  /-- The cursor store could not serve a key for now. -/
  | storeUnavailable (key message : String)
  /-- An event could not be turned into a change. -/
  | mapping (message : String)
  | config (message : String)
  | auth (message : String)
  | bootstrap (message : String)
  | invalidRequest (message : String)
  /-- An operation came in a state that does not allow it. -/
  | invalidState (expected actual : String)
  | shutdown
  | internal (message : String)
  deriving Repr, DecidableEq

namespace RelayError

/-- The error in words. -/
def message : RelayError → String
  | .source p m => "Source error (" ++ p ++ "): " ++ m
  | .publish t m => "Publish error (" ++ t ++ "): " ++ m
  | .store f => "Cursor store error: " ++ f.message
  | .storeUnavailable k m => "Cursor store unavailable (" ++ k ++ "): " ++ m
  | .mapping m => "Mapping error: " ++ m
  | .config m => "Configuration error: " ++ m
  | .auth m => "Authentication error: " ++ m
  | .bootstrap m => "Bootstrap error: " ++ m
  | .invalidRequest m => "Invalid request: " ++ m
  | .invalidState e a => "Invalid state: expected " ++ e ++ ", got " ++ a
  | .shutdown => "Shutdown in progress"
  | .internal m => "Internal error: " ++ m

/-- The name of the error's kind. -/
def kind : RelayError → String
  | .source .. => "Source"
  | .publish .. => "Publish"
  | .store _ => "CursorStore"
  | .storeUnavailable .. => "CursorUnavailable"
  | .mapping _ => "Mapping"
  | .config _ => "Config"
  | .auth _ => "Auth"
  | .bootstrap _ => "Bootstrap"
  | .invalidRequest _ => "InvalidRequest"
  | .invalidState .. => "InvalidState"
  | .shutdown => "Shutdown"
  | .internal _ => "Internal"

/-- A failure that may pass if tried again. -/
def isRetryable : RelayError → Bool
  | .source .. | .publish .. | .storeUnavailable .. => true
  | _ => false

/-- A failure that must stop the process. -/
def isFatal : RelayError → Bool
  | .config _ | .auth _ | .internal _ => true
  | _ => false

theorem not_fatal_of_retryable (e : RelayError) (h : e.isRetryable = true) :
    e.isFatal = false := by
  cases e <;> simp_all [isRetryable, isFatal]

end RelayError

end ChangeRelay
