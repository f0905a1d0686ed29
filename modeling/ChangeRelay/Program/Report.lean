import ChangeRelay.Error

/-!
# Failure reports

A program that fails prints `Error: ` and its failure, then the chain of causes below it. One
cause stands alone under `Caused by:`; several are numbered from 0, the numbers right-aligned in
five columns. A cause spread over several lines keeps its indent on each.

A failure may be wrapped in a context, which then leads the report and pushes the failure into
the causes.
-/

namespace ChangeRelay

/-- A failure as a program reports it: the top line and the causes, outermost first. -/
structure Report where
  top : String
  causes : List String := []
  deriving DecidableEq, Repr

/-- The causes below an error: for a store failure, the database's own error and what it wraps. -/
def RelayError.causes : RelayError → List String
  | .store (.database code msg) =>
    let inner := "(code: " ++ toString code ++ ") " ++ msg
    ["error returned from database: " ++ inner, inner]
  | .store f@(.columnType _ stored) => [f.message, StoreFailure.mismatch stored]
  | _ => []

/-- The report of an error. -/
def RelayError.report (e : RelayError) : Report := ⟨e.message, e.causes⟩

namespace Report

/-- The report under a context. -/
def within (context : String) (r : Report) : Report := ⟨context, r.top :: r.causes⟩

/-- Writes a cause with its lead, indenting the lines after its first. -/
def indented (lead indent : String) (cause : String) : String :=
  lead ++ ("\n" ++ indent).intercalate (cause.splitOn "\n")

/-- A number right-aligned in five columns. -/
def numberColumn (n : Nat) : String :=
  let s := toString n
  String.ofList (List.replicate (5 - s.length) ' ') ++ s

/-- The report as printed. -/
def text (r : Report) : String :=
  "Error: " ++ r.top ++
    match r.causes with
    | [] => "\n"
    | [c] => "\n\nCaused by:\n" ++ indented "    " "    " c ++ "\n"
    | cs =>
      "\n\nCaused by:" ++
        String.join (cs.zipIdx.map fun (c, i) => "\n" ++ indented (numberColumn i ++ ": ") "       " c) ++
        "\n"

end Report

end ChangeRelay
