import ChangeRelay.Event.Source
import ChangeRelay.Event.Payload
import ChangeRelay.Graph.Change

/-!
# Row changes of a relational capture

A row becomes a node labelled with its table, whose properties are the row's columns. Its id is
the column `id`; failing that, the key column of least name, a key column being one whose name
ends in `_id` or `Id`, and if that one holds no usable id the row has none. A create or a snapshot read inserts the
row after, an update updates from the row before (or inserts without one), a delete deletes the
row before, and a truncate carries no change.
-/

namespace ChangeRelay.Relational

/-- Whether a column name marks a key column. -/
def isKeyColumn (k : String) : Bool := k.endsWith "_id" || k.endsWith "Id"

/-- The least name among the key columns of a row. -/
def leastKeyColumn (fs : Json.Fields) : Option String :=
  match (fs.map Prod.fst).filter isKeyColumn with
  | [] => none
  | k :: ks => some (ks.foldl (fun a b => if b < a then b else a) k)

/-- The id a row names: that of its `id` column, or failing that, that of its key column of least
name. -/
def rowId (fs : Json.Fields) : Option String :=
  ((Json.Fields.get? "id" fs).bind idText).orElse fun _ =>
    (leastKeyColumn fs).bind fun k => (Json.Fields.get? k fs).bind idText

/-- The node a row stands for. -/
def rowEntity (table : String) (row : Json) : Except RelayError Entity := do
  let obj ← match row with
    | .obj fs => pure fs
    | _ => throw (.mapping (table ++ " row is not an object"))
  match rowId obj with
  | some id => return .node id (Labels.ofList [table]) obj
  | none => throw (.mapping (table ++ " row has no id column"))

/-- The change a row event reports. -/
def change (op : RowOp) (table : String) (before after : Option Json) (ts : Nat) :
    Except RelayError (Option Change) := do
  let missing (side : String) : RelayError :=
    .mapping (op.title ++ " on " ++ table ++ " has no '" ++ side ++ "' row")
  let need (side : String) : Option Json → Except RelayError Json
    | some r => pure r
    | none => throw (missing side)
  match op with
  | .create | .read => return some (.insert (← rowEntity table (← need "after" after)) ts)
  | .update =>
    let a ← rowEntity table (← need "after" after)
    match before with
    | some b =>
      if b.isNull then return some (.insert a ts)
      else return some (.update (← rowEntity table b) a ts)
    | none => return some (.insert a ts)
  | .delete => return some (.delete (← rowEntity table (← need "before" before)) ts)
  | .truncate => return none

end ChangeRelay.Relational
