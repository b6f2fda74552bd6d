import GroupQueue.Sql.Store
import GroupQueue.Proofs.Store.Contents

/-!
# `Proofs.Sql.Select` — what a query of members means

A statement is a text with parameters, and what it reads is up to the database. This module gives the
statements that read members their standard meaning. A `Select` says which rows of the table of members are
wanted, in which order, how many of them are passed over and how many are wanted at most; it is written down
clause by clause (`Select.pieces`), and it is answered by any list that the clauses allow (`Select.Answers`). Where
the order leaves a choice, any choice is an answer. Every query of members is sent as the text of a `Select`
(`MemberQuery.pieces_select`), so it means what that one means.

## Contents
- `Column`, `Comparison`, `RowCondition`, `Direction`, `SortKey` — what clauses are made of.
- `Select`, `Select.pieces` — a statement that reads members, and how it is written down.
- `MemberTable`, `MemberTable.contents` — the rows of the table, and what they say a set holds.
- `Select.Answers` — the lists of rows that answer a statement.
- `MemberQuery.select`, `MemberQuery.pieces_select` — the meaning of the queries that are sent.
-/

namespace GroupQueue.Sql

/-! ## Clauses -/

/-- A column with numbers, of the table of members. -/
inductive Column where
  | eventId
  | score
deriving DecidableEq, Repr

namespace Column

/-- The name of a column. -/
def name : Column → String
  | eventId => "event_id"
  | score => "score"

/-- The number that a row has in a column. -/
def of (m : Member) : Column → Int
  | eventId => m.id.score
  | score => m.score

end Column

/-- A comparison of two numbers. -/
inductive Comparison where
  | less
  | atMost
  | atLeast
  | greater
deriving DecidableEq, Repr

namespace Comparison

/-- The sign of a comparison. -/
def sign : Comparison → String
  | less => "<"
  | atMost => "<="
  | atLeast => ">="
  | greater => ">"

/-- Whether a comparison holds. -/
def holds (a b : Int) : Comparison → Bool
  | less => a < b
  | atMost => a ≤ b
  | atLeast => b ≤ a
  | greater => b < a

end Comparison

/-- A condition on one column of a row. -/
structure RowCondition where
  column : Column
  comparison : Comparison
  value : Int
deriving DecidableEq, Repr

namespace RowCondition

/-- Whether a row meets a condition. -/
def holds (m : Member) (c : RowCondition) : Bool := c.comparison.holds (c.column.of m) c.value

/-- How a condition is written down. -/
def pieces (c : RowCondition) : List Piece :=
  [.words (" AND " ++ c.column.name ++ " " ++ c.comparison.sign ++ " "), .ofInt c.value]

end RowCondition

/-- A direction of sorting. -/
inductive Direction where
  | ascending
  | descending
deriving DecidableEq, Repr

namespace Direction

/-- The word for a direction. -/
def word : Direction → String
  | ascending => "ASC"
  | descending => "DESC"

/-- Whether one number comes strictly before another. -/
def before (a b : Int) : Direction → Prop
  | ascending => a < b
  | descending => b < a

end Direction

/-- One column to sort by. -/
structure SortKey where
  column : Column
  direction : Direction
deriving DecidableEq, Repr

namespace SortKey

/-- How a column to sort by is written down. -/
def text (k : SortKey) : String := k.column.name ++ " " ++ k.direction.word

/-- Whether a row may stand before another. The first column in which they differ decides; if there is none,
    they may stand either way. -/
def InOrder (a b : Member) : List SortKey → Prop
  | [] => True
  | k :: rest =>
    k.direction.before (k.column.of a) (k.column.of b)
      ∨ k.column.of a = k.column.of b ∧ InOrder a b rest

end SortKey

/-! ## Statements -/

/-- A statement that reads members of one set: those that meet all conditions, in some order, without the
    first ones, and not more than some number. -/
structure Select where
  key : String
  conditions : List RowCondition
  order : List SortKey
  offset : Option Nat
  limit : Option Nat
deriving DecidableEq, Repr

namespace Select

/-- How a statement is written down. -/
def pieces (s : Select) : List Piece :=
  [.words "SELECT event_id, score FROM event_set_members WHERE set_key = ", .ofText s.key] ++
    s.conditions.flatMap RowCondition.pieces ++
    [.words (" ORDER BY " ++ ", ".intercalate (s.order.map SortKey.text))] ++
    MemberQuery.rowsPieces "OFFSET" s.offset ++ MemberQuery.rowsPieces "LIMIT" s.limit

/-- Whether a row meets all conditions. -/
def admits (s : Select) (m : Member) : Bool := s.conditions.all (RowCondition.holds m)

/-- The rows that are left once some are passed over, up to the limit. -/
def cut (s : Select) (rows : List Member) : List Member :=
  let rest := match s.offset with
    | some n => rows.drop n
    | none => rows
  match s.limit with
  | some n => rest.take n
  | none => rest

end Select

/-! ## Tables -/

/-- The table of members: rows of a key, an event and a score. The key and the event identify the row. -/
structure MemberTable where
  rows : List (String × Member)
  primaryKey : (rows.map fun row => (row.1, row.2.id)).Nodup

namespace MemberTable

/-- The rows of one set. -/
def rowsOf (table : MemberTable) (key : String) : List Member :=
  (table.rows.filter fun row => row.1 = key).map Prod.snd

/-- What the set under a key holds. -/
def contents (table : MemberTable) (key : String) : Contents := Contents.upsert ∅ (table.rowsOf key)

theorem nodup_rowsOf (table : MemberTable) (key : String) : ((table.rowsOf key).map Member.id).Nodup := by
  -- in the rows of one set the key is the same, so the events are different
  have hkeyed : ((table.rows.filter fun row => row.1 = key).map fun row => (row.1, row.2.id))
      = ((table.rowsOf key).map Member.id).map fun id => (key, id) := by
    rw [rowsOf, List.map_map, List.map_map]
    refine List.map_congr_left fun row hrow => ?_
    rw [List.mem_filter, decide_eq_true_eq] at hrow
    rw [Function.comp_apply, Function.comp_apply, hrow.2]
  have hnodup := table.primaryKey.sublist
    ((List.filter_sublist (p := fun row : String × Member => row.1 = key)).map fun row => (row.1, row.2.id))
  rw [hkeyed] at hnodup
  exact List.Pairwise.of_map _ (fun a b hne heq => hne (by rw [heq])) hnodup

/-- The rows of a set are its members. -/
theorem mem_rowsOf (table : MemberTable) {key : String} {m : Member} :
    m ∈ table.rowsOf key ↔ (table.contents key)[m.id]? = some m.score := by
  rw [contents, Contents.getElem?_upsert_of_nodup (table.nodup_rowsOf key), Std.ExtTreeMap.getElem?_empty]
  simp

end MemberTable

/-- **What a statement reads**: any list that comes of the rows that meet the conditions, put in order, then cut.
    Rows that are equal in all columns of the order may come in any order. -/
def Select.Answers (s : Select) (table : MemberTable) (rows : List Member) : Prop :=
  ∃ sorted : List Member, sorted.Perm ((table.rowsOf s.key).filter s.admits)
    ∧ sorted.Pairwise (fun a b => SortKey.InOrder a b s.order) ∧ rows = s.cut sorted

/-! ## Queries of members -/

/-- The conditions that a bound puts on the score. -/
def boundConditions (inclusive exclusive : Comparison) : Bound → List RowCondition
  | .included score => [⟨.score, inclusive, score⟩]
  | .excluded score => [⟨.score, exclusive, score⟩]
  | .unbounded => []

namespace MemberQuery

/-- The order of members, or the opposite one. -/
def order (direction : Direction) : List SortKey := [⟨.score, direction⟩, ⟨.eventId, direction⟩]

/-- The statement that a query is sent as. -/
def select (q : MemberQuery) : Select where
  key := q.key
  conditions := boundConditions .atLeast .greater q.lower ++ boundConditions .atMost .less q.upper
  order := order (if q.descending then .descending else .ascending)
  offset := q.offset
  limit := q.limit

theorem boundPieces_eq (inclusive exclusive : Comparison) (bound : Bound) :
    boundPieces inclusive.sign exclusive.sign bound
      = (boundConditions inclusive exclusive bound).flatMap RowCondition.pieces := by
  cases bound with
  | included score => cases inclusive <;> rfl
  | excluded score => cases exclusive <;> rfl
  | unbounded => rfl

/-- **The text and the parameters of a query are those of the statement that gives it its meaning.** -/
theorem pieces_select (q : MemberQuery) : q.select.pieces = (Statement.members q).pieces := by
  have hlower := boundPieces_eq .atLeast .greater q.lower
  have hupper := boundPieces_eq .atMost .less q.upper
  have horder : " ORDER BY " ++ ", ".intercalate ((order (if q.descending then .descending
      else .ascending)).map SortKey.text)
      = if q.descending then " ORDER BY score DESC, event_id DESC"
        else " ORDER BY score ASC, event_id ASC" := by
    cases q.descending <;> rfl
  show Select.pieces q.select = q.pieces
  rw [Select.pieces, pieces]
  simp only [select, List.flatMap_append, ← hlower, ← hupper, horder, Comparison.sign, List.append_assoc]

/-- A row meets the conditions of a query if its score lies between the bounds. -/
theorem admits_select (q : MemberQuery) (m : Member) :
    q.select.admits m = (q.lower.isBelow m.score && q.upper.isAbove m.score) := by
  have hlower : (boundConditions .atLeast .greater q.lower).all (RowCondition.holds m)
      = q.lower.isBelow m.score := by
    cases q.lower <;> simp [boundConditions, RowCondition.holds, Comparison.holds, Bound.isBelow] <;> rfl
  have hupper : (boundConditions .atMost .less q.upper).all (RowCondition.holds m)
      = q.upper.isAbove m.score := by
    cases q.upper <;> simp [boundConditions, RowCondition.holds, Comparison.holds, Bound.isAbove] <;> rfl
  rw [Select.admits, select, List.all_append, hlower, hupper]

/-- A row may stand before another if it precedes it, or is the same. -/
theorem inOrder_ascending {a b : Member} :
    SortKey.InOrder a b (order .ascending) ↔ a = b ∨ a.precedes b = true := by
  obtain ⟨⟨x⟩, s⟩ := a
  obtain ⟨⟨y⟩, t⟩ := b
  simp only [order, SortKey.InOrder, Direction.before, Column.of, Member.precedes_iff, EventId.lt_def,
    Member.mk.injEq, EventId.mk.injEq, and_true]
  omega

/-- The descending order is the opposite one. -/
theorem inOrder_descending {a b : Member} :
    SortKey.InOrder a b (order .descending) ↔ SortKey.InOrder b a (order .ascending) := by
  simp only [order, SortKey.InOrder, Direction.before, eq_comm]

end MemberQuery

end GroupQueue.Sql
