import GroupQueue.Proofs.Sql.Exchanges
import GroupQueue.Proofs.Sql.Select
import GroupQueue.Proofs.Store.Sets

/-!
# `Proofs.Sql.MemberReads` — a database and a store in memory read the same members

A range of scores and a range of ranks are read by statements from a database, and from sorted lists in
memory. Where the table and the memory hold the same, the two reads are the same list: the statement for a
read has one answer only (`MemberQuery.answers_iff`), as no two rows of a set are equal in both columns of its
order, and that answer is the window or the slice that is read in memory. Numbers of rows are cut off at the
greatest integer that a database knows; that makes no difference, as long as a set has no more members than
that.

## Contents
- `eq_members_iff` — rows in order are the members of what they hold; `MemberQuery.answers_iff`.
- `take_clampRows`, `drop_clampRows` — numbers of rows that are cut off.
- `MemberQuery.answers_ofRange_iff`, `answers_ofRanks_iff` — the answers are windows and slices.
- `Serves` — a server that answers queries of members from a table; `Serves.fetch`, `MemberTable.server`.
- `member_reads_agree` — the two stores read the same.
-/

namespace GroupQueue.Sql

open Text (maxWord)

/-! ## Rows in order -/

/-- **Different rows in order are the members of the set that they make up**, and the other way round. -/
theorem eq_members_iff {held : Contents} {found sorted : List Member}
    (hfound : ∀ m, m ∈ found ↔ held[m.id]? = some m.score) (hnodup : found.Nodup) :
    (sorted.Perm found
        ∧ sorted.Pairwise fun a b => SortKey.InOrder a b (MemberQuery.order .ascending))
      ↔ sorted = held.members := by
  constructor
  · rintro ⟨hperm, hsorted⟩
    have hstrict : sorted.Pairwise fun a b => a.precedes b = true := by
      refine (hsorted.and (hperm.nodup_iff.mpr hnodup)).imp ?_
      rintro a b ⟨hab, hne⟩
      exact (MemberQuery.inOrder_ascending.mp hab).resolve_left hne
    exact Contents.eq_members hstrict fun m => by rw [hperm.mem_iff, hfound]
  · rintro rfl
    constructor
    · refine (List.perm_ext_iff_of_nodup (Contents.nodup_members held) hnodup).mpr fun m => ?_
      rw [Contents.mem_members, hfound]
    · exact (Contents.sorted_members held).imp fun hab => MemberQuery.inOrder_ascending.mpr (Or.inr hab)

namespace MemberQuery

/-- The members that lie between the bounds of a query, in its direction. -/
def found (q : MemberQuery) (held : Contents) : List Member :=
  let inside := Contents.members (held.filter fun _ score => q.lower.isBelow score && q.upper.isAbove score)
  if q.descending then inside.reverse else inside

/-- The rows that a query finds can be put in its order in one way. -/
theorem sorted_iff (q : MemberQuery) (table : MemberTable) {sorted : List Member} :
    (sorted.Perm ((table.rowsOf q.key).filter q.select.admits)
        ∧ sorted.Pairwise fun a b => SortKey.InOrder a b q.select.order)
      ↔ sorted = q.found (table.contents q.key) := by
  let inside := (table.contents q.key).filter fun _ score => q.lower.isBelow score && q.upper.isAbove score
  have hrows : ∀ m, m ∈ (table.rowsOf q.key).filter q.select.admits ↔ inside[m.id]? = some m.score := by
    intro m
    rw [List.mem_filter, table.mem_rowsOf, admits_select, Std.ExtTreeMap.getElem?_filter',
      Option.filter_eq_some_iff]
  have hnodup : ((table.rowsOf q.key).filter q.select.admits).Nodup :=
    List.Pairwise.filter _
      (List.Pairwise.of_map _ (fun a b hne heq => hne (by rw [heq])) (table.nodup_rowsOf q.key))
  have horder : q.select.order = order (if q.descending then .descending else .ascending) := rfl
  rw [horder, found]
  cases q.descending with
  | false => exact eq_members_iff hrows hnodup
  | true =>
      -- read backwards, the rows are in ascending order
      have hbackwards : (sorted.reverse.Perm _ ∧ sorted.reverse.Pairwise _)
          ↔ sorted.reverse = Contents.members inside := eq_members_iff hrows hnodup
      rw [List.pairwise_reverse, List.reverse_eq_iff] at hbackwards
      refine Iff.trans (and_congr ?_ ?_) hbackwards
      · exact ⟨(List.reverse_perm sorted).trans, (List.reverse_perm sorted).symm.trans⟩
      · simp only [if_true, inOrder_descending]

/-- **A query has one answer only.** -/
theorem answers_iff (q : MemberQuery) (table : MemberTable) {rows : List Member} :
    q.select.Answers table rows ↔ rows = q.select.cut (q.found (table.contents q.key)) := by
  have hkey : q.select.key = q.key := rfl
  unfold Select.Answers
  rw [hkey]
  constructor
  · rintro ⟨sorted, hperm, hsorted, rfl⟩
    rw [(q.sorted_iff table).mp ⟨hperm, hsorted⟩]
  · rintro rfl
    obtain ⟨hperm, hsorted⟩ := (q.sorted_iff table).mpr rfl
    exact ⟨_, hperm, hsorted, rfl⟩

end MemberQuery

/-! ## Numbers of rows -/

section Rows

variable {α : Type} {l : List α}

/-- A limit that is cut off makes no difference to a list that is not too long. -/
theorem take_clampRows (h : l.length ≤ maxWord.toNat) (n : Nat) : l.take (clampRows n) = l.take n := by
  rw [clampRows]
  by_cases hn : n ≤ maxWord.toNat
  · rw [Nat.min_eq_left hn]
  · rw [Nat.min_eq_right (by omega), List.take_of_length_le (by omega), List.take_of_length_le (by omega)]

/-- Nor does a number of rows to be passed over. -/
theorem drop_clampRows (h : l.length ≤ maxWord.toNat) (n : Nat) : l.drop (clampRows n) = l.drop n := by
  rw [clampRows]
  by_cases hn : n ≤ maxWord.toNat
  · rw [Nat.min_eq_left hn]
  · rw [Nat.min_eq_right (by omega), List.drop_eq_nil_of_le (by omega), List.drop_eq_nil_of_le (by omega)]

end Rows

namespace MemberQuery

variable {table : MemberTable} {key : String} {rows : List Member}

/-- What lies between two bounds is found by looking at all members. -/
theorem inside_eq_filter (q : MemberQuery) (held : Contents) :
    Contents.members (held.filter fun _ score => q.lower.isBelow score && q.upper.isAbove score)
      = held.members.filter fun m => q.lower.isBelow m.score && q.upper.isAbove m.score :=
  Contents.members_filter held fun score => q.lower.isBelow score && q.upper.isAbove score

/-- So it is no more than there is. -/
theorem length_found_le (q : MemberQuery) (held : Contents) : (q.found held).length ≤ held.size := by
  have hinside : (Contents.members
      (held.filter fun _ score => q.lower.isBelow score && q.upper.isAbove score)).length ≤ held.size := by
    rw [inside_eq_filter, ← Contents.length_members]
    exact List.length_filter_le _ _
  unfold found
  dsimp only
  split
  · rw [List.length_reverse]
    exact hinside
  · exact hinside

/-- **The query for a range reads the window of the range.** -/
theorem answers_ofRange_iff (hsize : (table.contents key).size ≤ maxWord.toNat) (range : ScoreRange) :
    (ofRange key range).select.Answers table rows
      ↔ rows = Contents.window (table.contents key) range.admits range.descending range.limit := by
  have hlength := Nat.le_trans ((ofRange key range).length_found_le (table.contents key)) hsize
  have hcut : (ofRange key range).select.cut ((ofRange key range).found (table.contents key))
      = Contents.window (table.contents key) range.admits range.descending range.limit := by
    unfold Select.cut Contents.window
    dsimp only [select, ofRange] at hlength ⊢
    cases range.limit with
    | none => rfl
    | some n => exact take_clampRows hlength n
  rw [answers_iff, ← hcut]
  rfl

/-- **The query for some ranks reads the slice at the ranks.** -/
theorem answers_ofRanks_iff (hsize : (table.contents key).size ≤ maxWord.toNat) {start stop : Nat}
    (hle : start ≤ stop) :
    (ofRanks key start stop).select.Answers table rows
      ↔ rows = Contents.slice (table.contents key) start stop := by
  have hall : (ofRanks key start stop).found (table.contents key) = (table.contents key).members := by
    refine ((ofRanks key start stop).inside_eq_filter (table.contents key)).trans ?_
    exact List.filter_eq_self.mpr fun _ _ => rfl
  have hlength := (ofRanks key start stop).length_found_le (table.contents key)
  rw [hall] at hlength
  have hcut : (ofRanks key start stop).select.cut ((table.contents key).members)
      = Contents.slice (table.contents key) start stop := by
    show (((table.contents key).members.drop (clampRows start)).take (clampRows (stop - start + 1))) = _
    rw [drop_clampRows (by omega), take_clampRows (by rw [List.length_drop]; omega), Contents.slice,
      List.drop_take, Nat.sub_add_comm hle]
  rw [answers_iff, ← hcut, ← hall]
  rfl

end MemberQuery

/-! ## Servers -/

/-- The row of a member. -/
def memberRow (m : Member) : Row := [.integer m.id.score, .integer m.score]

theorem mapM_readMember (ms : List Member) : (ms.map memberRow).mapM readMember = .ok ms := by
  induction ms with
  | nil => rfl
  | cons m ms ih =>
      rw [List.map_cons, List.mapM_cons, ih]
      rfl

/-- A server that answers every query of members by what the query means. -/
def Serves {σ : Type} (server : SqlServer σ) (s : σ) (table : MemberTable) : Prop :=
  ∀ query : MemberQuery, ∃ rows answer, query.select.Answers table rows
    ∧ (server (.members query) s).1 = .ok answer ∧ answer.rows = rows.map memberRow

/-- What is fetched from such a server. -/
theorem hold_fetch_members {σ : Type} {server : SqlServer σ} {s : σ} {query : MemberQuery} {answer : Answer}
    {rows : List Member} (hanswer : (server (.members query) s).1 = .ok answer)
    (hrows : answer.rows = rows.map memberRow) :
    (hold server (fetch (.members query) readMember).run s).1 = .ok rows := by
  have hread : answer.rows.mapM readMember = .ok rows := by rw [hrows, mapM_readMember]
  have hfetched : (hold server (fetch (.members query) readMember).run s).1
      = (hold server (ExceptT.bindCont (fun answer : Answer => orFail (answer.rows.mapM readMember))
          ((server (.members query) s).1.mapError Failure.database))
          (server (.members query) s).2).1 := rfl
  rw [hfetched, hanswer]
  show (answer.rows.mapM readMember).mapError Failure.database = .ok rows
  rw [hread]
  rfl

/-- A query that has one answer only is answered by that one. -/
theorem Serves.fetch {σ : Type} {server : SqlServer σ} {s : σ} {table : MemberTable}
    (hserves : Serves server s table) {query : MemberQuery} {expected : List Member}
    (h : ∀ rows, query.select.Answers table rows ↔ rows = expected) :
    (hold server (Sql.fetch (.members query) readMember).run s).1 = .ok expected := by
  obtain ⟨rows, answer, hrows, hanswer, hread⟩ := hserves query
  rw [← (h rows).mp hrows]
  exact hold_fetch_members hanswer hread

/-- A server that has nothing but a table of members. -/
def MemberTable.server (table : MemberTable) : SqlServer Unit
  | .members query =>
    let rows := query.select.cut (query.found (table.contents query.key))
    pure (.ok { rows := rows.map memberRow })
  | _ => pure (.ok {})

theorem MemberTable.serves_server (table : MemberTable) : Serves table.server () table :=
  fun query => ⟨_, _, (query.answers_iff table).mpr rfl, rfl, rfl⟩

/-! ## The two stores -/

/-- **A database and a store in memory read the same members.** The statements that read members are sent as
    texts with a standard meaning; where the table and the memory hold the same for a set, the only answer to
    the statement for a range or for ranks is what the store in memory reads there. So a call of a plan is
    answered the same by any server that means what it says. The set may have any number of members below
    2⁶³. -/
theorem member_reads_agree {table : MemberTable} {calls : List SetCall} {set : EventSet}
    (hheld : (Sets.after calls).contents set.key = table.contents set.key)
    (hsize : (table.contents set.key).size ≤ maxWord.toNat) :
    (∀ query : MemberQuery, query.select.pieces = (Statement.members query).pieces)
    ∧ (∀ range rows, (MemberQuery.ofRange set.key range).select.Answers table rows
        ↔ rows = ((Sets.after calls).answer (.rangeByScore set range)).1)
    ∧ (∀ start stop rows, start ≤ stop → ((MemberQuery.ofRanks set.key start stop).select.Answers table rows
        ↔ rows = ((Sets.after calls).answer (.rangeByRank set start stop)).1))
    ∧ ∀ {σ : Type} (server : SqlServer σ) (s : σ), Serves server s table →
        (∀ range, (hold server (answerSetCall (.rangeByScore set range)).run s).1
          = .ok ((Sets.after calls).answer (.rangeByScore set range)).1)
        ∧ ∀ start stop, start ≤ stop →
          (hold server (answerSetCall (.rangeByRank set start stop)).run s).1
            = .ok ((Sets.after calls).answer (.rangeByRank set start stop)).1 := by
  have hsound := Sets.sound_after calls
  have hrange : ∀ range rows, (MemberQuery.ofRange set.key range).select.Answers table rows
      ↔ rows = ((Sets.after calls).answer (.rangeByScore set range)).1 := by
    intro range rows
    rw [hsound.answer_rangeByScore, hheld]
    exact MemberQuery.answers_ofRange_iff hsize range
  have hranks : ∀ start stop rows, start ≤ stop →
      ((MemberQuery.ofRanks set.key start stop).select.Answers table rows
        ↔ rows = ((Sets.after calls).answer (.rangeByRank set start stop)).1) := by
    intro start stop rows hle
    rw [hsound.answer_rangeByRank set hle, hheld]
    exact MemberQuery.answers_ofRanks_iff hsize hle
  refine ⟨MemberQuery.pieces_select, hrange, hranks, fun server s hserves => ⟨?_, ?_⟩⟩
  · intro range
    exact hserves.fetch (hrange range)
  · intro start stop hle
    exact hserves.fetch fun rows => hranks start stop rows hle

/-- Two of three members have the same score, and there is a row of another set. Read from the end, without
    the score 3 and with a limit, the rows come in the same order from both stores. -/
theorem member_reads_agree_tie :
    let set : EventSet := { base := "b", queue := "q", role := .available }
    let table : MemberTable :=
      { rows := [(set.key, ⟨⟨2⟩, 5⟩), ("b:p:available", ⟨⟨4⟩, 4⟩), (set.key, ⟨⟨9⟩, 3⟩), (set.key, ⟨⟨1⟩, 5⟩)],
        primaryKey := by decide }
    let calls := [SetCall.add set [⟨⟨2⟩, 5⟩, ⟨⟨9⟩, 3⟩], .add set [⟨⟨1⟩, 5⟩]]
    let range : ScoreRange := { lower := .excluded 3, descending := true, limit := some 2 }
    (Sets.after calls).contents set.key = table.contents set.key
      ∧ (table.contents set.key).size ≤ maxWord.toNat
      ∧ (MemberQuery.ofRange set.key range).select.Answers table [⟨⟨2⟩, 5⟩, ⟨⟨1⟩, 5⟩]
      ∧ (hold table.server (answerSetCall (.rangeByScore set range)).run ()).1 = .ok [⟨⟨2⟩, 5⟩, ⟨⟨1⟩, 5⟩]
      ∧ (hold table.server (answerSetCall (.rangeByRank set 0 1)).run ()).1 = .ok [⟨⟨9⟩, 3⟩, ⟨⟨1⟩, 5⟩] := by
  intro set table calls range
  have hheld : (Sets.after calls).contents set.key = table.contents set.key := by
    show ((Sets.add {} set.key [⟨⟨2⟩, 5⟩, ⟨⟨9⟩, 3⟩]).add set.key [⟨⟨1⟩, 5⟩]).contents set.key = _
    rw [Sets.contents_add, if_pos rfl, Sets.contents_add, if_pos rfl, Sets.contents_fresh]
    rfl
  have hsize : (table.contents set.key).size ≤ maxWord.toNat := by decide +kernel
  have hrange : ((Sets.after calls).answer (.rangeByScore set range)).1 = [⟨⟨2⟩, 5⟩, ⟨⟨1⟩, 5⟩] := by
    decide +kernel
  have hranks : ((Sets.after calls).answer (.rangeByRank set 0 1)).1 = [⟨⟨9⟩, 3⟩, ⟨⟨1⟩, 5⟩] := by
    decide +kernel
  obtain ⟨-, hanswers, -, hserved⟩ := member_reads_agree hheld hsize
  obtain ⟨hreadRange, hreadRanks⟩ := hserved table.server () table.serves_server
  rw [← hrange, ← hranks]
  exact ⟨hheld, hsize, (hanswers range _).mpr rfl, hreadRange range, hreadRanks 0 1 (by decide)⟩

end GroupQueue.Sql
