import GroupQueue.Proofs.Store.Contents

/-!
# `Proofs.Store.SortedSet` — the two halves of a sorted set agree

A sorted set keeps its scores in a map and its members in an ordered list. It is **sound** when the list
is the one that the map determines. Insertion and removal keep a set sound, and on a sound set the reads
that walk along the list are reads of the map: a range is a window, a range of ranks is a slice.

## Contents
- `SortedSet.Sound`, with `sound_empty`, `Sound.insert`, `Sound.remove`; `Sound.eq_of_scores`.
- `Sound.mem_ordered`, `Sound.nodup_ids`, `Sound.sorted` — what a sound set lists.
- `scores_insert`, `scores_remove`, `isEmpty_eq` — the operations on the map.
- `Sound.range_eq_window`, `Sound.ranks_eq_slice` — the reads.
-/

namespace GroupQueue
namespace SortedSet

/-- The ordered list lists the map of scores. -/
def Sound (set : SortedSet) : Prop := set.ordered = Contents.members set.scores

theorem sound_empty : Sound {} := Contents.members_empty.symm

/-- A sound set is determined by its map. -/
theorem Sound.eq_of_scores {a b : SortedSet} (ha : a.Sound) (hb : b.Sound) (h : a.scores = b.scores) : a = b := by
  have hordered : a.ordered = b.ordered := by rw [ha, hb, h]
  cases a
  cases b
  cases h
  cases hordered
  rfl

section Listed

variable {set : SortedSet}

/-- The list has the events of the map, with the scores that they have there. -/
theorem Sound.mem_ordered (h : set.Sound) {m : Member} : m ∈ set.ordered ↔ set.scores[m.id]? = some m.score := by
  rw [h]
  exact Contents.mem_members

theorem Sound.nodup_ids (h : set.Sound) : (set.ordered.map Member.id).Nodup := by
  rw [h]
  exact Contents.nodup_ids _

theorem Sound.sorted (h : set.Sound) : set.ordered.Pairwise fun a b => a.precedes b = true := by
  rw [h]
  exact Contents.sorted_members _

theorem Sound.ordered_eq_nil_iff (h : set.Sound) : set.ordered = [] ↔ set.isEmpty = true := by
  rw [h, Contents.members_eq_nil_iff, isEmpty, Std.ExtTreeMap.isEmpty_iff]

end Listed

/-! ## Placing a member -/

theorem mem_place {m x : Member} {l : List Member} : x ∈ place m l ↔ x = m ∨ x ∈ l := by
  induction l with
  | nil => simp [place]
  | cons y l ih =>
      unfold place
      split
      · exact List.mem_cons
      · rw [List.mem_cons, ih, List.mem_cons]
        exact ⟨fun h => h.elim (fun hy => Or.inr (Or.inl hy)) (fun h => h.imp id Or.inr),
          fun h => h.elim (fun hm => Or.inr (Or.inl hm)) (fun h => h.imp id Or.inr)⟩

theorem sorted_place {m : Member} {l : List Member}
    (hl : l.Pairwise fun a b => a.precedes b = true) (hm : m ∉ l) :
    (place m l).Pairwise fun a b => a.precedes b = true := by
  induction l with
  | nil => exact List.pairwise_singleton _ _
  | cons y l ih =>
      obtain ⟨hhead, htail⟩ := List.pairwise_cons.mp hl
      obtain ⟨hne, hml⟩ := List.ne_and_not_mem_of_not_mem_cons hm
      unfold place
      split
      · next hmy =>
        refine List.pairwise_cons.mpr ⟨fun x hx => ?_, hl⟩
        rcases List.mem_cons.mp hx with rfl | hx
        · exact hmy
        · exact Member.precedes_trans hmy (hhead x hx)
      · next hmy =>
        refine List.pairwise_cons.mpr ⟨fun x hx => ?_, ih htail hml⟩
        rcases mem_place.mp hx with rfl | hx
        · exact (Member.precedes_total hne).resolve_left hmy
        · exact hhead x hx

/-! ## Operations on the map -/

@[simp] theorem scores_insert (set : SortedSet) (m : Member) :
    (set.insert m).scores = set.scores.insert m.id m.score := rfl

@[simp] theorem scores_remove (set : SortedSet) (id : EventId) :
    (set.remove id).scores = set.scores.erase id := by
  unfold remove
  split
  · rfl
  · next h =>
    refine Std.ExtTreeMap.ext_getElem? fun x => ?_
    rw [getElem?_erase_ite]
    split
    · next hx => rw [← hx, h]
    · rfl

theorem isEmpty_eq (set : SortedSet) : set.isEmpty = set.scores.isEmpty := rfl

theorem scores_foldl_insert (set : SortedSet) (ms : List Member) :
    (ms.foldl SortedSet.insert set).scores = Contents.upsert set.scores ms := by
  induction ms generalizing set with
  | nil => rfl
  | cons m ms ih => exact ih (set.insert m)

theorem scores_foldl_remove (set : SortedSet) (ids : List EventId) :
    (ids.foldl SortedSet.remove set).scores = Contents.without set.scores ids := by
  induction ids generalizing set with
  | nil => rfl
  | cons id ids ih => rw [List.foldl_cons, ih, scores_remove]; rfl

/-! ## Soundness -/

/-- Once the entry of an event has been erased from the list, no member of that event is left. -/
theorem mem_erase_members {held : Contents} {id : EventId} {old : Int} (hold : held[id]? = some old)
    {x : Member} :
    x ∈ (Contents.members held).erase ⟨id, old⟩ ↔ x.id ≠ id ∧ held[x.id]? = some x.score := by
  rw [(Contents.nodup_members held).mem_erase_iff, Contents.mem_members]
  refine and_congr_left fun hx => not_congr ⟨fun h => by rw [h], fun h => ?_⟩
  rw [h, hold] at hx
  obtain ⟨xid, xscore⟩ := x
  cases h
  rw [Option.some.inj hx]

theorem Sound.insert {set : SortedSet} (h : set.Sound) (m : Member) : (set.insert m).Sound := by
  -- whether the event had a score or not, the member is placed into a list without the event
  have hrest : ∃ l : List Member, (set.insert m).ordered = place m l
      ∧ l.Pairwise (fun a b => a.precedes b = true)
      ∧ ∀ x, x ∈ l ↔ x.id ≠ m.id ∧ set.scores[x.id]? = some x.score := by
    unfold SortedSet.insert
    cases hold : set.scores[m.id]? with
    | some old =>
        refine ⟨_, rfl, h.sorted.sublist List.erase_sublist, fun x => ?_⟩
        rw [h]
        exact mem_erase_members hold
    | none =>
        refine ⟨_, rfl, h.sorted, fun x => ?_⟩
        rw [h.mem_ordered]
        refine ⟨fun hx => ⟨fun hid => ?_, hx⟩, fun hx => hx.2⟩
        rw [hid, hold] at hx
        contradiction
  obtain ⟨l, heq, hsorted, hmem⟩ := hrest
  rw [Sound, heq]
  refine Contents.eq_members (sorted_place hsorted fun hm => ((hmem m).mp hm).1 rfl) fun x => ?_
  rw [mem_place, hmem, scores_insert, getElem?_insert_ite]
  by_cases hid : m.id = x.id
  · obtain ⟨xid, xscore⟩ := x
    obtain ⟨mid, mscore⟩ := m
    cases hid
    simp [eq_comm]
  · have hne : x ≠ m := fun hx => hid (by rw [hx])
    simp [hid, Ne.symm hid, hne]

theorem Sound.remove {set : SortedSet} (h : set.Sound) (id : EventId) : (set.remove id).Sound := by
  rw [Sound, scores_remove]
  unfold SortedSet.remove
  cases hold : set.scores[id]? with
  | some old =>
      refine Contents.eq_members (h.sorted.sublist List.erase_sublist) fun x => ?_
      rw [h, mem_erase_members hold, getElem?_erase_ite]
      by_cases hx : id = x.id
      · simp [hx]
      · simp [hx, Ne.symm hx]
  | none =>
      refine h.trans (congrArg _ (Std.ExtTreeMap.ext_getElem? fun x => ?_))
      rw [getElem?_erase_ite]
      split
      · next hx => rw [← hx, hold]
      · rfl

theorem Sound.foldl_insert {set : SortedSet} (h : set.Sound) (ms : List Member) :
    (ms.foldl SortedSet.insert set).Sound := by
  induction ms generalizing set with
  | nil => exact h
  | cons m ms ih => exact ih (h.insert m)

theorem Sound.foldl_remove {set : SortedSet} (h : set.Sound) (ids : List EventId) :
    (ids.foldl SortedSet.remove set).Sound := by
  induction ids generalizing set with
  | nil => exact h
  | cons id ids ih => exact ih (h.remove id)

/-! ## Reads -/

/-- **A range of a sound set is a window of its scores.** Along a sorted list the scores grow, so the
    members below the lower bound come first and those above the upper bound come last. -/
theorem Sound.range_eq_window {set : SortedSet} (h : set.Sound) (range : ScoreRange) :
    set.range range = Contents.window set.scores range.admits range.descending range.limit := by
  unfold SortedSet.range
  split
  · next hempty =>
    exact (Contents.window_eq_nil (ScoreRange.admits_eq_false_of_isEmpty hempty)).symm
  · have hlower : (set.ordered.dropWhile fun m => !range.lower.isBelow m.score)
        = set.ordered.filter fun m => range.lower.isBelow m.score := by
      refine dropWhile_not_eq_filter ?_
      exact h.sorted.imp fun hab hlow => Bound.isBelow_mono hlow (Member.score_le_of_precedes hab)
    have hupper : ((set.ordered.filter fun m => range.lower.isBelow m.score).takeWhile
          fun m => range.upper.isAbove m.score)
        = (set.ordered.filter fun m => range.lower.isBelow m.score).filter
            fun m => range.upper.isAbove m.score := by
      refine takeWhile_eq_filter (List.Pairwise.filter _ ?_)
      exact h.sorted.imp fun hab hup => Bound.isAbove_anti hup (Member.score_le_of_precedes hab)
    have hfound : (set.ordered.filter fun m => range.lower.isBelow m.score).filter
          (fun m => range.upper.isAbove m.score)
        = Contents.members (set.scores.filter fun _ score => range.admits score) := by
      rw [Contents.members_filter, List.filter_filter, h]
      exact List.filter_congr fun m _ => Bool.and_comm _ _
    simp only [hlower, hupper, hfound]
    rfl

/-- **A range of ranks of a sound set is a slice of its scores.** -/
theorem Sound.ranks_eq_slice {set : SortedSet} (h : set.Sound) {start stop : Nat}
    (hle : start ≤ stop) : set.ranks start stop = Contents.slice set.scores start stop := by
  rw [ranks, h, Contents.slice, List.drop_take, Nat.sub_add_comm hle]

end SortedSet
end GroupQueue
