import GroupQueue.Proofs.Store.SortedSet
import GroupQueue.Store.Sets

/-!
# `Proofs.Store.Sets` — the contents of the sets in memory

The sets in memory are seen through their **contents**: for every key the map of scores under it, empty
where there is no set. Each call of a plan is described by what it reads from the contents and how it
changes them; nothing outside this module looks at sorted sets again.

## Contents
- `Sets.contents`, with `contents_add` and `contents_remove`.
- `Sets.Sound` — every set held is sound; kept by every answer (`Sound.answer`).
- `Sets.after` — the sets that some calls lead to; `sound_after`.
- `Sound.answer_rangeByScore`, `Sound.answer_rangeByRank`, `answer_scoreOf`, `answer_isEmpty` — what the
  reading calls are answered; `Sound.members_eq`, `answer_rangeByRank` for ranks in any order.
-/

namespace GroupQueue
namespace Sets

/-- The contents of the set under a key. -/
def contents (sets : Sets) (key : String) : Contents :=
  (sets.byKey[key]?.map SortedSet.scores).getD ∅

theorem contents_of_some {sets : Sets} {key : String} {set : SortedSet}
    (h : sets.byKey[key]? = some set) : sets.contents key = set.scores := by
  rw [contents, h]
  rfl

theorem contents_of_none {sets : Sets} {key : String} (h : sets.byKey[key]? = none) :
    sets.contents key = ∅ := by
  rw [contents, h]
  rfl

@[simp] theorem contents_fresh (key : String) : contents {} key = ∅ :=
  contents_of_none (Std.ExtTreeMap.getElem?_empty)

/-! ## Writing calls -/

theorem contents_add (sets : Sets) (key k : String) (ms : List Member) :
    (sets.add key ms).contents k
      = if key = k then Contents.upsert (sets.contents k) ms else sets.contents k := by
  unfold add contents
  rw [getElem?_insert_ite]
  split
  · next hk =>
    subst hk
    rw [Std.ExtTreeMap.getD_eq_getD_getElem?, Option.map_some, Option.getD_some,
      SortedSet.scores_foldl_insert]
    cases sets.byKey[key]? <;> rfl
  · rfl

theorem contents_remove (sets : Sets) (key k : String) (ids : List EventId) :
    (sets.remove key ids).contents k
      = if key = k then Contents.without (sets.contents k) ids else sets.contents k := by
  cases hset : sets.byKey[key]? with
  | none =>
      simp only [remove, hset]
      split
      · next hk =>
        subst hk
        rw [contents_of_none hset]
        refine Std.ExtTreeMap.ext_getElem? fun id => ?_
        rw [Contents.getElem?_without, Std.ExtTreeMap.getElem?_empty, ite_self]
      · rfl
  | some set =>
      have hscores := SortedSet.scores_foldl_remove set ids
      simp only [remove, hset]
      by_cases hk : key = k
      · subst hk
        rw [if_pos rfl, contents_of_some hset, ← hscores]
        -- a set that has lost its last member is dropped, and then reads as empty
        by_cases hempty : (ids.foldl SortedSet.remove set).isEmpty = true
        · rw [SortedSet.isEmpty_eq, Std.ExtTreeMap.isEmpty_iff] at hempty
          simp [hempty, contents, SortedSet.isEmpty_eq]
        · simp [hempty, contents]
      · rw [if_neg hk]
        by_cases hempty : (ids.foldl SortedSet.remove set).isEmpty = true
        · simp [hempty, contents, getElem?_erase_ite, hk]
        · simp [hempty, contents, getElem?_insert_ite, hk]

/-! ## Soundness -/

/-- Every set that is held is sound. -/
def Sound (sets : Sets) : Prop :=
  ∀ (key : String) (set : SortedSet), sets.byKey[key]? = some set → set.Sound

theorem sound_fresh : Sound {} := by
  intro key set h
  rw [Std.ExtTreeMap.getElem?_empty] at h
  contradiction

theorem Sound.insert {sets : Sets} (h : sets.Sound) (key : String) {set : SortedSet}
    (hset : set.Sound) : Sound ⟨sets.byKey.insert key set⟩ := by
  intro k s hs
  rw [getElem?_insert_ite] at hs
  split at hs
  · cases hs
    exact hset
  · exact h k s hs

theorem Sound.add {sets : Sets} (h : sets.Sound) (key : String) (ms : List Member) :
    (sets.add key ms).Sound := by
  refine h.insert key (SortedSet.Sound.foldl_insert ?_ ms)
  rw [Std.ExtTreeMap.getD_eq_getD_getElem?]
  cases hset : sets.byKey[key]? with
  | none => exact SortedSet.sound_empty
  | some set => exact h key set hset

theorem Sound.remove {sets : Sets} (h : sets.Sound) (key : String) (ids : List EventId) :
    (sets.remove key ids).Sound := by
  cases hset : sets.byKey[key]? with
  | none =>
      simp only [Sets.remove, hset]
      exact h
  | some set =>
      simp only [Sets.remove, hset]
      have hrest := (h key set hset).foldl_remove ids
      by_cases hempty : (ids.foldl SortedSet.remove set).isEmpty = true
      · simp only [hempty, if_true]
        intro k s hs
        rw [getElem?_erase_ite] at hs
        split at hs
        · contradiction
        · exact h k s hs
      · simp only [hempty]
        exact h.insert key hrest

theorem Sound.answer {sets : Sets} (h : sets.Sound) (call : SetCall) :
    (sets.answer call).2.Sound := by
  cases call with
  | add set ms => exact h.add set.key ms
  | remove set ids => exact h.remove set.key ids
  | _ => exact h

/-- What some calls make of no sets at all. -/
def after (calls : List SetCall) : Sets := calls.foldl (fun sets call => (sets.answer call).2) {}

theorem sound_after (calls : List SetCall) : (after calls).Sound :=
  List.foldlRecOn calls _ sound_fresh fun _ h call _ => h.answer call

/-! ## Reading calls -/

theorem Sound.answer_rangeByScore {sets : Sets} (h : sets.Sound) (set : EventSet)
    (range : ScoreRange) :
    sets.answer (.rangeByScore set range)
      = (Contents.window (sets.contents set.key) range.admits range.descending range.limit, sets) := by
  cases hset : sets.byKey[set.key]? with
  | none =>
      have hnone : SortedSet.range {} range = [] := by
        simp only [SortedSet.range, List.dropWhile_nil, List.takeWhile_nil, List.reverse_nil, ite_self]
        cases range.limit <;> simp
      rw [contents_of_none hset, ← SortedSet.sound_empty.range_eq_window range, hnone]
      simp only [Sets.answer, hset]
      rfl
  | some s =>
      rw [contents_of_some hset, ← (h set.key s hset).range_eq_window range]
      simp only [Sets.answer, hset]
      rfl

theorem Sound.answer_rangeByRank {sets : Sets} (h : sets.Sound) (set : EventSet)
    {start stop : Nat} (hle : start ≤ stop) :
    sets.answer (.rangeByRank set start stop)
      = (Contents.slice (sets.contents set.key) start stop, sets) := by
  cases hset : sets.byKey[set.key]? with
  | none =>
      rw [contents_of_none hset]
      simp only [Sets.answer, hset, Contents.slice, Contents.members_empty, List.take_nil,
        List.drop_nil]
      rfl
  | some s =>
      rw [contents_of_some hset, ← (h set.key s hset).ranks_eq_slice hle]
      simp only [Sets.answer, hset]
      rfl

/-- The members of a sound set, in order, are those of its contents. -/
theorem Sound.members_eq {sets : Sets} (h : sets.Sound) (key : String) :
    sets.members key = Contents.members (sets.contents key) := by
  unfold members
  cases hset : sets.byKey[key]? with
  | none =>
      rw [contents_of_none hset, Contents.members_empty]
      rfl
  | some s =>
      rw [contents_of_some hset]
      exact h key s hset

/-- Ranks are read off the members in order, also where `stop` comes before `start`. -/
theorem answer_rangeByRank (sets : Sets) (set : EventSet) (start stop : Nat) :
    sets.answer (.rangeByRank set start stop)
      = (((sets.members set.key).drop start).take (stop - start + 1), sets) := by
  unfold members
  cases hset : sets.byKey[set.key]? with
  | none => simp [answer, hset]
  | some s =>
      simp only [answer, hset]
      rfl

theorem answer_scoreOf (sets : Sets) (set : EventSet) (id : EventId) :
    sets.answer (.scoreOf set id) = ((sets.contents set.key)[id]?, sets) := by
  cases hset : sets.byKey[set.key]? with
  | none =>
      rw [contents_of_none hset, Std.ExtTreeMap.getElem?_empty]
      simp only [answer, hset]
      rfl
  | some s =>
      rw [contents_of_some hset]
      simp only [answer, hset]
      rfl

theorem answer_isEmpty (sets : Sets) (set : EventSet) :
    sets.answer (.isEmpty set) = ((sets.contents set.key).isEmpty, sets) := by
  cases hset : sets.byKey[set.key]? with
  | none =>
      rw [contents_of_none hset, Std.ExtTreeMap.isEmpty_empty]
      simp only [answer, hset]
      rfl
  | some s =>
      rw [contents_of_some hset]
      simp only [answer, hset]
      rfl

end Sets
end GroupQueue
