import GroupQueue.Proofs.Store.Tight
import GroupQueue.Proofs.Store.Walks
import Mathlib.Data.List.Induction

/-!
# `Proofs.Store.Changes` — a sorted set after any changes

A sorted set is changed in two ways: a member is inserted, which may move an event that is there already to another
score, or an event is removed, which may not be there at all. Whatever the changes are, the score of an event is
the one that **the last change about it** has left (`getElem?_scores_afterChanges`, by induction on the changes from
their end), and the list of members keeps in step with the map of scores: each event of the map is listed once, with
its score there, by score and then by identifier. So a range is what is left of that list between the bounds, also
for a walk whose edges are the least and the greatest identifier, and ranks are positions in it.

Soundness is no more than that: the sound sets are the ones that changes lead to (`sound_iff_afterChanges`). What
holds after any changes therefore holds of every set that a store keeps, and a store that has executed plans keeps
none without members.

## Contents
- `SortedSet.Change`, `SortedSet.afterChanges` — changes, and the set that they lead to.
- `SortedSet.lastScore?` — the score that changes leave an event with; `getElem?_scores_afterChanges`.
- `SortedSet.sound_iff_afterChanges` — which sets there are.
- `ScoreRange.arrange` — members in the direction of a range and up to its limit; `Sound.range_eq_arrange`.
- `SortedSet.getElem?_ranks` — the members at some ranks.
- `halves_stay_in_step` — all of it, after any changes and in every state that plans can reach.
-/

namespace GroupQueue

/-! ## Changes -/

namespace SortedSet

/-- A change of a sorted set. -/
inductive Change where
  | insert (m : Member)
  | remove (id : EventId)
deriving DecidableEq, Repr

/-- The event that a change is about. -/
def Change.event : Change → EventId
  | insert m => m.id
  | remove id => id

/-- The score that a change leaves its event with. -/
def Change.score? : Change → Option Int
  | insert m => some m.score
  | remove _ => none

/-- Make a change. -/
def change (set : SortedSet) : Change → SortedSet
  | .insert m => set.insert m
  | .remove id => set.remove id

/-- An empty set after some changes. -/
def afterChanges (changes : List Change) : SortedSet := changes.foldl change {}

/-- The score that some changes leave an event with: the last one about it decides. -/
def lastScore? (changes : List Change) (id : EventId) : Option Int :=
  (changes.filter fun change => change.event = id).getLast?.bind Change.score?

variable {set : SortedSet}

theorem afterChanges_concat (changes : List Change) (change : Change) :
    afterChanges (changes ++ [change]) = (afterChanges changes).change change :=
  List.foldl_concat _ _ _ _

theorem lastScore?_concat (changes : List Change) (change : Change) (id : EventId) :
    lastScore? (changes ++ [change]) id
      = if change.event = id then change.score? else lastScore? changes id := by
  unfold lastScore?
  rw [List.filter_append]
  by_cases h : change.event = id
  · simp [h]
  · simp [h]

/-! ## The map of scores -/

theorem getElem?_scores_change (set : SortedSet) (change : Change) (id : EventId) :
    (set.change change).scores[id]? = if change.event = id then change.score? else set.scores[id]? := by
  cases change with
  | insert m =>
      rw [SortedSet.change, scores_insert, getElem?_insert_ite]
      rfl
  | remove x =>
      rw [SortedSet.change, scores_remove, getElem?_erase_ite]
      rfl

/-- **An event has the score that the last change about it has left**, by induction on the changes from their end. -/
theorem getElem?_scores_afterChanges (changes : List Change) (id : EventId) :
    (afterChanges changes).scores[id]? = lastScore? changes id := by
  induction changes using List.reverseRecOn with
  | nil => exact Std.ExtTreeMap.getElem?_empty
  | append_singleton changes change ih =>
      rw [afterChanges_concat, getElem?_scores_change, lastScore?_concat, ih]

/-- What is left with a score was inserted. -/
theorem mem_of_lastScore? {changes : List Change} {m : Member} (h : lastScore? changes m.id = some m.score) :
    .insert m ∈ changes := by
  obtain ⟨change, hlast, hscore⟩ := Option.bind_eq_some_iff.mp h
  obtain ⟨hmem, hevent⟩ := List.mem_filter.mp (List.mem_of_getLast? hlast)
  cases change with
  | insert x =>
      have hx : x = m := by
        cases x
        cases m
        cases of_decide_eq_true hevent
        cases hscore
        rfl
      exact hx ▸ hmem
  | remove x => contradiction

/-! ## The list of members -/

theorem Sound.change (h : set.Sound) (change : Change) : (set.change change).Sound := by
  cases change with
  | insert m => exact h.insert m
  | remove id => exact h.remove id

theorem sound_afterChanges (changes : List Change) : (afterChanges changes).Sound :=
  List.foldlRecOn changes _ sound_empty fun _ h change _ => h.change change

/-- **The sound sets are those that changes lead to**: to put in what such a set lists is enough. -/
theorem sound_iff_afterChanges : set.Sound ↔ ∃ changes, set = afterChanges changes := by
  refine ⟨fun h => ⟨set.ordered.map .insert, h.eq_of_scores (sound_afterChanges _) ?_⟩, ?_⟩
  · have hscores : (afterChanges (set.ordered.map .insert)).scores = Contents.upsert ∅ set.ordered := by
      rw [afterChanges, List.foldl_map]
      exact scores_foldl_insert {} set.ordered
    -- no event is listed twice, so each one ends up with the score that it is listed with
    refine Std.ExtTreeMap.ext_getElem? fun id => Option.ext fun score => ?_
    have hlisted := @Contents.getElem?_upsert_of_nodup ∅ set.ordered h.nodup_ids ⟨id, score⟩
    rw [Std.ExtTreeMap.getElem?_empty] at hlisted
    rw [hscores, hlisted, h.mem_ordered]
    simp
  · rintro ⟨changes, rfl⟩
    exact sound_afterChanges changes

end SortedSet

/-! ## Reads -/

/-- Members that are given in ascending order, in the direction of a range and up to its limit. -/
def ScoreRange.arrange (range : ScoreRange) (found : List Member) : List Member :=
  let directed := if range.descending then found.reverse else found
  match range.limit with
  | some limit => directed.take limit
  | none => directed

namespace SortedSet

variable {set : SortedSet}

/-- **A range is what is listed between its bounds.** -/
theorem Sound.range_eq_arrange (h : set.Sound) (range : ScoreRange) :
    set.range range = range.arrange (set.ordered.filter fun m => range.admits m.score) := by
  rw [h.range_eq_window, h, ← Contents.members_filter]
  rfl

/-- Ranks are positions in the list, as far as it goes. -/
theorem getElem?_ranks (set : SortedSet) {start stop : Nat} (hle : start ≤ stop) (i : Nat) :
    (set.ranks start stop)[i]? = if start + i ≤ stop then set.ordered[start + i]? else none := by
  have hroom : i < stop - start + 1 ↔ start + i ≤ stop := by omega
  rw [ranks, List.getElem?_take, List.getElem?_drop]
  simp only [hroom]

/-- If all events that changes are about are machine words, so are those that are listed in the end. -/
theorem fitsWord_of_mem_afterChanges {changes : List Change} (h : ∀ change ∈ changes, change.event.FitsWord)
    {m : Member} (hm : m ∈ (afterChanges changes).ordered) : m.id.FitsWord := by
  rw [(sound_afterChanges changes).mem_ordered, getElem?_scores_afterChanges] at hm
  exact h _ (mem_of_lastScore? hm)

end SortedSet

/-! ## Any changes, any plans -/

/-- **The two halves of a sorted set stay in step.** After any changes, the list has exactly the events of the map with
    their scores, each event once, by score and then by identifier, and the score is the one that the last change
    about the event has left. A range is what is listed between its bounds, in its direction and up to its limit, and
    the walk between its edges finds just that if all identifiers are machine words, the least and the greatest ones
    included; ranks are positions in the list, as far as it goes. And in every state that plans can reach, each set
    that is kept has members, and is one that changes lead to. -/
theorem halves_stay_in_step :
    (∀ changes : List SortedSet.Change,
      let set := SortedSet.afterChanges changes
      (∀ m, m ∈ set.ordered ↔ set.scores[m.id]? = some m.score)
        ∧ (set.ordered.map Member.id).Nodup
        ∧ set.ordered.Pairwise (fun a b => a.precedes b = true)
        ∧ (∀ id, set.scores[id]? = SortedSet.lastScore? changes id)
        ∧ (∀ range : ScoreRange,
            set.range range = range.arrange (set.ordered.filter fun m => range.admits m.score)
              ∧ ((∀ change ∈ changes, change.event.FitsWord) → set.walkRange range = .ok (set.range range)))
        ∧ ∀ start stop, start ≤ stop →
            set.walkRanks start stop = .ok (set.ranks start stop)
              ∧ ∀ i, (set.ranks start stop)[i]? = if start + i ≤ stop then set.ordered[start + i]? else none)
      ∧ ∀ (history : List Plan) (key : String) (set : SortedSet),
          (Memory.afterPlans history).sets.byKey[key]? = some set →
            set.ordered ≠ [] ∧ ∃ changes, set = SortedSet.afterChanges changes := by
  constructor
  · intro changes set
    have hsound : set.Sound := SortedSet.sound_afterChanges changes
    refine ⟨fun _ => hsound.mem_ordered, hsound.nodup_ids, hsound.sorted,
      SortedSet.getElem?_scores_afterChanges changes, fun range => ?_, fun start stop hle => ?_⟩
    · refine ⟨hsound.range_eq_arrange range, fun hwords => ?_⟩
      exact hsound.walkRange_eq (fun _ hm => SortedSet.fitsWord_of_mem_afterChanges hwords hm) range
    · exact ⟨set.walkRanks_ok hle, set.getElem?_ranks hle⟩
  · intro history key set hset
    have hcanonical := Memory.canonical_afterPlans history
    have hsound : set.Sound := hcanonical.sets key set hset
    have hfull : set.isEmpty = false := hcanonical.tight key set hset
    refine ⟨fun hnone => ?_, SortedSet.sound_iff_afterChanges.mp hsound⟩
    rw [hsound.ordered_eq_nil_iff.mp hnone] at hfull
    contradiction

/-- The least and the greatest identifier tie on a score that one range includes and another one excludes. The least
    one has been moved there, one event has come and gone, and one was never there; the ranks go beyond the end. Of
    the two events that a plan puts into a set, the one that it takes out again does not leave the set without
    members. -/
theorem halves_stay_in_step_extremes :
    let least : EventId := ⟨Text.minWord⟩
    let greatest : EventId := ⟨Text.maxWord⟩
    let changes : List SortedSet.Change := [.insert ⟨greatest, 5⟩, .insert ⟨⟨7⟩, 5⟩, .insert ⟨least, 9⟩,
      .insert ⟨⟨4⟩, 6⟩, .insert ⟨⟨3⟩, 5⟩, .remove ⟨7⟩, .insert ⟨least, 5⟩, .remove ⟨8⟩]
    let set := SortedSet.afterChanges changes
    let upToFive : ScoreRange :=
      { lower := .excluded 4, upper := .included 5, limit := some 2, descending := true }
    let available : EventSet := ⟨"b", .available, "q", none⟩
    let history : List Plan := [⟨"b", .ofMicros 0, [.pick (.events [least, greatest]), .addTo [available] (some 5),
      .pick (.first available), .removeFrom [available]]⟩]
    set.ordered = [⟨least, 5⟩, ⟨⟨3⟩, 5⟩, ⟨greatest, 5⟩, ⟨⟨4⟩, 6⟩]
      ∧ set.walkRange upToFive = .ok [⟨greatest, 5⟩, ⟨⟨3⟩, 5⟩]
      ∧ set.walkRange (.above 5) = .ok [⟨⟨4⟩, 6⟩]
      ∧ (set.ranks 1 7)[2]? = some ⟨⟨4⟩, 6⟩ ∧ (set.ranks 1 7)[3]? = none
      ∧ ∃ held, (Memory.afterPlans history).sets.byKey[available.key]? = some held ∧ held.ordered ≠ [] := by
  intro least greatest changes set upToFive available history
  have hordered : set.ordered = [⟨least, 5⟩, ⟨⟨3⟩, 5⟩, ⟨greatest, 5⟩, ⟨⟨4⟩, 6⟩] := by decide +kernel
  have hwords : ∀ change ∈ changes, change.event.FitsWord := by decide
  obtain ⟨-, -, -, -, hrange, hranks⟩ := halves_stay_in_step.1 changes
  have hwalk (range : ScoreRange) :
      set.walkRange range = .ok (range.arrange (set.ordered.filter fun m => range.admits m.score)) := by
    rw [(hrange range).2 hwords, (hrange range).1]
  obtain ⟨held, hheld⟩ : ∃ held, (Memory.afterPlans history).sets.byKey[available.key]? = some held :=
    Option.isSome_iff_exists.mp (by decide +kernel)
  refine ⟨hordered, ?_, ?_, ?_, ?_, held, hheld, (halves_stay_in_step.2 history available.key held hheld).1⟩
  · rw [hwalk, hordered]
    rfl
  · rw [hwalk, hordered]
    rfl
  · rw [(hranks 1 7 (by decide)).2, hordered]
    rfl
  · rw [(hranks 1 7 (by decide)).2, hordered]
    rfl

end GroupQueue
