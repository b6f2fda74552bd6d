import GroupQueue.Proofs.Store.Contents
import Mathlib.Data.Set.Card

/-!
# `Proofs.Store.Counting` — how many entries of a map pass a test

A store counts entries of a map by the sizes of maps. What is counted is a set of keys: those whose entries pass a
test, none of them twice (`encard_passing`).

## Contents
- `size_filter_add_size_filter` — the entries that pass a test and those that do not.
- `encard_keys`, `encard_passing` — the sizes of maps count keys.
-/

namespace GroupQueue

variable {κ υ : Type} [Ord κ] [Std.TransOrd κ]

/-- Every entry passes the test or does not. -/
theorem size_filter_add_size_filter (t : Std.ExtTreeMap κ υ) (test : υ → Bool) :
    (t.filter fun _ v => test v).size + (t.filter fun _ v => !test v).size = t.size := by
  rw [← Std.ExtTreeMap.length_toList, ← Std.ExtTreeMap.length_toList, ← Std.ExtTreeMap.length_toList,
    Std.ExtTreeMap.toList_filter, Std.ExtTreeMap.toList_filter]
  exact (List.length_eq_length_filter_add _).symm

variable [Std.LawfulEqOrd κ] [DecidableEq κ]

/-- A map has as many entries as keys. -/
theorem encard_keys (t : Std.ExtTreeMap κ υ) : {k | k ∈ t}.encard = t.size := by
  have hkeys : {k | k ∈ t} = (t.keys.toFinset : Set κ) := by
    ext k
    rw [List.coe_toFinset, Set.mem_ofPred_eq, Set.mem_ofPred_eq, Std.ExtTreeMap.mem_keys]
  rw [hkeys, Set.encard_coe_eq_coe_finsetCard, List.toFinset_card_of_nodup Std.ExtTreeMap.nodup_keys,
    Std.ExtTreeMap.length_keys]

/-- **The keys whose entries pass a test** are as many as the entries that are left by it. -/
theorem encard_passing (t : Std.ExtTreeMap κ υ) (test : υ → Bool) :
    {k : κ | ∃ v, t[k]? = some v ∧ test v = true}.encard = (t.filter fun _ v => test v).size := by
  rw [← encard_keys]
  congr 1
  ext k
  rw [Set.mem_ofPred_eq, Set.mem_ofPred_eq, Std.ExtTreeMap.mem_iff_isSome_getElem?, Option.isSome_iff_exists]
  refine exists_congr fun v => ?_
  rw [Std.ExtTreeMap.getElem?_filter', Option.filter_eq_some_iff]

end GroupQueue
