import GroupQueue.Plan.Basic

/-!
# `Proofs.Plan.SetOrder` — the sets of a plan are in order, each of them once

`EventSet.compare` looks at the namespace, the role, the queue and the group in turn, so it is the
lexicographic product of four orders and transitive as these are. Insertion keeps a list increasing, and the
sets of a plan therefore come in strictly increasing order.

## Contents
- `EventSet.compare_eq_compareLex` — the order of sets as a product; it is transitive.
- `EventSet.Increasing` — in strictly increasing order; `increasing_sorted`, `Plan.increasing_sets`.
-/

namespace GroupQueue
namespace EventSet

theorem compare_eq_compareLex :
    compare = compareLex (compareOn base) (compareLex (compareOn fun set => set.role.ctorIdx)
      (compareLex (compareOn queue) (compareOn group))) := by
  funext a b
  obtain ⟨_, _, _, g⟩ := a
  obtain ⟨_, _, _, h⟩ := b
  cases g <;> cases h <;> rfl

instance : Std.TransCmp compare := by
  rw [compare_eq_compareLex]
  infer_instance

theorem ne_of_compare_lt {a b : EventSet} (h : a.compare b = .lt) : a ≠ b := by
  rintro rfl
  rw [compare_eq_iff_eq.mpr rfl] at h
  contradiction

/-- A list of sets in strictly increasing order. -/
def Increasing (sets : List EventSet) : Prop := sets.Pairwise fun a b => a.compare b = .lt

theorem Increasing.insertInto {sets : List EventSet} (h : Increasing sets) (set : EventSet) :
    Increasing (insertInto set sets) := by
  induction sets with
  | nil => exact List.pairwise_singleton _ _
  | cons t ts ih =>
      obtain ⟨hhead, htail⟩ := List.pairwise_cons.mp h
      unfold EventSet.insertInto
      split
      · next hlt =>
        refine List.pairwise_cons.mpr ⟨fun s hs => ?_, h⟩
        rcases List.mem_cons.mp hs with rfl | hs
        · exact hlt
        · exact Std.TransCmp.lt_trans hlt (hhead s hs)
      · exact h
      · next hgt =>
        refine List.pairwise_cons.mpr ⟨fun s hs => ?_, ih htail⟩
        rcases mem_insertInto.mp hs with rfl | hs
        · exact Std.OrientedCmp.gt_iff_lt.mp hgt
        · exact hhead s hs

/-- **Sorting lists the distinct sets in strictly increasing order.** -/
theorem increasing_sorted (sets : List EventSet) : Increasing (sorted sets) := by
  induction sets with
  | nil => exact List.Pairwise.nil
  | cons set sets ih => exact ih.insertInto set

end EventSet

theorem Plan.increasing_sets (plan : Plan) : EventSet.Increasing plan.sets :=
  EventSet.increasing_sorted plan.mentions

end GroupQueue
