import GroupQueue.Proofs.Plan.Exchanges

/-!
# `Proofs.Plan.Conditions` — nested conditions are evaluated from left to right

Conditions nest to any depth. Read as they are nested, a conjunction holds if each of its parts does, and its
parts are asked from left to right up to the first one that does not hold (`Condition.verdict`). The evaluation
does not descend into a condition; it goes round a loop with a stack of pending conditions, takes the topmost one
and puts the parts of a conjunction in its place, the last part first (`Condition.rounds`). `Condition.holds`
is that loop with the top of the stack in front.

All three are **the same conversation**, call by call: what is pending is what is left of the reading, so that
putting the parts of a conjunction in its place changes nothing (`verdictOfAll_append`). The stack may grow in
every round, but the conditions in it never get more, counted with all of their parts; each round takes one of
them away, so the loop ends after as many rounds as there are (`rounds_eq`).

## Contents
- `Condition.verdict`, `verdictOfAll` — conditions read as they are nested; `asksOnly_verdict`: what they ask.
- `holdsAll_eq_verdictOfAll`, `holds_eq_verdict` — the work list comes to the same.
- `Condition.visit`, `Condition.rounds` — the loop with its stack; `rounds_eq`.
- `holds_as_nested` — the loop, the work list and the reading, whoever holds the sets.
-/

namespace GroupQueue
namespace Condition

variable {acc : List Member}

/-! ## Conditions as they are nested -/

mutual

/-- Whether a condition holds for the current selection. -/
def verdict (acc : List Member) : Condition → SetDialogue Bool
  | .ifInput => pure !acc.isEmpty
  | .ifNoInput => pure acc.isEmpty
  | .ifEmpty set => Dialogue.call (I := SetCall.interface) (.isEmpty set)
  | .all conditions => verdictOfAll acc conditions

/-- Whether all conditions hold, from left to right up to the first one that does not. -/
def verdictOfAll (acc : List Member) : List Condition → SetDialogue Bool
  | [] => pure true
  | condition :: rest => do
    if ← condition.verdict acc then verdictOfAll acc rest else pure false

end

theorem verdictOfAll_append (cs ds : List Condition) :
    verdictOfAll acc (cs ++ ds) = (do if ← verdictOfAll acc cs then verdictOfAll acc ds else pure false) := by
  induction cs with
  | nil => simp [verdictOfAll]
  | cons c cs ih =>
      rw [List.cons_append, verdictOfAll, verdictOfAll, ih, Dialogue.bind_assoc]
      refine congrArg _ (funext fun holds => ?_)
      cases holds <;> rfl

/-! ## What is asked -/

mutual

theorem asksOnly_verdict (condition : Condition) :
    (condition.verdict acc).AsksOnly fun call => ∃ set, call = SetCall.isEmpty set := by
  cases condition with
  | ifInput => exact Dialogue.asksOnly_pure _
  | ifNoInput => exact Dialogue.asksOnly_pure _
  | ifEmpty set => exact Dialogue.asksOnly_call ⟨set, rfl⟩
  | all conditions => exact asksOnly_verdictOfAll conditions

theorem asksOnly_verdictOfAll (conditions : List Condition) :
    (verdictOfAll acc conditions).AsksOnly fun call => ∃ set, call = SetCall.isEmpty set := by
  cases conditions with
  | nil => exact Dialogue.asksOnly_pure _
  | cons condition rest =>
      refine (asksOnly_verdict condition).bind fun holds => ?_
      cases holds with
      | true => exact asksOnly_verdictOfAll rest
      | false => exact Dialogue.asksOnly_pure _

end

/-! ## The work list -/

/-- **The work list comes to what the conditions in it come to**, call by call. -/
theorem holdsAll_eq_verdictOfAll (pending : List Condition) :
    holdsAll acc pending = verdictOfAll acc pending := by
  -- the cases are those of the work list, in which a conjunction gives way to its parts
  induction pending using holdsAll.induct acc with
  | case1 => simp [holdsAll, verdictOfAll]
  | case2 rest hacc => simp [holdsAll, verdictOfAll, verdict, hacc]
  | case3 rest hacc ih => simp [holdsAll, verdictOfAll, verdict, hacc, ih]
  | case4 rest hacc ih => simp [holdsAll, verdictOfAll, verdict, hacc, ih]
  | case5 rest hacc => simp [holdsAll, verdictOfAll, verdict, hacc]
  | case6 set rest ih =>
      rw [holdsAll, verdictOfAll, verdict, Dialogue.call_bind, ih]
  | case7 conditions rest ih => rw [holdsAll, ih, verdictOfAll_append, verdictOfAll, verdict]

/-- **Evaluating a condition is reading it as it is nested.** -/
theorem holds_eq_verdict (condition : Condition) : condition.holds acc = condition.verdict acc := by
  rw [holds, holdsAll_eq_verdictOfAll, verdictOfAll]
  refine Eq.trans (congrArg _ (funext fun holds => ?_)) (Dialogue.bind_done _)
  cases holds <;> simp [verdictOfAll]

/-! ## The loop -/

/-- What the loop does with a condition from the top of its stack, given what lies below: it ends in a truth
    value, or goes on with another stack. -/
def visit (acc : List Member) (below : List Condition) : Condition → SetDialogue (Bool ⊕ List Condition)
  | .ifInput => pure (if acc.isEmpty then .inl false else .inr below)
  | .ifNoInput => pure (if acc.isEmpty then .inr below else .inl false)
  | .ifEmpty set => do
    let empty : Bool ← Dialogue.call (I := SetCall.interface) (.isEmpty set)
    return if empty then .inr below else .inl false
  | .all conditions => pure (.inr (below ++ conditions.reverse))

/-- Go round the loop up to a number of times, with a stack of pending conditions whose top is the last one. It
    ends in a truth value, or has not ended by then. -/
def rounds (acc : List Member) : Nat → List Condition → SetDialogue (Option Bool)
  | 0, _ => pure none
  | n + 1, stack =>
    match stack.getLast? with
    | none => pure (some true)
    | some top => do
      match ← top.visit acc stack.dropLast with
      | .inl value => return some value
      | .inr stack => rounds acc n stack

theorem sizeOfAll_reverse (cs : List Condition) : sizeOfAll cs.reverse = sizeOfAll cs := by
  induction cs with
  | nil => rfl
  | cons c cs ih =>
      rw [List.reverse_cons, sizeOfAll_append, ih]
      simp only [sizeOfAll]
      omega

theorem rounds_concat (n : Nat) (below : List Condition) (top : Condition) :
    rounds acc (n + 1) (below ++ [top]) = (do
      match ← top.visit acc below with
      | .inl value => return some value
      | .inr stack => rounds acc n stack) := by
  rw [rounds, List.getLast?_concat, List.dropLast_concat]

/-- **The loop ends, and comes to what the work list comes to.** Every round takes one condition away for good,
    by induction on the rounds. -/
theorem rounds_eq (n : Nat) (stack : List Condition) (h : sizeOfAll stack < n) :
    rounds acc n stack = some <$> holdsAll acc stack.reverse := by
  induction n generalizing stack with
  | zero => exact absurd h (Nat.not_lt_zero _)
  | succ n ih =>
      rcases List.eq_nil_or_concat stack with rfl | ⟨below, top, rfl⟩
      · rw [rounds, List.reverse_nil, holdsAll]
        rfl
      · rw [List.concat_eq_append] at h ⊢
        rw [rounds_concat, List.reverse_append, List.reverse_singleton, List.singleton_append]
        rw [sizeOfAll_append, sizeOfAll, sizeOfAll, Nat.add_zero] at h
        have hpos := top.size_pos
        have hbelow := ih below (by omega)
        cases top with
        | ifInput =>
            rw [visit, holdsAll]
            cases acc.isEmpty with
            | true => rfl
            | false => exact hbelow
        | ifNoInput =>
            rw [visit, holdsAll]
            cases acc.isEmpty with
            | true => exact hbelow
            | false => rfl
        | ifEmpty set =>
            rw [visit, holdsAll]
            refine congrArg (Dialogue.ask (I := SetCall.interface) (.isEmpty set)) (funext fun (empty : Bool) => ?_)
            cases empty with
            | true => exact hbelow
            | false => rfl
        | all conditions =>
            -- the parts are put on the stack in reverse, so that the first one is the next to be taken
            have hparts : sizeOfAll (below ++ conditions.reverse) < n := by
              rw [sizeOfAll_append, sizeOfAll_reverse]
              rw [size] at h
              omega
            rw [visit, holdsAll]
            refine (ih _ hparts).trans ?_
            rw [List.reverse_append, List.reverse_reverse]

end Condition

/-- **Evaluating a condition is reading it as it is nested**, from left to right up to the first part that does not
    hold. The work list is the same conversation as the reading, and so is the loop, which ends after at most as
    many rounds as there are conditions in the condition, and one more. So whoever holds the sets and whichever
    calls fail, all of them come to the same and make the same calls in the same order, which ask whether sets
    are empty and nothing else. -/
theorem holds_as_nested (acc : List Member) (condition : Condition) :
    condition.holds acc = condition.verdict acc
      ∧ (∀ n, condition.size < n → Condition.rounds acc n [condition] = some <$> condition.verdict acc)
      ∧ ∀ {σ : Type} (holder : SetHolder σ) (s : σ) (n : Nat), condition.size < n →
        let nested := (condition.verdict acc).trace holder s
        (condition.holds acc).trace holder s = nested
          ∧ (Condition.rounds acc n [condition]).trace holder s = (nested.1.map some, nested.2)
          ∧ ∀ x ∈ nested.2, ∃ set, x.call = SetCall.isEmpty set := by
  have hrounds (n : Nat) (h : condition.size < n) :
      Condition.rounds acc n [condition] = some <$> condition.verdict acc := by
    rw [← Condition.holds_eq_verdict]
    refine Condition.rounds_eq n [condition] ?_
    rwa [Condition.sizeOfAll, Condition.sizeOfAll, Nat.add_zero]
  refine ⟨Condition.holds_eq_verdict condition, hrounds, fun holder s n h => ⟨?_, ?_, ?_⟩⟩
  · rw [Condition.holds_eq_verdict]
  · rw [hrounds n h, Dialogue.trace_map]
  · exact (Condition.asksOnly_verdict condition).trace holder s

end GroupQueue
