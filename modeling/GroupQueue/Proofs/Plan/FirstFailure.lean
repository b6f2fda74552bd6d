import GroupQueue.Proofs.Plan.Exchanges

/-!
# `Proofs.Plan.FirstFailure` — a plan ends at the first call that fails

A plan makes its calls from guards, from conditions inside conditions, from selections and from every set that
it writes to, and which call comes next depends on all replies before. Wherever a call fails, that is the end of
the plan, and its failure is what the plan comes to. This follows from what is true of every conversation, and
from the evaluation being one.

## Contents
- `Plan.exchanges` — the calls of a plan with their replies; `exchanges_of_valid`, `exchanges_of_invalid`.
- `first_failure_ends_plan` — what a failing call does, and which calls there are.
-/

namespace GroupQueue

/-- A call to the holder of the sets, with the reply to it. -/
abbrev SetExchange := Dialogue.Exchange SetCall.interface Failure

/-- The same holder of the sets, but the call that `n` others come before fails. Its state counts the calls. -/
def SetHolder.failingAt {σ : Type} (holder : SetHolder σ) (n : Nat) (failure : Failure) : SetHolder (Nat × σ) :=
  Dialogue.failingAt (I := SetCall.interface) n failure holder

namespace Plan

variable {σ : Type} {plan : Plan}

/-- The calls that a holder of the sets gets while a plan is executed, each with the reply to it. -/
def exchanges (plan : Plan) (holder : SetHolder σ) (s : σ) : List SetExchange :=
  ((plan.execute (Dialogue.logging (I := SetCall.interface) holder)).run (s, [])).2.2

/-- What the execution of a plan comes to. -/
def outcome (plan : Plan) (holder : SetHolder σ) (s : σ) : Except Failure Evaluation :=
  ((plan.execute holder).run s).1

/-- A plan that validates is a conversation. -/
theorem trace_of_valid (h : plan.validate = .ok ()) (holder : SetHolder σ) (s : σ) :
    plan.evaluate.trace holder s = (plan.outcome holder s, plan.exchanges holder s) := by
  rw [outcome, exchanges, execute_eq_of_valid h, execute_eq_of_valid h, ← Dialogue.fst_trace]
  rfl

/-- A plan that does not makes no call. -/
theorem exchanges_of_invalid {fault : PlanFault} (h : plan.validate = .error fault) (holder : SetHolder σ)
    (s : σ) : plan.exchanges holder s = [] := by
  rw [exchanges, execute_eq_of_invalid h]
  rfl

theorem outcome_of_invalid {fault : PlanFault} (h : plan.validate = .error fault) (holder : SetHolder σ)
    (s : σ) : plan.outcome holder s = .error (.invalidPlan fault) := by
  rw [outcome, execute_eq_of_invalid h]
  rfl

/-- A plan that validates goes on up to the first call that fails. -/
theorem upToFailure_of_valid (h : plan.validate = .ok ()) (holder : SetHolder σ) (s : σ) :
    Dialogue.UpToFailure (plan.outcome holder s) (plan.exchanges holder s) := by
  have hup := Dialogue.upToFailure_trace (I := SetCall.interface) holder plan.evaluate s
  rwa [trace_of_valid h] at hup

/-- If a call of a plan that validates is made to fail, the plan ends there, and is the same up to there. -/
theorem failingAt_of_valid (h : plan.validate = .ok ()) (holder : SetHolder σ) (s : σ) (k : Nat)
    (failure : Failure) :
    (∀ x, (plan.exchanges holder s)[k]? = some x →
        plan.outcome (holder.failingAt k failure) (0, s) = .error failure
          ∧ plan.exchanges (holder.failingAt k failure) (0, s)
            = (plan.exchanges holder s).take k ++ [⟨x.call, .error failure⟩])
      ∧ ((plan.exchanges holder s)[k]? = none →
        plan.outcome (holder.failingAt k failure) (0, s) = plan.outcome holder s
          ∧ plan.exchanges (holder.failingAt k failure) (0, s) = plan.exchanges holder s) := by
  have hrun := Dialogue.trace_failingAt (I := SetCall.interface) holder failure plan.evaluate s 0 k
  rw [Nat.zero_add, trace_of_valid h, trace_of_valid h] at hrun
  exact ⟨fun x hx => Prod.mk.inj (hrun.1 x hx), fun hnone => Prod.mk.inj (hrun.2 hnone)⟩

/-- Every call of a plan that validates can have an effect. -/
theorem effective_of_valid (h : plan.validate = .ok ()) (holder : SetHolder σ) (s : σ) :
    ∀ x ∈ plan.exchanges holder s, x.call.Effective := by
  intro x hx
  have hfits := (asksOnly_fits plan).trace holder s
  rw [trace_of_valid h] at hfits
  exact (hfits x hx).effective

end Plan

/-- **A plan ends at the first call that fails**, whoever holds the sets and whatever is replied. If a call fails,
    it is the last one, all calls before it were answered, and its failure is what the plan comes to; if none
    fails, the plan comes to its end, or does not validate and makes no call. If a call of a run is made to fail,
    the calls before it are those of the run, with the same replies; if the run has no such call, it stays as it
    is. And every call can have an effect. -/
theorem first_failure_ends_plan (plan : Plan) {σ : Type} (holder : SetHolder σ) (s : σ) :
    let log := plan.exchanges holder s
    (∀ before call failure after, log = before ++ ⟨call, .error failure⟩ :: after →
        plan.outcome holder s = .error failure ∧ after = [] ∧ ∀ x ∈ before, x.Succeeds)
      ∧ ((∀ x ∈ log, x.Succeeds) →
          (∃ evaluated, plan.outcome holder s = .ok evaluated)
          ∨ ∃ fault, plan.validate = .error fault ∧ plan.outcome holder s = .error (.invalidPlan fault) ∧ log = [])
      ∧ (∀ k failure,
          let broken := holder.failingAt k failure
          (∀ x, log[k]? = some x → plan.outcome broken (0, s) = .error failure
              ∧ plan.exchanges broken (0, s) = log.take k ++ [⟨x.call, .error failure⟩])
            ∧ (log[k]? = none → plan.outcome broken (0, s) = plan.outcome holder s
              ∧ plan.exchanges broken (0, s) = log))
      ∧ ∀ x ∈ log, x.call.Effective := by
  intro log
  cases hvalid : plan.validate with
  | error fault =>
      -- such a plan makes no call, whoever holds the sets
      have hlog : log = [] := Plan.exchanges_of_invalid hvalid holder s
      have houtcome : plan.outcome holder s = .error (.invalidPlan fault) :=
        Plan.outcome_of_invalid hvalid holder s
      rw [hlog]
      refine ⟨fun before call failure after hsplit => ?_, fun _ => Or.inr ⟨fault, rfl, houtcome, rfl⟩,
        fun k failure => ⟨fun x hx => ?_, fun _ => ⟨?_, ?_⟩⟩, fun x hx => absurd hx List.not_mem_nil⟩
      · exact absurd hsplit.symm (List.append_ne_nil_of_right_ne_nil _ (List.cons_ne_nil _ _))
      · rw [List.getElem?_nil] at hx
        contradiction
      · exact (Plan.outcome_of_invalid hvalid _ _).trans houtcome.symm
      · exact Plan.exchanges_of_invalid hvalid _ _
  | ok u =>
      have hup := Plan.upToFailure_of_valid hvalid holder s
      exact ⟨fun _ _ _ _ hsplit => hup.of_error hsplit, fun hall => Or.inl (hup.of_succeeds hall),
        Plan.failingAt_of_valid hvalid holder s, Plan.effective_of_valid hvalid holder s⟩

end GroupQueue
