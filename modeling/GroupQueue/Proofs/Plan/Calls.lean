import GroupQueue.Plan.Evaluation

/-!
# `Proofs.Plan.Calls` — a plan asks only for the sets that it names

`Plan.sets` is computed from the text of a plan, by one traversal over its steps; which sets are asked for
is decided by another, the evaluation, as the replies come in. This module shows that the second never
leaves the first. A dialogue **asks only for allowed calls** when every call in its tree is allowed, whichever
replies lead there (`Dialogue.AsksOnly`); the evaluation of a plan asks only for calls about its sets
(`asksOnly_evaluate`, by induction on the steps, and on the work list for conditions inside conditions).
Nor does it ask for what can have no effect: a range that nothing can lie in, ranks that end before they start,
or anything on behalf of an empty selection (`SetCall.Effective`).

What a tree allows, every run obeys. A holder of the sets that writes down its calls
(`Dialogue.recording`) replies as before, and what it has written down was allowed
(`interpret_recording`). So this holds for every holder, whatever its state and whichever calls it fails.

## Contents
- `Dialogue.AsksOnly` — with a rule for every way to build a dialogue.
- `SetCall.About`, `SetCall.Effective`, `SetCall.Fits` — calls about some sets, and calls that can have an effect.
- `asksOnly_fits`, `asksOnly_evaluate` — the evaluation of a plan.
- `Dialogue.recording` — write down the calls; `interpret_recording`.
- `SetHolder`, `Plan.calls` — the calls of a plan; `Plan.set_mem_sets_of_mem_calls`.
-/

namespace GroupQueue

/-! ## Allowed calls -/

namespace Dialogue

variable {I : Interface} {α β : Type} {allowed : I.Call → Prop}

/-- Every call is an allowed one, whatever the replies before it are. -/
def AsksOnly (allowed : I.Call → Prop) : Dialogue I α → Prop
  | done _ => True
  | ask c next => allowed c ∧ ∀ reply, (next reply).AsksOnly allowed

@[simp] theorem asksOnly_done (a : α) : AsksOnly allowed (done a : Dialogue I α) := trivial

theorem asksOnly_pure (a : α) : AsksOnly allowed (pure a : Dialogue I α) := trivial

theorem asksOnly_call {c : I.Call} (h : allowed c) : (call c).AsksOnly allowed :=
  ⟨h, fun _ => trivial⟩

theorem AsksOnly.bind {d : Dialogue I α} {f : α → Dialogue I β} (hd : d.AsksOnly allowed)
    (hf : ∀ a, (f a).AsksOnly allowed) : (d >>= f).AsksOnly allowed := by
  induction d with
  | done a => exact hf a
  | ask c next ih => exact ⟨hd.1, fun reply => ih reply (hd.2 reply)⟩

theorem AsksOnly.mono {d : Dialogue I α} {wider : I.Call → Prop} (hd : d.AsksOnly allowed)
    (h : ∀ c, allowed c → wider c) : d.AsksOnly wider := by
  induction d with
  | done a => trivial
  | ask c next ih => exact ⟨h c hd.1, fun reply => ih reply (hd.2 reply)⟩

end Dialogue

/-! ## The calls of an evaluation -/

/-- A call is about a set with some property. -/
abbrev SetCall.About (allowed : EventSet → Prop) (call : SetCall) : Prop := allowed call.set

/-- A call can find something or change something: a range is resolved and has room between its bounds and up to
    its limit, ranks do not end before they start, and something is put in or taken out. -/
def SetCall.Effective : SetCall → Prop
  | .rangeByScore _ range => range.lowerFromInput = false ∧ range.isEmpty = false ∧ range.limit ≠ some 0
  | .rangeByRank _ start stop => start ≤ stop
  | .add _ members => members ≠ []
  | .remove _ events => events ≠ []
  | .scoreOf _ _ | .isEmpty _ => True

/-- A call is about a set with some property, and can have an effect. -/
structure SetCall.Fits (allowed : EventSet → Prop) (call : SetCall) : Prop where
  about : call.About allowed
  effective : call.Effective

section Evaluation

variable {allowed : EventSet → Prop} {acc : List Member}

theorem Condition.mentionsOfAll_append (cs ds : List Condition) :
    Condition.mentionsOfAll (cs ++ ds)
      = Condition.mentionsOfAll cs ++ Condition.mentionsOfAll ds := by
  induction cs with
  | nil => rfl
  | cons c cs ih => rw [List.cons_append, mentionsOfAll, ih, mentionsOfAll, List.append_assoc]

/-- Pending conditions ask only for the sets that are named in them, however deep. -/
theorem asksOnly_holdsAll (pending : List Condition)
    (h : ∀ set ∈ Condition.mentionsOfAll pending, allowed set) :
    (holdsAll acc pending).AsksOnly (SetCall.Fits allowed) := by
  -- the cases are those of the work list, in which a conjunction gives way to its parts
  induction pending using holdsAll.induct acc with
  | case1 =>
      rw [holdsAll]
      exact Dialogue.asksOnly_pure true
  | case2 rest hacc =>
      rw [holdsAll, if_pos hacc]
      exact Dialogue.asksOnly_pure false
  | case3 rest hacc ih =>
      rw [holdsAll, if_neg hacc]
      exact ih h
  | case4 rest hacc ih =>
      rw [holdsAll, if_pos hacc]
      exact ih h
  | case5 rest hacc =>
      rw [holdsAll, if_neg hacc]
      exact Dialogue.asksOnly_pure false
  | case6 set rest ih =>
      obtain ⟨hset, hrest⟩ := List.forall_mem_cons.mp h
      rw [holdsAll]
      refine ⟨⟨hset, trivial⟩, fun (empty : Bool) => ?_⟩
      cases empty with
      | true => exact ih hrest
      | false => exact Dialogue.asksOnly_pure false
  | case7 conditions rest ih =>
      rw [holdsAll]
      refine ih ?_
      rwa [Condition.mentionsOfAll_append]

theorem asksOnly_holds (condition : Condition) (h : ∀ set ∈ condition.mentions, allowed set) :
    (condition.holds acc).AsksOnly (SetCall.Fits allowed) := by
  refine asksOnly_holdsAll [condition] ?_
  rwa [Condition.mentionsOfAll, Condition.mentionsOfAll, List.append_nil]

theorem asksOnly_isWanted (choice : Select)
    (h : ∀ condition ∈ choice.guard, ∀ set ∈ condition.mentions, allowed set) :
    (choice.isWanted acc).AsksOnly (SetCall.Fits allowed) := by
  unfold Select.isWanted
  cases hguard : choice.guard with
  | none => exact Dialogue.asksOnly_pure true
  | some condition => exact asksOnly_holds condition (h condition hguard)

theorem asksOnly_members (selection : Selection) (h : ∀ set ∈ selection.set?, allowed set) :
    (selection.members acc).AsksOnly (SetCall.Fits allowed) := by
  cases selection with
  | events ids => exact Dialogue.asksOnly_pure _
  | scoreRange set range =>
      have hset : allowed set := h set rfl
      simp only [Selection.members]
      split
      · next resolved hresolved =>
        split
        · exact Dialogue.asksOnly_pure []
        · next hroom =>
          rw [Bool.or_eq_true, not_or, Bool.not_eq_true, beq_iff_eq] at hroom
          exact Dialogue.asksOnly_call ⟨hset, ScoreRange.lowerFromInput_resolve hresolved, hroom⟩
      · exact Dialogue.asksOnly_pure []
  | rank set start stop =>
      have hset : allowed set := h set rfl
      simp only [Selection.members]
      split
      · exact Dialogue.asksOnly_pure []
      · next hranks => exact Dialogue.asksOnly_call ⟨hset, Nat.not_lt.mp hranks⟩
  | scoreOf set event min max =>
      have hset : allowed set := h set rfl
      exact (Dialogue.asksOnly_call ⟨hset, trivial⟩).bind fun _ => Dialogue.asksOnly_pure _

theorem asksOnly_addToEach {ms : List Member} (hms : ms ≠ []) (sets : List EventSet)
    (h : ∀ set ∈ sets, allowed set) : (addToEach ms sets).AsksOnly (SetCall.Fits allowed) := by
  induction sets with
  | nil => exact Dialogue.asksOnly_pure ()
  | cons set sets ih =>
      obtain ⟨hset, hsets⟩ := List.forall_mem_cons.mp h
      exact ⟨⟨hset, hms⟩, fun _ => ih hsets⟩

theorem asksOnly_removeFromEach {ids : List EventId} (hids : ids ≠ []) (sets : List EventSet)
    (h : ∀ set ∈ sets, allowed set) : (removeFromEach ids sets).AsksOnly (SetCall.Fits allowed) := by
  induction sets with
  | nil => exact Dialogue.asksOnly_pure ()
  | cons set sets ih =>
      obtain ⟨hset, hsets⟩ := List.forall_mem_cons.mp h
      exact ⟨⟨hset, hids⟩, fun _ => ih hsets⟩

/-- Every set that a selecting step names is the one it draws from, or one its guard names. -/
theorem Step.mem_mentions_select {choice : Select} {set : EventSet} :
    set ∈ (Step.select choice).mentions
      ↔ set ∈ choice.selection.set? ∨ ∃ condition ∈ choice.guard, set ∈ condition.mentions := by
  rw [Step.mentions, List.mem_append, Option.mem_toList]
  cases choice.guard <;> simp

/-- **Steps ask only for the sets that they name**, by induction on the steps. -/
theorem asksOnly_evaluateFrom (steps : List Step) (index : Nat) (acc : List Member)
    (h : ∀ set ∈ steps.flatMap Step.mentions, allowed set) :
    (Plan.evaluateFrom index acc steps).AsksOnly (SetCall.Fits allowed) := by
  induction steps generalizing index acc with
  | nil => exact Dialogue.asksOnly_pure _
  | cons step rest ih =>
      rw [List.flatMap_cons, List.forall_mem_append] at h
      obtain ⟨hstep, hrest⟩ := h
      cases step with
      | select choice =>
          have hselection : ∀ set ∈ choice.selection.set?, allowed set := fun set hset =>
            hstep set (Step.mem_mentions_select.mpr (Or.inl hset))
          have hguard : ∀ condition ∈ choice.guard, ∀ set ∈ condition.mentions, allowed set :=
            fun condition hcondition set hset =>
              hstep set (Step.mem_mentions_select.mpr (Or.inr ⟨condition, hcondition, hset⟩))
          rw [Plan.evaluateFrom]
          refine (asksOnly_isWanted choice hguard).bind fun wanted => ?_
          split
          · exact (asksOnly_members choice.selection hselection).bind fun _ => ih _ _ hrest
          · exact (ih _ _ hrest).bind fun _ => Dialogue.asksOnly_pure _
      | addTo sets score =>
          rw [Plan.evaluateFrom]
          split
          · exact ih _ _ hrest
          · next hacc =>
            rw [List.isEmpty_iff] at hacc
            refine (asksOnly_addToEach ?_ sets hstep).bind fun _ => ih _ _ hrest
            exact fun hnone => hacc (List.map_eq_nil_iff.mp hnone)
      | removeFrom sets =>
          rw [Plan.evaluateFrom]
          split
          · exact ih _ _ hrest
          · next hacc =>
            rw [List.isEmpty_iff] at hacc
            refine (asksOnly_removeFromEach ?_ sets hstep).bind fun _ => ih _ _ hrest
            exact fun hnone => hacc (List.map_eq_nil_iff.mp hnone)
      | breakIf condition =>
          rw [Plan.evaluateFrom]
          refine (asksOnly_holds condition hstep).bind fun holds => ?_
          split
          · exact Dialogue.asksOnly_pure _
          · exact ih _ _ hrest

/-- The evaluation of a plan asks only for what can have an effect on the sets of the plan. -/
theorem asksOnly_fits (plan : Plan) : plan.evaluate.AsksOnly (SetCall.Fits (· ∈ plan.sets)) :=
  asksOnly_evaluateFrom plan.steps 0 [] fun _ hset => EventSet.mem_sorted.mpr hset

/-- **The evaluation of a plan asks only for the sets of the plan.** -/
theorem asksOnly_evaluate (plan : Plan) :
    plan.evaluate.AsksOnly (SetCall.About (· ∈ plan.sets)) :=
  (asksOnly_fits plan).mono fun _ h => h.about

end Evaluation

/-! ## Writing down the calls -/

namespace Dialogue

variable {I : Interface} {α ε σ : Type} {allowed : I.Call → Prop}

/-- A sequence goes on from the state that its first part leaves, unless that part fails. -/
theorem run_bind {β : Type} (x : ExceptT ε (StateM σ) α) (f : α → ExceptT ε (StateM σ) β) (s : σ) :
    (x >>= f).run s
      = match x.run s with
        | (.ok a, after) => (f a).run after
        | (.error fault, after) => (.error fault, after) := by
  show ExceptT.bindCont f (x.run s).1 (x.run s).2 = _
  obtain ⟨reply, after⟩ := x.run s
  cases reply <;> rfl

/-- Answer as before, and write down every call, the last one last. -/
def recording (answer : (c : I.Call) → ExceptT ε (StateM σ) (I.Reply c)) (c : I.Call) :
    ExceptT ε (StateM (σ × List I.Call)) (I.Reply c) :=
  ExceptT.mk fun (s, made) => (((answer c).run s).1, (((answer c).run s).2, made ++ [c]))

/-- **Writing down the calls changes no answer**, and every call that is written down was allowed. -/
theorem interpret_recording (answer : (c : I.Call) → ExceptT ε (StateM σ) (I.Reply c))
    (d : Dialogue I α) (h : d.AsksOnly allowed) (s : σ) (made : List I.Call) :
    ∃ more : List I.Call, (∀ c ∈ more, allowed c)
      ∧ (d.interpret (recording answer)).run (s, made)
        = (((d.interpret answer).run s).1, (((d.interpret answer).run s).2, made ++ more)) := by
  induction d generalizing s made with
  | done a => exact ⟨[], by simp, by rw [List.append_nil]; rfl⟩
  | ask c next ih =>
      obtain ⟨reply, after, hreply⟩ : ∃ reply after, (answer c).run s = (reply, after) := ⟨_, _, rfl⟩
      have hrecorded : (recording answer c).run (s, made) = (reply, (after, made ++ [c])) := by
        show (((answer c).run s).1, (((answer c).run s).2, made ++ [c])) = _
        rw [hreply]
      rw [interpret_ask, interpret_ask, run_bind, run_bind, hreply, hrecorded]
      cases reply with
      | error fault =>
          -- a call that fails is written down, and is the last one
          exact ⟨[c], by simpa using h.1, rfl⟩
      | ok reply =>
          obtain ⟨more, hmore, hrun⟩ := ih reply (h.2 reply) after (made ++ [c])
          refine ⟨c :: more, List.forall_mem_cons.mpr ⟨h.1, hmore⟩, ?_⟩
          rw [List.append_cons made c more]
          exact hrun

end Dialogue

/-- Whoever holds the sets of a plan: it has a state of its own, and may fail any call. -/
abbrev SetHolder (σ : Type) := (call : SetCall) → ExceptT Failure (StateM σ) call.Reply

namespace Plan

variable {σ : Type}

/-- The calls that a holder of the sets gets while a plan is executed, up to the first one it fails. -/
def calls (plan : Plan) (holder : SetHolder σ) (s : σ) : List SetCall :=
  ((plan.execute (Dialogue.recording (I := SetCall.interface) holder)).run (s, [])).2.2

/-- A plan that does not validate makes no call. -/
theorem calls_of_invalid {plan : Plan} {fault : PlanFault} (h : plan.validate = .error fault)
    (holder : SetHolder σ) (s : σ) : plan.calls holder s = [] := by
  rw [calls, execute_eq_of_invalid h]
  rfl

/-- **Every call is about one of the plan's sets.** -/
theorem set_mem_sets_of_mem_calls {plan : Plan} {holder : SetHolder σ} {s : σ} {call : SetCall}
    (h : call ∈ plan.calls holder s) : call.set ∈ plan.sets ∧ call.set.base = plan.base := by
  cases hvalid : plan.validate with
  | error fault =>
      rw [calls_of_invalid hvalid] at h
      contradiction
  | ok u =>
      obtain ⟨more, hmore, hrun⟩ := Dialogue.interpret_recording (I := SetCall.interface) holder
        plan.evaluate (asksOnly_evaluate plan) s []
      have hcalls : plan.calls holder s = more := by
        rw [calls, execute_eq_of_valid hvalid]
        exact congrArg (fun r => r.2.2) hrun
      have hset : call.set ∈ plan.sets := hmore call (hcalls ▸ h)
      exact ⟨hset, validate_eq_ok_iff.mp hvalid call.set hset⟩

end Plan

end GroupQueue
