import GroupQueue.Proofs.Plan.Reference
import GroupQueue.Proofs.Store.Sets
import GroupQueue.Store.Memory

/-!
# `Proofs.Plan.Refinement` — executing a plan in memory is its reference reading

A plan reaches the sets in memory only through the calls of its evaluation. This module answers those
calls and shows, construct by construct, that the answers keep step with the reference reading over a
ledger: conditions agree and change nothing (`converse_holdsAll`), selections draw the same members
(`converse_members`), the writing steps keep the contents equal under every key, and so whole lists of
steps do (`converse_evaluateFrom`, by induction on the steps). The short cuts of the evaluation — no call
for an empty range, for a limit of zero, for ranks that end before they start or on behalf of an empty
selection — turn out to be the cases where the reference reads or changes nothing.

## Contents
- `Sets.converse` — answer a conversation about sets; `execute_of_valid`, `execute_of_invalid`.
- `Represents` — the contents agree under every key.
- `converse_evaluateFrom`, `Represents.execute` — the simulation.
- `Sets.ledger` — the ledger of sets in memory; `represents_ledger`.
- `Memory.afterPlans`, `execute_eq_reference` — the refinement, for every plan that validates, in every
  state that plans can reach.
-/

namespace GroupQueue

/-! ## Answering a conversation -/

namespace Dialogue

variable {I : Interface} {α : Type} {ε : Type} {m : Type → Type} [Monad m] [LawfulMonad m]

/-- Answers that cannot fail make a conversation that cannot fail. -/
theorem interpret_lift (d : Dialogue I α) (answer : (c : I.Call) → m (I.Reply c)) :
    (d.interpret (m := ExceptT ε m) fun c => ExceptT.lift (answer c)).run
      = Except.ok <$> d.interpret answer := by
  induction d with
  | done a => simp
  | ask c next ih => simp [ih]

end Dialogue

namespace Sets

/-- Answer every call of a conversation, in order. -/
def converse {α : Type} (d : SetDialogue α) (sets : Sets) : α × Sets :=
  Dialogue.interpret (I := SetCall.interface) (m := StateM Sets)
    (fun call sets => sets.answer call) d sets

section Converse

variable {α β : Type} (sets : Sets)

@[simp] theorem converse_done (a : α) : converse (.done a) sets = (a, sets) := rfl

@[simp] theorem converse_ask (call : SetCall) (next : call.Reply → SetDialogue α) :
    converse (.ask (I := SetCall.interface) call next) sets
      = converse (next (sets.answer call).1) (sets.answer call).2 := rfl

@[simp] theorem converse_call (call : SetCall) :
    converse (Dialogue.call (I := SetCall.interface) call) sets = sets.answer call := rfl

theorem converse_bind (d : SetDialogue α) (f : α → SetDialogue β) :
    converse (d >>= f) sets = converse (f (converse d sets).1) (converse d sets).2 := by
  unfold converse
  rw [Dialogue.interpret_bind]
  rfl

end Converse

/-- A plan that validates is evaluated. -/
theorem execute_of_valid {plan : Plan} (h : plan.validate = .ok ()) (sets : Sets) :
    (execute plan).run sets
      = (.ok (converse plan.evaluate sets).1, (converse plan.evaluate sets).2) := by
  rw [execute, Plan.execute_eq_of_valid h]
  exact congrFun (Dialogue.interpret_lift (I := SetCall.interface) (m := StateM Sets) plan.evaluate
    fun call sets => sets.answer call) sets

/-- A plan that does not is refused, and changes nothing. -/
theorem execute_of_invalid {plan : Plan} {fault : PlanFault} (h : plan.validate = .error fault)
    (sets : Sets) : (execute plan).run sets = (.error (.invalidPlan fault), sets) := by
  rw [execute, Plan.execute_eq_of_invalid h]
  rfl

end Sets

/-! ## The simulation relation -/

/-- **The simulation relation.** The sets in memory are sound, and hold under every key what the ledger
    holds there. -/
def Represents (sets : Sets) (l : Ledger) : Prop :=
  sets.Sound ∧ ∀ key, sets.contents key = l.contents key

theorem Represents.add {sets : Sets} {l : Ledger} (h : Represents sets l) (key : String)
    (ms : List Member) : Represents (sets.add key ms) (Ledger.put l key ms) := by
  refine ⟨h.1.add key ms, fun k => ?_⟩
  rw [Sets.contents_add, Ledger.contents_put, h.2]

theorem Represents.remove {sets : Sets} {l : Ledger} (h : Represents sets l) (key : String)
    (ids : List EventId) : Represents (sets.remove key ids) (Ledger.drop l key ids) := by
  refine ⟨h.1.remove key ids, fun k => ?_⟩
  rw [Sets.contents_remove, Ledger.contents_drop, h.2]

section Simulation

variable {sets : Sets} {p : Position}

/-! ## Conditions -/

theorem Position.satisfiesAll_append (p : Position) (cs ds : List Condition) :
    p.satisfiesAll (cs ++ ds) = (p.satisfiesAll cs && p.satisfiesAll ds) := by
  induction cs with
  | nil => simp [satisfiesAll]
  | cons c cs ih => simp [satisfiesAll, ih, Bool.and_assoc]

/-- **Conditions agree.** The work list holds exactly the conditions that are still to be satisfied. -/
theorem converse_holdsAll (h : Represents sets p.ledger) (pending : List Condition) :
    Sets.converse (holdsAll p.acc pending) sets = (p.satisfiesAll pending, sets) := by
  -- the cases are those of the work list, in which a conjunction gives way to its parts
  induction pending using holdsAll.induct p.acc with
  | case1 => simp [holdsAll, Position.satisfiesAll]
  | case2 rest hacc => simp [holdsAll, Position.satisfiesAll, Position.satisfies, hacc]
  | case3 rest hacc ih => simp [holdsAll, Position.satisfiesAll, Position.satisfies, hacc, ih]
  | case4 rest hacc ih => simp [holdsAll, Position.satisfiesAll, Position.satisfies, hacc, ih]
  | case5 rest hacc => simp [holdsAll, Position.satisfiesAll, Position.satisfies, hacc]
  | case6 set rest ih =>
      rw [holdsAll, Sets.converse_ask, Sets.answer_isEmpty, h.2]
      by_cases hempty : (p.ledger.contents set.key).isEmpty = true
      · simp [Position.satisfiesAll, Position.satisfies, hempty, ih]
      · simp [Position.satisfiesAll, Position.satisfies, hempty]
  | case7 conditions rest ih =>
      rw [holdsAll, ih, Position.satisfiesAll_append]
      simp [Position.satisfiesAll, Position.satisfies]

theorem converse_holds (h : Represents sets p.ledger) (condition : Condition) :
    Sets.converse (condition.holds p.acc) sets = (p.satisfies condition, sets) := by
  rw [Condition.holds, converse_holdsAll h]
  simp [Position.satisfiesAll]

theorem converse_isWanted (h : Represents sets p.ledger) (choice : Select) :
    Sets.converse (choice.isWanted p.acc) sets = (choice.guard.all p.satisfies, sets) := by
  unfold Select.isWanted
  cases choice.guard with
  | none => rfl
  | some condition => exact converse_holds h condition

/-! ## Selections -/

/-- Nothing is selected to take the lower bound from, so nothing lies in the range. -/
theorem admits_of_resolve_none {range : ScoreRange}
    (h : range.resolve (lowestScore? p.acc) = none) (score : Int) : p.admits range score = false := by
  obtain ⟨hinput, hnone⟩ := ScoreRange.resolve_eq_none_iff.mp h
  rw [lowestScore?] at hnone
  simp [Position.admits, hinput, hnone]

/-- A range resolved against the selection admits the scores that lie in it for the reference. -/
theorem admits_of_resolve_some {range resolved : ScoreRange}
    (h : range.resolve (lowestScore? p.acc) = some resolved) :
    resolved.admits = p.admits range ∧ resolved.descending = range.descending
      ∧ resolved.limit = range.limit := by
  unfold ScoreRange.resolve at h
  by_cases hinput : range.lowerFromInput = true
  · rw [if_pos hinput] at h
    obtain ⟨least, hleast, rfl⟩ := Option.map_eq_some_iff.mp h
    refine ⟨funext fun score => ?_, rfl, rfl⟩
    rw [lowestScore?] at hleast
    simp only [Position.admits, hinput, hleast, ScoreRange.admits, if_true]
    cases range.lower <;> rfl
  · rw [if_neg hinput] at h
    cases h
    refine ⟨funext fun score => ?_, rfl, rfl⟩
    simp [Position.admits, hinput, ScoreRange.admits]

theorem isWithin_eq_true_iff {min max : Option Int} {score : Int} :
    isWithin min max score = true ↔ (∀ low ∈ min, low ≤ score) ∧ ∀ high ∈ max, score ≤ high := by
  cases min <;> cases max <;> simp [isWithin]

/-- **Selections draw the same members**, and change nothing. -/
theorem converse_members (h : Represents sets p.ledger) (selection : Selection) :
    Sets.converse (selection.members p.acc) sets = (p.reads selection, sets) := by
  cases selection with
  | events ids => rfl
  | scoreRange set range =>
      simp only [Selection.members, Position.reads]
      cases hres : range.resolve (lowestScore? p.acc) with
      | none =>
          -- no call is made, as there is no selected score to start from
          rw [Contents.window_eq_nil (admits_of_resolve_none hres)]
          rfl
      | some resolved =>
          obtain ⟨hadmits, hdesc, hlimit⟩ := admits_of_resolve_some hres
          rw [← hadmits, ← hdesc, ← hlimit]
          dsimp only
          -- nor is one made for a range that no score lies in, or with a limit of zero
          by_cases hempty : resolved.isEmpty = true
          · rw [Contents.window_eq_nil (ScoreRange.admits_eq_false_of_isEmpty hempty)]
            simp [hempty]
          · by_cases hzero : resolved.limit = some 0
            · rw [if_pos (by simp [hzero]), hzero, Contents.window_zero]
              rfl
            · rw [if_neg (by simp [hempty, hzero]), Sets.converse_call, h.1.answer_rangeByScore, h.2]
  | rank set start stop =>
      simp only [Selection.members, Position.reads]
      by_cases hlt : stop < start
      · rw [Contents.slice_eq_nil hlt, if_pos hlt]
        rfl
      · rw [if_neg hlt, Sets.converse_call, h.1.answer_rangeByRank set (Nat.not_lt.mp hlt), h.2]
  | scoreOf set event min max =>
      rw [Selection.members, Sets.converse_bind, Sets.converse_call, Sets.answer_scoreOf, h.2,
        Position.reads]
      cases hscore : (p.ledger.contents set.key)[event]? with
      | none => rfl
      | some score =>
          by_cases hin : isWithin min max score = true
          · have href := isWithin_eq_true_iff.mp hin
            simp only [Option.filter_some, hin, if_true, if_pos href]
            rfl
          · have href := fun hr => hin (isWithin_eq_true_iff.mpr hr)
            simp only [Option.filter_some, hin, if_neg href]
            rfl

/-- Both readings of a union skip the events that are selected already. -/
theorem unite_eq_extend (acc found : List Member) : unite acc found = Position.extend acc found := by
  induction found generalizing acc with
  | nil => rfl
  | cons m rest ih =>
      have hany : (acc.any fun x => x.id == m.id) = decide (m.id ∈ acc.map Member.id) := by
        rw [Bool.eq_iff_iff, List.any_eq_true, decide_eq_true_iff, List.mem_map]
        simp only [beq_iff_eq]
      rw [unite, List.foldl_cons, ← unite, ih, Position.extend, hany]
      simp only [decide_eq_true_eq]

/-! ## Steps -/

theorem converse_addToEach {l : Ledger} (h : Represents sets l) (ms : List Member)
    (targets : List EventSet) :
    ∃ after, Sets.converse (addToEach ms targets) sets = ((), after)
      ∧ Represents after (targets.foldl (fun l set => Ledger.put l set.key ms) l) := by
  induction targets generalizing sets l with
  | nil => exact ⟨sets, rfl, h⟩
  | cons set targets ih => exact ih (h.add set.key ms)

theorem converse_removeFromEach {l : Ledger} (h : Represents sets l) (ids : List EventId)
    (targets : List EventSet) :
    ∃ after, Sets.converse (removeFromEach ids targets) sets = ((), after)
      ∧ Represents after (targets.foldl (fun l set => Ledger.drop l set.key ids) l) := by
  induction targets generalizing sets l with
  | nil => exact ⟨sets, rfl, h⟩
  | cons set targets ih => exact ih (h.remove set.key ids)

/-- **The simulation, step by step.** From sets that hold what the ledger holds, evaluating the steps
    selects what the reference selects and leaves what the reference leaves. -/
theorem converse_evaluateFrom (h : Represents sets p.ledger) (index : Nat) (steps : List Step) :
    ∃ notices after, Sets.converse (Plan.evaluateFrom index p.acc steps) sets
        = (⟨(p.run steps).acc, notices⟩, after)
      ∧ Represents after (p.run steps).ledger := by
  -- each step leads to a position that the sets represent again, from where the rest is taken
  induction steps generalizing index sets p with
  | nil => exact ⟨[], sets, rfl, h⟩
  | cons step rest ih =>
      cases step with
      | select choice =>
          rw [Plan.evaluateFrom, Sets.converse_bind, converse_isWanted h, Position.run_select,
            Position.take]
          by_cases hguard : choice.guard.all p.satisfies = true
          · simp only [hguard, if_true]
            rw [Sets.converse_bind, converse_members h, unite_eq_extend]
            exact ih (p := ⟨p.ledger, if choice.union then Position.extend p.acc (p.reads _)
              else p.reads choice.selection⟩) h (index + 1)
          · simp only [hguard]
            obtain ⟨notices, after, heq, hafter⟩ := ih h (index + 1)
            refine ⟨.stepSkipped index :: notices, after, ?_, hafter⟩
            rw [if_neg (by simp), Sets.converse_bind, heq]
            rfl
      | addTo targets score =>
          rw [Plan.evaluateFrom, Position.run_addTo]
          by_cases hacc : p.acc.isEmpty = true
          · rw [if_pos hacc, Position.addTo_of_isEmpty hacc]
            exact ih h (index + 1)
          · obtain ⟨after, heq, hafter⟩ := converse_addToEach h (scored score p.acc) targets
            rw [if_neg hacc, Sets.converse_bind, heq]
            exact ih (p := p.addTo targets score) hafter (index + 1)
      | removeFrom targets =>
          rw [Plan.evaluateFrom, Position.run_removeFrom]
          by_cases hacc : p.acc.isEmpty = true
          · rw [if_pos hacc, Position.removeFrom_of_isEmpty hacc]
            exact ih h (index + 1)
          · obtain ⟨after, heq, hafter⟩ := converse_removeFromEach h (p.acc.map Member.id) targets
            rw [if_neg hacc, Sets.converse_bind, heq]
            exact ih (p := p.removeFrom targets) hafter (index + 1)
      | breakIf condition =>
          rw [Plan.evaluateFrom, Sets.converse_bind, converse_holds h, Position.run_breakIf]
          by_cases hcond : p.satisfies condition = true
          · simp only [hcond, if_true]
            exact ⟨_, sets, rfl, h⟩
          · simp only [hcond]
            exact ih h (index + 1)

end Simulation

/-! ## Whole plans -/

/-- A plan that validates is executed as the reference reads it. -/
theorem Represents.execute {sets : Sets} {l : Ledger} (h : Represents sets l) {plan : Plan}
    (hvalid : plan.validate = .ok ()) :
    ∃ e after, (Sets.execute plan).run sets = (.ok e, after)
      ∧ e.selected = (plan.reference l).acc ∧ Represents after (plan.reference l).ledger := by
  obtain ⟨notices, after, heq, hafter⟩ := converse_evaluateFrom (p := ⟨l, []⟩) h 0 plan.steps
  refine ⟨⟨(plan.reference l).acc, notices⟩, after, ?_, rfl, hafter⟩
  rw [Sets.execute_of_valid hvalid, Plan.evaluate, heq]
  rfl

/-- The ledger of the sets in memory. -/
def Sets.ledger (sets : Sets) : Ledger := sets.byKey.map fun _ set => set.scores

theorem Sets.contents_ledger (sets : Sets) (key : String) :
    sets.ledger.contents key = sets.contents key := by
  rw [Ledger.contents, ledger, Std.ExtTreeMap.getElem?_map]
  rfl

theorem represents_ledger {sets : Sets} (h : sets.Sound) : Represents sets sets.ledger :=
  ⟨h, fun key => (sets.contents_ledger key).symm⟩

/-! ## Stores in memory -/

/-- A store in memory that has executed some plans, one after another. -/
def Memory.afterPlans (plans : List Plan) : Memory :=
  plans.foldl (fun memory plan => (memory.execute plan).2) {}

namespace Memory

/-- **A store in memory executes a plan as it is read.** Nothing but the sets changes. -/
theorem execute_of_valid {memory : Memory} (h : memory.sets.Sound) {plan : Plan}
    (hvalid : plan.validate = .ok ()) :
    let final := plan.reference memory.sets.ledger
    ∃ executed sets, memory.execute plan = (.ok executed, { memory with sets }) ∧ sets.Sound
      ∧ executed.events = final.acc.map Member.id
      ∧ ∀ key, sets.contents key = final.ledger.contents key := by
  intro final
  obtain ⟨e, sets, heq, hacc, hsets⟩ := (represents_ledger h).execute hvalid
  rw [execute, heq]
  exact ⟨_, sets, rfl, hsets.1, congrArg _ hacc, hsets.2⟩

theorem execute_of_invalid {plan : Plan} {fault : PlanFault} (h : plan.validate = .error fault)
    (memory : Memory) : memory.execute plan = (.error (.invalidPlan fault), memory) := by
  rw [execute, Sets.execute_of_invalid h]

/-- Executing a plan keeps the sets sound, whether it validates or not. -/
theorem sound_execute {memory : Memory} (h : memory.sets.Sound) (plan : Plan) :
    (memory.execute plan).2.sets.Sound := by
  cases hvalid : plan.validate with
  | error fault =>
      rw [execute_of_invalid hvalid]
      exact h
  | ok u =>
      obtain ⟨executed, sets, heq, hsets, -⟩ := execute_of_valid h hvalid
      rw [heq]
      exact hsets

theorem sound_afterPlans (plans : List Plan) : (afterPlans plans).sets.Sound := by
  suffices h : ∀ memory : Memory, memory.sets.Sound →
      (plans.foldl (fun memory plan => (memory.execute plan).2) memory).sets.Sound from
    h {} Sets.sound_fresh
  induction plans with
  | nil => exact fun memory h => h
  | cons plan plans ih => exact fun memory h => ih _ (sound_execute h plan)

end Memory

/-- **Refinement of the plan language.** In every state that a store in memory reaches by executing
    plans, a plan that validates returns the events that the reference selects, in the same order, and
    leaves what the reference leaves under every key. -/
theorem execute_eq_reference (history : List Plan) (plan : Plan) (hvalid : plan.validate = .ok ()) :
    let memory := Memory.afterPlans history
    let final := plan.reference memory.sets.ledger
    ∃ executed after, memory.execute plan = (.ok executed, after)
      ∧ executed.events = final.acc.map Member.id
      ∧ ∀ key, after.sets.contents key = final.ledger.contents key := by
  intro memory final
  obtain ⟨executed, sets, heq, -, hevents, hsets⟩ :=
    Memory.execute_of_valid (Memory.sound_afterPlans history) hvalid
  exact ⟨executed, { memory with sets }, heq, hevents, hsets⟩

/-- Two sets that share one key: what is put into the one is selected from the other. -/
theorem execute_eq_reference_shared_key :
    let x : EventSet := ⟨"ns", .redo, "q", some "g:done"⟩
    let y : EventSet := ⟨"ns", .done, "q:redo:g", none⟩
    let now := Instant.ofMicros 0
    let history : List Plan := [⟨"ns", now, [.pick (.events [⟨3⟩, ⟨1⟩]), .addTo [x] none]⟩]
    let plan : Plan := ⟨"ns", now, [
      .pick (.scoreRange y ScoreRange.all),
      .select ⟨.events [⟨2⟩, ⟨1⟩], true, some .ifInput⟩,
      .addTo [x] (some 7),
      .breakIf (.ifEmpty y)]⟩
    plan.validate = .ok ()
      ∧ ((plan.reference (Memory.afterPlans history).sets.ledger).acc.map Member.id)
        = [⟨1⟩, ⟨3⟩, ⟨2⟩] := by
  intro x y now history plan
  have hvalid : plan.validate = .ok () := by decide +kernel
  have hrun : ((Memory.afterPlans history).execute plan).1.toOption.map Executed.events
      = some [⟨1⟩, ⟨3⟩, ⟨2⟩] := by decide +kernel
  obtain ⟨executed, after, heq, hevents, -⟩ := execute_eq_reference history plan hvalid
  rw [heq] at hrun
  exact ⟨hvalid, hevents.symm.trans (Option.some.inj hrun)⟩

end GroupQueue
