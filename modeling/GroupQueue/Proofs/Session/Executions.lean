import GroupQueue.Proofs.Session.Faultless

/-!
# `Proofs.Session.Executions` — operations that do nothing but execute plans

Acknowledging, counting and sweeping make no other calls to the store than to execute plans, the same plans
whatever the replies are. So all that can become of them is known from the number of executions that pass before
one fails. If it is large enough, the operation comes to what it comes to without failing calls; if not, the
plans up to the one that fails have been executed, and the caller is told of the failure.

The rules follow the building blocks of the operations, as those for `Ensures` and `Keeps` do.

## Contents
- `PendingFault.due?` — how many calls of a kind pass before one fails; `next_fst`, `due?_next`;
  `Session.faultless`, where none is due to fail.
- `Session.answerStore_of_due`, `answerStore_of_not_due` — what becomes of a call; `converse_within`.
- `Memory.executeAll` — execute some plans, one after another.
- `Executes` — an operation that executes some plans, with one rule for each building block.
- `Session.reply_of_executes`, `Session.memory_of_executes` — what a turn comes to.
-/

namespace GroupQueue

/-! ## Calls that are due to fail -/

namespace PendingFault

/-- How many calls of a kind pass before one fails, if one is due to fail. -/
def due? (method : StoreMethod) (faults : List PendingFault) : Option Nat :=
  (faults.find? fun fault => fault.method = method).map PendingFault.skip

variable {method : StoreMethod} {faults : List PendingFault}

/-- The next call fails if no more of its kind are to pass before. -/
theorem next_fst (method : StoreMethod) (faults : List PendingFault) :
    (next method faults).1 = decide (due? method faults = some 0) := by
  induction faults with
  | nil => rfl
  | cons fault rest ih =>
      obtain ⟨kind, skip⟩ := fault
      by_cases hkind : kind = method
      · cases skip <;> simp [next, due?, hkind]
      · simp only [next, hkind, if_false]
        rw [ih]
        simp [due?, hkind]

/-- A call that passes leaves one call less to pass. -/
theorem due?_next (h : due? method faults ≠ some 0) :
    due? method (next method faults).2 = (due? method faults).map (· - 1) := by
  induction faults with
  | nil => rfl
  | cons fault rest ih =>
      obtain ⟨kind, skip⟩ := fault
      by_cases hkind : kind = method
      · cases skip with
        | zero => simp [due?, hkind] at h
        | succ skip => simp [next, due?, hkind]
      · have hrest : due? method rest ≠ some 0 := by simpa [due?, hkind] using h
        have hskip (faults : List PendingFault) : due? method (⟨kind, skip⟩ :: faults) = due? method faults := by
          simp [due?, hkind]
        simp only [next, hkind, if_false]
        rw [hskip, hskip, ih hrest]

/-- Calls of one kind do not count for the others. -/
theorem due?_next_of_ne {other : StoreMethod} (hne : other ≠ method) :
    due? other (next method faults).2 = due? other faults := by
  induction faults with
  | nil => rfl
  | cons fault rest ih =>
      obtain ⟨kind, skip⟩ := fault
      by_cases hkind : kind = method
      · cases skip <;> simp [next, due?, hkind, hne.symm]
      · have hrest : (next method (⟨kind, skip⟩ :: rest)).2 = ⟨kind, skip⟩ :: (next method rest).2 := by
          simp [next, hkind]
        rw [hrest, due?, due?, List.find?_cons, List.find?_cons]
        split
        · rfl
        · exact ih

end PendingFault

/-! ## Sequences of plans -/

namespace Memory

/-- Execute some plans, one after another. -/
def executeAll (memory : Memory) (plans : List Plan) : Memory :=
  plans.foldl (fun memory plan => (memory.execute plan).2) memory

variable {memory : Memory}

@[simp] theorem executeAll_nil : memory.executeAll [] = memory := rfl

theorem executeAll_cons (plan : Plan) (plans : List Plan) :
    memory.executeAll (plan :: plans) = (memory.execute plan).2.executeAll plans := rfl

theorem executeAll_append (plans more : List Plan) :
    memory.executeAll (plans ++ more) = (memory.executeAll plans).executeAll more := by
  rw [executeAll, List.foldl_append]
  rfl

/-- A plan that validates does not fail. -/
theorem fst_execute_of_valid {plan : Plan} (h : plan.validate = .ok ()) (memory : Memory) :
    ∃ executed, (memory.execute plan).1 = .ok executed := by
  rw [execute, Sets.execute_of_valid h]
  exact ⟨_, rfl⟩

/-- Executing plans changes nothing but the sets. -/
theorem executeAll_eq (memory : Memory) (plans : List Plan) :
    memory.executeAll plans = { memory with sets := (memory.executeAll plans).sets } := by
  induction plans generalizing memory with
  | nil => rfl
  | cons plan plans ih =>
      rw [executeAll_cons, ih, execute_eq]

theorem payloads_executeAll (plans : List Plan) : (memory.executeAll plans).payloads = memory.payloads := by
  rw [executeAll_eq]

theorem lastId_executeAll (plans : List Plan) : (memory.executeAll plans).lastId = memory.lastId := by
  rw [executeAll_eq]

end Memory

/-! ## Conversations of a session -/

namespace Session

variable {α β : Type} {session : Session}

/-- The session with no call due to fail. -/
def faultless (session : Session) : Session := { session with faults := [] }

/-- How many plans are executed before an execution fails, if one is due to fail. -/
def executionsLeft (session : Session) : Option Nat := PendingFault.due? .execute session.faults

theorem converse_bind (d : QueueDialogue α) (f : α → QueueDialogue β) (session : Session) :
    (converse (d >>= f)).run session
      = (converse (f ((converse d).run session).1)).run ((converse d).run session).2 := by
  unfold converse
  rw [Dialogue.interpret_bind]
  rfl

/-- An operation goes on from where its first part has succeeded. -/
theorem converse_andThen_of_ok {x : Operation α} {a : α} (h : ((converse x.run).run session).1 = .ok a)
    (f : α → Operation β) :
    (converse (x >>= f).run).run session = (converse (f a).run).run ((converse x.run).run session).2 := by
  rw [ExceptT.run_bind, converse_bind, h]

/-- After a failure, the rest of it is left out. -/
theorem converse_andThen_of_error {x : Operation α} {failure : Failure}
    (h : ((converse x.run).run session).1 = .error failure) (f : α → Operation β) :
    (converse (x >>= f).run).run session = (.error failure, ((converse x.run).run session).2) := by
  rw [ExceptT.run_bind, converse_bind, h]
  rfl

/-- A call that is due to fail does not reach the store. -/
theorem answerStore_of_due {call : StoreCall} (h : PendingFault.due? call.method session.faults = some 0) :
    session.answerStore call
      = (.error (.injected call.method.name),
        { session with
          faults := (PendingFault.next call.method session.faults).2
          calls := call :: session.calls }) := by
  have hfails : (PendingFault.next call.method session.faults).1 = true := by
    rw [PendingFault.next_fst]
    exact decide_eq_true h
  unfold answerStore
  cases hnext : PendingFault.next call.method session.faults with
  | mk fails faults =>
      rw [hnext] at hfails
      cases hfails
      rfl

/-- Any other call does. -/
theorem answerStore_of_not_due {call : StoreCall}
    (h : PendingFault.due? call.method session.faults ≠ some 0) :
    ∃ journal, session.answerStore call
      = ((session.memory.answer session.now call).1,
        { now := session.now
          memory := (session.memory.answer session.now call).2
          faults := (PendingFault.next call.method session.faults).2
          journal
          calls := call :: session.calls }) := by
  have hpasses : (PendingFault.next call.method session.faults).1 = false := by
    rw [PendingFault.next_fst]
    exact decide_eq_false h
  unfold answerStore
  cases hnext : PendingFault.next call.method session.faults with
  | mk fails faults =>
      rw [hnext] at hpasses
      cases hpasses
      exact ⟨_, rfl⟩

/-- A scope is only reported. -/
theorem converse_within (scope : Scope) (x : Operation α) (session : Session) :
    ∃ last : Journal, (converse (within scope x).run).run session
      = (((converse x.run).run { session with journal := session.journal.record (.enter scope) }).1,
        { ((converse x.run).run { session with journal := session.journal.record (.enter scope) }).2 with
          journal := last }) := by
  rw [within, ExceptT.run_mk, converse_bind, converse_bind, converse_bind]
  exact ⟨_, rfl⟩

end Session

/-! ## Operations -/

/-- **An operation that executes some plans, and makes no other calls.** If enough executions pass, it comes to what
    its conversation with the store comes to; if not, it ends at the one that fails. -/
structure Executes {α : Type} (plans : List Plan) (x : Operation α) : Prop where
  passes (session : Session) (h : ∀ n ∈ session.executionsLeft, plans.length ≤ n) :
    ∃ a, session.memory.converse session.now x.run = (.ok a, session.memory.executeAll plans)
      ∧ ((Session.converse x.run).run session).1 = .ok a
      ∧ ((Session.converse x.run).run session).2.memory = session.memory.executeAll plans
      ∧ ((Session.converse x.run).run session).2.now = session.now
      ∧ ((Session.converse x.run).run session).2.executionsLeft
        = session.executionsLeft.map (· - plans.length)
  fails (session : Session) (n : Nat) (h : session.executionsLeft = some n) (hn : n < plans.length) :
    ((Session.converse x.run).run session).1 = .error (.injected StoreMethod.execute.name)
      ∧ ((Session.converse x.run).run session).2.memory = session.memory.executeAll (plans.take n)

namespace Executes

variable {α β : Type} {plans more : List Plan}

theorem finish (a : α) : Executes [] (pure a : Operation α) where
  passes session _ := by
    refine ⟨a, rfl, rfl, rfl, rfl, ?_⟩
    show session.executionsLeft = session.executionsLeft.map fun n => n
    rw [Option.map_id']
  fails session n _ hn := absurd hn (Nat.not_lt_zero n)

theorem runPlan (queue : String) (activity : Activity) {plan : Plan} (h : plan.validate = .ok ()) :
    Executes [plan] (GroupQueue.runPlan queue activity plan) where
  passes session hleft := by
    obtain ⟨executed, hexecuted⟩ := Memory.fst_execute_of_valid h session.memory
    have hpasses : session.executionsLeft ≠ some 0 := by
      intro hzero
      exact absurd (hleft 0 hzero) (Nat.not_succ_le_zero 0)
    have hrest := PendingFault.due?_next hpasses
    obtain ⟨journal, hanswer⟩ := @Session.answerStore_of_not_due session (.execute plan) hpasses
    refine ⟨executed.events, ?_, ?_, ?_, ?_, ?_⟩
    · rw [Memory.converse_runPlan, hexecuted]
      rfl
    · show (session.answerStore (.execute plan)).1.map Executed.events = _
      rw [hanswer]
      exact congrArg (Except.map Executed.events) hexecuted
    · show (session.answerStore (.execute plan)).2.memory = _
      rw [hanswer]
      rfl
    · show (session.answerStore (.execute plan)).2.now = _
      rw [hanswer]
    · show (session.answerStore (.execute plan)).2.executionsLeft = _
      rw [hanswer]
      exact hrest
  fails session n hleft hn := by
    obtain rfl : n = 0 := Nat.lt_one_iff.mp hn
    have hanswer := @Session.answerStore_of_due session (.execute plan) hleft
    refine ⟨?_, ?_⟩
    · show (session.answerStore (.execute plan)).1.map Executed.events = _
      rw [hanswer]
      rfl
    · show (session.answerStore (.execute plan)).2.memory = _
      rw [hanswer]
      rfl

/-- The plans of a sequence are those of its parts. -/
theorem andThen {x : Operation α} {f : α → Operation β} (hx : Executes plans x)
    (hf : ∀ a, Executes more (f a)) : Executes (plans ++ more) (x >>= f) where
  passes session hleft := by
    have hlength (n : Nat) (hn : n ∈ session.executionsLeft) : plans.length + more.length ≤ n := by
      have hle := hleft n hn
      rwa [List.length_append] at hle
    obtain ⟨a, hstore, hreply, hmemory, hnow, hrest⟩ :=
      hx.passes session fun n hn => Nat.le_of_add_right_le (hlength n hn)
    have hafter : ∀ n ∈ ((Session.converse x.run).run session).2.executionsLeft, more.length ≤ n := by
      intro n hn
      rw [hrest] at hn
      obtain ⟨m, hm, rfl⟩ := Option.map_eq_some_iff.mp hn
      have hle := hlength m hm
      omega
    obtain ⟨b, hstore', hreply', hmemory', hnow', hrest'⟩ := (hf a).passes _ hafter
    have hrun := Session.converse_andThen_of_ok hreply f
    refine ⟨b, ?_, ?_, ?_, ?_, ?_⟩
    · rw [Memory.converse_andThen, hstore]
      dsimp only
      rw [← hmemory, ← hnow, hstore', hmemory, Memory.executeAll_append]
    · rw [hrun, hreply']
    · rw [hrun, hmemory', hmemory, Memory.executeAll_append]
    · rw [hrun, hnow', hnow]
    · rw [hrun, hrest', hrest, Option.map_map, List.length_append]
      refine congrArg (Option.map · _) (funext fun n => ?_)
      exact Nat.sub_sub n _ _
  fails session n hleft hn := by
    rw [List.length_append] at hn
    by_cases hfirst : n < plans.length
    · -- the first part fails, and the second one is left out
      obtain ⟨hreply, hmemory⟩ := hx.fails session n hleft hfirst
      rw [List.take_append_of_le_length (Nat.le_of_lt hfirst), Session.converse_andThen_of_error hreply]
      exact ⟨rfl, hmemory⟩
    · have hle : plans.length ≤ n := Nat.not_lt.mp hfirst
      obtain ⟨a, -, hreply, hmemory, -, hrest⟩ := hx.passes session fun m hm => by
        rw [hleft] at hm
        cases hm
        exact hle
      have hrun := Session.converse_andThen_of_ok hreply f
      have hremaining : ((Session.converse x.run).run session).2.executionsLeft = some (n - plans.length) := by
        rw [hrest, hleft]
        rfl
      obtain ⟨hreply', hmemory'⟩ := (hf a).fails _ _ hremaining (by omega)
      rw [hrun, hreply', hmemory', hmemory, ← Memory.executeAll_append]
      refine ⟨rfl, congrArg session.memory.executeAll ?_⟩
      rw [List.take_append, List.take_of_length_le hle]

/-- An operation that differs in its journal only. -/
theorem of_record {x y : Operation α} (h : Executes plans x)
    (hstore : ∀ (memory : Memory) (now : Instant), memory.converse now y.run = memory.converse now x.run)
    (hrun : ∀ session : Session, ∃ before last : Journal,
      (Session.converse y.run).run session
        = (((Session.converse x.run).run { session with journal := before }).1,
          { ((Session.converse x.run).run { session with journal := before }).2 with journal := last })) :
    Executes plans y where
  passes session hleft := by
    obtain ⟨before, last, heq⟩ := hrun session
    obtain ⟨a, hconverse, hreply, hmemory, hnow, hrest⟩ := h.passes { session with journal := before } hleft
    refine ⟨a, ?_, ?_, ?_, ?_, ?_⟩
    · rw [hstore]
      exact hconverse
    · rw [heq]
      exact hreply
    · rw [heq]
      exact hmemory
    · rw [heq]
      exact hnow
    · rw [heq]
      exact hrest
  fails session n hleft hn := by
    obtain ⟨before, last, heq⟩ := hrun session
    obtain ⟨hreply, hmemory⟩ := h.fails { session with journal := before } n hleft hn
    rw [heq]
    exact ⟨hreply, hmemory⟩

theorem reportThen {signal : Signal} {f : Unit → Operation α} (h : Executes plans (f ())) :
    Executes plans ((report signal : Operation Unit) >>= f) :=
  h.of_record (fun _ _ => rfl) fun session => ⟨session.journal.record signal, _, rfl⟩

theorem noteThen {notice : Notice} {f : Unit → Operation α} (h : Executes plans (f ())) :
    Executes plans ((note notice : Operation Unit) >>= f) := h.reportThen

theorem choice {c : Prop} [Decidable c] {x y : Operation α} (hx : Executes plans x) (hy : Executes plans y) :
    Executes plans (if c then x else y) := by
  split
  · exact hx
  · exact hy

theorem within (scope : Scope) {x : Operation α} (h : Executes plans x) :
    Executes plans (GroupQueue.within scope x) :=
  h.of_record (fun _ _ => Memory.converse_within scope x) fun session =>
    ⟨session.journal.record (.enter scope), Session.converse_within scope x session⟩

theorem requireName {field name : String} {f : Unit → Operation α} (hname : checkName field name = .ok ())
    (h : Executes plans (f ())) : Executes plans (GroupQueue.requireName field name >>= f) := by
  unfold GroupQueue.requireName
  rw [hname]
  exact h

/-- What executes no plan of its own may follow. -/
theorem andThenNothing {x : Operation α} {f : α → Operation β} (hx : Executes plans x)
    (hf : ∀ a, Executes [] (f a)) : Executes plans (x >>= f) := by
  have hall := hx.andThen hf
  rwa [List.append_nil] at hall

theorem mapResult {x : Operation α} (h : Executes plans x) (f : α → β) : Executes plans (f <$> x) :=
  h.andThenNothing fun a => .finish (f a)

end Executes

/-! ## Turns -/

namespace Session

variable {session : Session} {t : Turn} {plans : List Plan}

/-- What the caller of such an operation is told. -/
theorem reply_of_executes (h : Executes plans (t.request.perform t.queue t.now)) :
    (session.turn t).1
      = if (PendingFault.due? .execute (session.faults ++ t.faults)).any (· < plans.length) then
          .error (.injected StoreMethod.execute.name)
        else (session.memory.converse t.now (t.request.perform t.queue t.now).run).1 := by
  let ready : Session := { session with now := t.now, faults := session.faults ++ t.faults }
  show ((converse (t.request.perform t.queue t.now).run).run ready).1 = _
  by_cases hdue : (PendingFault.due? .execute (session.faults ++ t.faults)).any (· < plans.length) = true
  · obtain ⟨n, hn, hlt⟩ := (Option.any_eq_true _ _).mp hdue
    rw [if_pos hdue]
    exact (h.fails ready n hn (of_decide_eq_true hlt)).1
  · obtain ⟨a, hstore, hreply, -⟩ := h.passes ready fun n hn =>
      Nat.not_lt.mp fun hlt => hdue ((Option.any_eq_true _ _).mpr ⟨n, hn, decide_eq_true hlt⟩)
    rw [if_neg hdue, hreply]
    exact (congrArg Prod.fst hstore).symm

/-- The plans that it leaves executed. -/
theorem memory_of_executes (h : Executes plans (t.request.perform t.queue t.now)) :
    (session.turn t).2.memory
      = session.memory.executeAll
        (plans.take ((PendingFault.due? .execute (session.faults ++ t.faults)).getD plans.length)) := by
  let ready : Session := { session with now := t.now, faults := session.faults ++ t.faults }
  show ((converse (t.request.perform t.queue t.now).run).run ready).2.memory = _
  cases hdue : PendingFault.due? .execute (session.faults ++ t.faults) with
  | none =>
      obtain ⟨a, -, -, hmemory, -⟩ := h.passes ready fun n hn => by
        rw [show ready.executionsLeft = none from hdue] at hn
        cases hn
      rw [hmemory, Option.getD_none, List.take_length]
  | some n =>
      rw [Option.getD_some]
      by_cases hn : n < plans.length
      · exact (h.fails ready n hdue hn).2
      · obtain ⟨a, -, -, hmemory, -⟩ := h.passes ready fun m hm => by
          rw [show ready.executionsLeft = some n from hdue] at hm
          cases hm
          exact Nat.not_lt.mp hn
        rw [hmemory, List.take_of_length_le (Nat.not_lt.mp hn)]

end Session

end GroupQueue
