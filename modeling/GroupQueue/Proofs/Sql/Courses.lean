import GroupQueue.Proofs.Plan.Calls
import GroupQueue.Proofs.Sql.Exchanges

/-!
# `Proofs.Sql.Courses` — the courses of a plan's transaction

A plan is executed as one transaction: it begins, takes the locks of all sets of the plan in their order, asks
for what the evaluation wants to know, and commits. Every part of this goes on **up to the first fault**
(`UpToFault`): either all statements succeed, or the last one is the only one that does not, and its fault is
the failure of the part. Parts that go on up to the first fault make sequences that do
(`Always.upToFault_bind`), so the whole transaction has four courses (`Course`): it is not opened, it breaks
off and is rolled back, the plan is refused with all locks taken and it is rolled back, or it commits.

The locks are those of `Plan.sets`, and the evaluation asks for no other set (`asksOnly_evaluate`); this is
what makes every statement about a set one about a set whose lock is held.

## Contents
- `Statement.setKey?` — the key that a statement about a set is bound to.
- `UpToFault`, `Always.upToFault_bind` — with a rule for each single statement.
- `always_lockEach`, `always_interpret` — the locks, and what an evaluation asks for.
- `Follows` — the statements of a plan in order, if it validates and if not; `Course`, `always_course`.
-/

namespace GroupQueue.Sql

/-- The key that a statement about the members of a set is bound to. -/
def Statement.setKey? : Statement → Option String
  | .members query => some query.key
  | .score key _ | .insertMembers key _ | .deleteMembers key _ | .isEmpty key => some key
  | _ => none

/-! ## Up to the first fault -/

/-- The statements of a part all succeed and are those of a whole run; or they break off at the first one
    that does not succeed, which then is the failure of the part. -/
inductive UpToFault {α : Type} (whole : List Statement → Prop) :
    List Exchange → Except Failure α → Prop
  | complete {sent : List Exchange} (a : α) (hsent : ∀ x ∈ sent, x.Succeeds)
      (hwhole : whole (sent.map Exchange.statement)) : UpToFault whole sent (.ok a)
  | broken {before : List Exchange} {x : Exchange} {fault : DatabaseFault} (rest : List Statement)
      (hbefore : ∀ y ∈ before, y.Succeeds) (hfault : x.fault? = some fault)
      (hwhole : whole ((before ++ [x]).map Exchange.statement ++ rest)) :
      UpToFault whole (before ++ [x]) (.error (.database fault))

section Rules

variable {α β : Type} {first second whole : List Statement → Prop}

theorem always_upToFault_pure (a : α) (h : whole []) :
    Always (pure a : SqlOperation α).run (UpToFault whole) :=
  always_operation_pure.mpr (.complete a (by simp) h)

/-- **A sequence of parts goes on up to the first fault.** -/
theorem Always.upToFault_bind {x : SqlOperation α} {f : α → SqlOperation β}
    (hx : Always x.run (UpToFault first)) (hf : ∀ a, Always (f a).run (UpToFault second))
    (hsome : ∃ ts, second ts) (hwhole : ∀ ss ts, first ss → second ts → whole (ss ++ ts)) :
    Always (x >>= f).run (UpToFault whole) := by
  rw [always_operation_bind]
  refine hx.mono fun sent result hfirst => ?_
  cases hfirst with
  | complete a hsent hss =>
      refine (hf a).mono fun more result hsecond => ?_
      cases hsecond with
      | complete b hmore hts =>
          refine .complete b (List.forall_mem_append.mpr ⟨hsent, hmore⟩) ?_
          rw [List.map_append]
          exact hwhole _ _ hss hts
      | @broken before y fault rest hbefore hfault hts =>
          rw [← List.append_assoc]
          refine .broken rest (List.forall_mem_append.mpr ⟨hsent, hbefore⟩) hfault ?_
          rw [List.append_assoc, List.map_append, List.append_assoc]
          exact hwhole _ _ hss hts
  | broken rest hbefore hfault hss =>
      -- the second part is left out, but some whole run of it could have followed
      obtain ⟨ts, hts⟩ := hsome
      refine .broken (rest ++ ts) hbefore hfault ?_
      rw [← List.append_assoc]
      exact hwhole _ _ hss hts

/-! ## Single statements -/

/-- One statement is sent, and what is wrong with its reply is the failure. -/
def Single (statement : Statement) (sent : List Exchange) (result : Except Failure α) : Prop :=
  ∃ x : Exchange, x.statement = statement ∧ sent = [x]
    ∧ match x.fault? with
      | none => ∃ a, result = .ok a
      | some fault => result = .error (.database fault)

theorem Single.upToFault {statement : Statement} {sent : List Exchange} {result : Except Failure α}
    (h : Single statement sent result) (hwhole : whole [statement]) : UpToFault whole sent result := by
  obtain ⟨x, rfl, rfl, hresult⟩ := h
  cases hfault : x.fault? with
  | none =>
      rw [hfault] at hresult
      obtain ⟨a, rfl⟩ := hresult
      exact .complete a (List.forall_mem_singleton.mpr (Exchange.fault?_eq_none_iff.mp hfault)) hwhole
  | some fault =>
      rw [hfault] at hresult
      subst hresult
      show UpToFault whole ([] ++ [x]) _
      exact .broken [] (by simp) hfault hwhole

variable {statement : Statement}

theorem always_single_send (h : ∀ rows, statement.rowFault? rows = none) :
    Always (send statement).run (Single statement) := by
  rw [always_send]
  intro reply
  refine ⟨⟨statement, reply⟩, rfl, rfl, ?_⟩
  cases reply with
  | error fault => rfl
  | ok answer =>
      simp only [Exchange.fault?, h]
      exact ⟨answer, rfl⟩

/-- A statement whose answer is read, and whose rows are wrong exactly if reading fails. -/
theorem always_single_read {read : Answer → Except DatabaseFault α}
    (h : ∀ answer, statement.rowFault? answer.rows = faultOf (read answer)) :
    Always (send statement >>= fun answer => orFail (read answer)).run (Single statement) := by
  rw [always_operation_bind, always_send]
  intro reply
  cases reply with
  | error fault => exact ⟨⟨statement, .error fault⟩, rfl, rfl, rfl⟩
  | ok answer =>
      refine ⟨⟨statement, .ok answer⟩, rfl, rfl, ?_⟩
      simp only [Exchange.fault?, h]
      cases read answer with
      | error fault => rfl
      | ok a => exact ⟨a, rfl⟩

theorem Single.map {sent : List Exchange} {result : Except Failure α} (h : Single statement sent result)
    (f : α → β) : Single statement sent (result.map f) := by
  obtain ⟨x, hx, hsent, hresult⟩ := h
  refine ⟨x, hx, hsent, ?_⟩
  cases hfault : x.fault? with
  | none =>
      rw [hfault] at hresult
      obtain ⟨a, rfl⟩ := hresult
      exact ⟨f a, rfl⟩
  | some fault =>
      rw [hfault] at hresult
      subst hresult
      rfl

theorem always_single_discard (h : ∀ rows, statement.rowFault? rows = none) :
    Always (discard (send statement)).run (Single statement) := by
  show Always ((fun _ : Answer => ()) <$> send statement).run _
  exact always_operation_map.mpr ((always_single_send h).mono fun _ _ hsingle => hsingle.map _)

/-- A first row is wanted, and that there is none is a fault as well. -/
theorem always_single_fetchFirst {read : Row → Except DatabaseFault α}
    (h : ∀ rows : List Row, statement.rowFault? rows
      = match rows.head? with
        | some row => faultOf (read row)
        | none => some .noRow) :
    Always (fetchFirst statement read).run (Single statement) := by
  let first (answer : Answer) : Except DatabaseFault α :=
    match answer.rows.head? with
    | some row => read row
    | none => .error .noRow
  have hfetch : fetchFirst statement read = send statement >>= fun answer => orFail (first answer) := by
    unfold fetchFirst
    refine congrArg (send statement >>= ·) (funext fun answer => ?_)
    simp only [first]
    cases answer.rows.head? <;> rfl
  rw [hfetch]
  refine always_single_read fun answer => ?_
  rw [h]
  simp only [first]
  cases answer.rows.head? <;> rfl

/-- **A call of a plan is one statement about its set.** -/
theorem always_single_answerSetCall (call : SetCall) :
    ∃ statement : Statement, statement.setKey? = some call.set.key
      ∧ Always (answerSetCall call).run (Single statement) := by
  cases call with
  | rangeByScore set range =>
      exact ⟨.members (.ofRange set.key range), rfl, always_single_read fun answer => rfl⟩
  | rangeByRank set start stop =>
      exact ⟨.members (.ofRanks set.key start stop), rfl, always_single_read fun answer => rfl⟩
  | scoreOf set event =>
      exact ⟨.score set.key event, rfl, always_single_read fun answer => rfl⟩
  | add set members =>
      exact ⟨.insertMembers set.key members, rfl, always_single_discard fun rows => rfl⟩
  | remove set events =>
      exact ⟨.deleteMembers set.key events, rfl, always_single_discard fun rows => rfl⟩
  | isEmpty set =>
      exact ⟨.isEmpty set.key, rfl, always_single_fetchFirst fun rows => rfl⟩

end Rules

/-! ## The parts of a transaction -/

/-- The locks of some sets, in order. -/
def locks (sets : List EventSet) : List Statement := sets.map fun set => .lock set.key

theorem always_lockEach (sets : List EventSet) :
    Always (lockEach sets).run (UpToFault (· = locks sets)) := by
  induction sets with
  | nil => exact always_upToFault_pure () rfl
  | cons set sets ih =>
      have hlock : Always (send (.lock set.key)).run (UpToFault (· = [.lock set.key])) :=
        (always_single_send fun rows => rfl).mono fun _ _ hsingle => hsingle.upToFault rfl
      refine hlock.upToFault_bind (fun _ => ih) ⟨locks sets, rfl⟩ fun ss ts hss hts => ?_
      rw [hss, hts]
      rfl

/-- Every statement is about one of the sets. -/
def AboutSets (sets : List EventSet) (statements : List Statement) : Prop :=
  ∀ s ∈ statements, ∃ set ∈ sets, s.setKey? = some set.key

theorem AboutSets.nil {sets : List EventSet} : AboutSets sets [] := by
  intro s hs
  contradiction

theorem AboutSets.append {sets : List EventSet} {ss ts : List Statement} (hss : AboutSets sets ss)
    (hts : AboutSets sets ts) : AboutSets sets (ss ++ ts) :=
  List.forall_mem_append.mpr ⟨hss, hts⟩

/-- **A conversation that asks only for some sets sends only statements about them**, by induction on its
    tree. -/
theorem always_interpret {α : Type} {sets : List EventSet} {d : SetDialogue α}
    (h : d.AsksOnly (SetCall.About (· ∈ sets))) :
    Always (d.interpret (I := SetCall.interface) answerSetCall).run (UpToFault (AboutSets sets)) := by
  induction d with
  | done a => exact always_upToFault_pure a AboutSets.nil
  | ask call next ih =>
      obtain ⟨statement, hkey, hsingle⟩ := always_single_answerSetCall call
      have habout : AboutSets sets [statement] :=
        List.forall_mem_singleton.mpr ⟨call.set, h.1, hkey⟩
      have hcall : Always (answerSetCall call).run (UpToFault (AboutSets sets)) :=
        hsingle.mono fun _ _ hs => hs.upToFault habout
      rw [Dialogue.interpret_ask]
      exact hcall.upToFault_bind (fun reply => ih reply (h.2 reply)) ⟨[], AboutSets.nil⟩
        fun ss ts => AboutSets.append

/-- The statements of a plan from its first lock on, if all succeed: a plan that validates asks for its sets
    and commits, any other one comes to an end with the locks. -/
def Follows (plan : Plan) (statements : List Statement) : Prop :=
  match plan.validate with
  | .ok () => ∃ asked, AboutSets plan.sets asked ∧ statements = locks plan.sets ++ asked ++ [.commit]
  | .error _ => statements = locks plan.sets

theorem follows_iff_of_valid {plan : Plan} {statements : List Statement} (h : plan.validate = .ok ()) :
    Follows plan statements
      ↔ ∃ asked, AboutSets plan.sets asked ∧ statements = locks plan.sets ++ asked ++ [.commit] := by
  unfold Follows
  rw [h]

theorem follows_iff_of_invalid {plan : Plan} {fault : PlanFault} {statements : List Statement}
    (h : plan.validate = .error fault) : Follows plan statements ↔ statements = locks plan.sets := by
  unfold Follows
  rw [h]

/-! ## The whole transaction -/

/-- Between the begin and the rollback of a transaction: its body, and the commit. -/
def committing {α : Type} (body : SqlOperation α) : SqlOperation α := do
  let a ← body
  let _ ← send .commit
  return a

/-- A transaction is rolled back if it has begun and does not come to the end of its commit. -/
theorem always_transaction {α : Type} {body : SqlOperation α}
    {post : List Exchange → Except Failure α → Prop} :
    Always (transaction body).run post
      ↔ ∀ reply : Except DatabaseFault Answer,
          match reply with
          | .error fault => post [⟨.begin, .error fault⟩] (.error (.database fault))
          | .ok answer => Always (committing body).run fun sent result =>
              match result with
              | .ok a => post (⟨.begin, .ok answer⟩ :: sent) (.ok a)
              | .error failure => ∀ reply,
                  post (⟨.begin, .ok answer⟩ :: (sent ++ [⟨.rollback, reply⟩])) (.error failure) := by
  unfold transaction asUnit
  rw [always_operation_bind, always_send]
  refine forall_congr' fun reply => ?_
  cases reply with
  | error fault => exact Iff.rfl
  | ok answer =>
      show Always _ _ ↔ _
      rw [ExceptT.run_mk, always_bind]
      constructor <;> intro h <;> refine h.mono fun sent result hresult => ?_
      · cases result with
        | ok a => simpa using hresult
        | error failure => simpa using hresult
      · cases result with
        | ok a => simpa using hresult
        | error failure => simpa using hresult

/-- The courses that the transaction of a plan can take. -/
inductive Course (plan : Plan) : List Exchange → Except Failure Executed → Prop
  /-- The transaction cannot begin. -/
  | unopened (fault : DatabaseFault) :
      Course plan [⟨.begin, .error fault⟩] (.error (.database fault))
  /-- A later statement, which may be the commit, does not succeed. -/
  | broken {answer : Answer} {before : List Exchange} {x : Exchange} {fault : DatabaseFault}
      (rest : List Statement) (reply : Except DatabaseFault Answer)
      (hbefore : ∀ y ∈ before, y.Succeeds) (hfault : x.fault? = some fault)
      (hfollows : Follows plan ((before ++ [x]).map Exchange.statement ++ rest)) :
      Course plan (⟨.begin, .ok answer⟩ :: (before ++ [x] ++ [⟨.rollback, reply⟩]))
        (.error (.database fault))
  /-- All locks are taken, and the plan does not validate. -/
  | refused {answer : Answer} {sent : List Exchange} {fault : PlanFault}
      (reply : Except DatabaseFault Answer) (hinvalid : plan.validate = .error fault)
      (hsent : ∀ y ∈ sent, y.Succeeds) (hlocks : sent.map Exchange.statement = locks plan.sets) :
      Course plan (⟨.begin, .ok answer⟩ :: (sent ++ [⟨.rollback, reply⟩])) (.error (.invalidPlan fault))
  /-- The transaction commits. -/
  | committed {answer : Answer} {sent : List Exchange} (executed : Executed)
      (hvalid : plan.validate = .ok ()) (hsent : ∀ y ∈ sent, y.Succeeds)
      (hfollows : Follows plan (sent.map Exchange.statement)) :
      Course plan (⟨.begin, .ok answer⟩ :: sent) (.ok executed)

/-- The locks of a plan that validates, and what its evaluation asks for. -/
theorem always_body_of_valid {plan : Plan} (hvalid : plan.validate = .ok ()) :
    Always (do lockEach plan.sets; plan.execute answerSetCall : SqlOperation Evaluation).run
      (UpToFault fun ss => ∃ asked, AboutSets plan.sets asked ∧ ss = locks plan.sets ++ asked) := by
  rw [Plan.execute_eq_of_valid hvalid]
  refine (always_lockEach plan.sets).upToFault_bind
    (fun _ => always_interpret (asksOnly_evaluate plan)) ⟨[], AboutSets.nil⟩ ?_
  rintro ss asked rfl hasked
  exact ⟨asked, hasked, rfl⟩

theorem always_committing_of_valid {plan : Plan} (hvalid : plan.validate = .ok ()) :
    Always (committing do lockEach plan.sets; plan.execute answerSetCall).run
      (UpToFault (Follows plan)) := by
  have hcommit (e : Evaluation) : Always (do let _ ← send .commit; return e : SqlOperation Evaluation).run
      (UpToFault (· = [.commit])) := by
    have hsend : Always (send .commit).run (UpToFault (· = [.commit])) :=
      (always_single_send fun rows => rfl).mono fun _ _ hsingle => hsingle.upToFault rfl
    have hrest : Always (pure e : SqlOperation Evaluation).run (UpToFault (· = [])) :=
      always_upToFault_pure e rfl
    refine hsend.upToFault_bind (fun _ => hrest) ⟨[], rfl⟩ ?_
    rintro ss ts rfl rfl
    rfl
  refine (always_body_of_valid hvalid).upToFault_bind hcommit ⟨_, rfl⟩ ?_
  rintro ss ts ⟨asked, hasked, rfl⟩ rfl
  exact (follows_iff_of_valid hvalid).mpr ⟨asked, hasked, rfl⟩

/-- **The transaction of a plan always takes one of these courses.** -/
theorem always_course (plan : Plan) : Always (executePlan plan).run (Course plan) := by
  unfold executePlan
  rw [always_operation_bind, always_transaction]
  intro reply
  cases reply with
  | error fault => exact .unopened fault
  | ok answer =>
      show Always _ _
      cases hvalid : plan.validate with
      | ok u =>
          refine (always_committing_of_valid hvalid).mono fun sent result hresult => ?_
          cases hresult with
          | complete e hsent hfollows =>
              simpa using .committed _ hvalid hsent hfollows
          | broken rest hbefore hfault hfollows =>
              exact fun reply => .broken rest reply hbefore hfault hfollows
      | error fault =>
          unfold committing
          rw [Plan.execute_eq_of_invalid hvalid, always_operation_bind, always_operation_bind]
          refine (always_lockEach plan.sets).mono fun sent result hlocks => ?_
          cases hlocks with
          | complete a hsent hss =>
              intro reply
              simpa using .refused reply hvalid hsent hss
          | broken rest hbefore hfault hss =>
              exact fun reply => .broken rest reply hbefore hfault ((follows_iff_of_invalid hvalid).mpr hss)

end GroupQueue.Sql
