import GroupQueue.Proofs.Plan.SetOrder
import GroupQueue.Proofs.Sql.Courses
import GroupQueue.Sql.Server

/-!
# `Proofs.Sql.Protocol` — which statements a plan sends, in which order

The four courses of a plan's transaction (`Course`) are read here as a protocol that does not mention them:
what may be sent after what, when the commit is sent, what still is after the first statement that does not
succeed, and what the caller gets (`Protocol`). Every field is read off the courses one by one. Nothing is
assumed of the server.

## Contents
- `Protocol` — the statement protocol.
- `Follows.isPrefix`, `Follows.of_commit_mem` — where the opening and the commit of a plan stand.
- `Course.order`, `Course.commit_iff`, `Course.of_fault`, `Course.of_successes` — the courses keep to it.
- `executePlan_protocol` — with every server.
-/

namespace GroupQueue.Sql

/-! ## The protocol -/

/-- What is sent before a plan asks for anything. -/
def opening (plan : Plan) : List Statement := .begin :: locks plan.sets

/-- **The statement protocol of a plan**, for the statements that are sent, with their replies, and for what
    becomes of the plan. -/
structure Protocol (plan : Plan) (sent : List Exchange) (result : Except Failure Executed) : Prop where
  /-- The locks are those of the distinct sets of the plan, in their order. -/
  increasing : EventSet.Increasing plan.sets
  /-- The begin, the locks, statements about locked sets and the commit are sent in this order, as far as
      it goes. Nothing else is sent but a rollback, which comes last. -/
  order : ∃ asked main : List Statement, AboutSets plan.sets asked
    ∧ main ≠ [] ∧ main <+: opening plan ++ asked ++ [.commit]
    ∧ (sent.map Exchange.statement = main ∨ sent.map Exchange.statement = main ++ [.rollback])
  /-- The commit is sent if and only if the plan validates and all statements before it succeed. -/
  commit_iff : .commit ∈ sent.map Exchange.statement ↔ plan.validate = .ok ()
    ∧ ∀ x ∈ sent, x.statement ≠ .commit → x.statement ≠ .rollback → x.Succeeds
  /-- After a statement that does not succeed, only a transaction that has begun is rolled back, and the
      caller gets what went wrong. -/
  of_fault : ∀ (before : List Exchange) (x : Exchange) (after : List Exchange) (fault : DatabaseFault),
    sent = before ++ x :: after → x.statement ≠ .rollback → x.fault? = some fault →
      after.map Exchange.statement = (if x.statement = .begin then [] else [.rollback])
        ∧ result = .error (.database fault)
  /-- If nothing goes wrong, a plan that does not validate is refused after the last lock. -/
  refused : ∀ fault : PlanFault, plan.validate = .error fault →
    (∀ x ∈ sent, x.statement ≠ .rollback → x.Succeeds) →
      sent.map Exchange.statement = opening plan ++ [.rollback] ∧ result = .error (.invalidPlan fault)
  /-- If nothing goes wrong, a plan that validates commits. -/
  committed : plan.validate = .ok () → (∀ x ∈ sent, x.statement ≠ .rollback → x.Succeeds) →
    ∃ (asked : List Statement) (executed : Executed), AboutSets plan.sets asked
      ∧ sent.map Exchange.statement = opening plan ++ asked ++ [.commit] ∧ result = .ok executed

section Facts

variable {plan : Plan} {ss rest : List Statement}

theorem mem_locks {sets : List EventSet} {s : Statement} (h : s ∈ locks sets) :
    ∃ set ∈ sets, s = .lock set.key := by
  obtain ⟨set, hset, rfl⟩ := List.mem_map.mp h
  exact ⟨set, hset, rfl⟩

/-- Whatever a plan sends follows its opening, on the way to its commit. -/
theorem Follows.isPrefix (h : Follows plan (ss ++ rest)) :
    ∃ asked, AboutSets plan.sets asked ∧ .begin :: ss <+: opening plan ++ asked ++ [.commit] := by
  unfold Follows at h
  split at h
  · obtain ⟨asked, hasked, heq⟩ := h
    refine ⟨asked, hasked, rest, ?_⟩
    rw [List.cons_append, heq]
    rfl
  · refine ⟨[], AboutSets.nil, rest ++ [.commit], ?_⟩
    rw [List.cons_append, ← List.append_assoc, h, List.append_nil]
    rfl

theorem Follows.ne_begin_and_ne_rollback {s : Statement} (h : Follows plan ss) (hs : s ∈ ss) :
    s ≠ .begin ∧ s ≠ .rollback := by
  have hlock (hs : s ∈ locks plan.sets) : s ≠ .begin ∧ s ≠ .rollback := by
    obtain ⟨set, -, rfl⟩ := mem_locks hs
    exact ⟨nofun, nofun⟩
  unfold Follows at h
  split at h
  · obtain ⟨asked, hasked, rfl⟩ := h
    rcases List.mem_append.mp hs with hs | hs
    · rcases List.mem_append.mp hs with hs | hs
      · exact hlock hs
      · obtain ⟨set, -, hkey⟩ := hasked s hs
        refine ⟨?_, ?_⟩ <;> rintro rfl <;> contradiction
    · rw [List.mem_singleton.mp hs]
      exact ⟨nofun, nofun⟩
  · subst h
    exact hlock hs

/-- In particular, the one that a run breaks off at. -/
theorem Follows.last_ne {before : List Exchange} {x : Exchange}
    (h : Follows plan ((before ++ [x]).map Exchange.statement ++ rest)) :
    x.statement ≠ .begin ∧ x.statement ≠ .rollback :=
  h.ne_begin_and_ne_rollback (List.mem_append_left rest (by simp))

/-- The commit of a plan is its last statement, and a plan that does not validate has none. -/
theorem Follows.of_commit_mem (h : Follows plan (ss ++ rest)) (hs : .commit ∈ ss) :
    plan.validate = .ok () ∧ rest = [] ∧ ∃ earlier, ss = earlier ++ [.commit] ∧ .commit ∉ earlier := by
  have hlocks : .commit ∉ locks plan.sets := fun hmem => by
    obtain ⟨set, -, heq⟩ := mem_locks hmem
    contradiction
  unfold Follows at h
  split at h
  · next hvalid =>
    obtain ⟨asked, hasked, heq⟩ := h
    have hearlier : .commit ∉ locks plan.sets ++ asked := fun hmem => by
      rcases List.mem_append.mp hmem with hmem | hmem
      · exact hlocks hmem
      · obtain ⟨set, -, hkey⟩ := hasked _ hmem
        contradiction
    rcases List.append_eq_append_iff.mp heq with ⟨more, hmore, -⟩ | ⟨more, hmore, hcommit⟩
    · -- what is sent ends before the commit
      exact absurd (hmore ▸ List.mem_append_left more hs) hearlier
    · cases more with
      | nil =>
          rw [List.append_nil] at hmore
          exact absurd (hmore ▸ hs) hearlier
      | cons s more =>
          obtain ⟨rfl, hnil⟩ := List.cons.inj hcommit
          obtain ⟨rfl, rfl⟩ := List.append_eq_nil_iff.mp hnil.symm
          exact ⟨hvalid, rfl, _, hmore, hearlier⟩
  · exact absurd (h ▸ List.mem_append_left rest hs) hlocks

end Facts

/-! ## The courses follow the protocol -/

section Courses

variable {plan : Plan} {sent : List Exchange} {result : Except Failure Executed}

/-- In a run of successes with one fault at its end, up to a rollback, there is no other fault. -/
theorem split_of_fault {successes before after : List Exchange} {x y : Exchange} {tail : List Exchange}
    {fault : DatabaseFault} (hsuccesses : ∀ z ∈ successes, z.Succeeds)
    (htail : ∀ z ∈ tail, z.statement = .rollback) (heq : successes ++ x :: tail = before ++ y :: after)
    (hy : y.statement ≠ .rollback) (hfault : y.fault? = some fault) : x = y ∧ tail = after := by
  have hfails : ¬ y.Succeeds := Exchange.not_succeeds hfault
  rcases List.append_eq_append_iff.mp heq with ⟨more, rfl, hmore⟩ | ⟨more, rfl, hmore⟩
  · cases more with
    | nil => exact ⟨(List.cons.inj hmore).1, (List.cons.inj hmore).2⟩
    | cons z more =>
        -- then the fault would be in the tail
        obtain ⟨-, rfl⟩ := List.cons.inj hmore
        exact absurd (htail y (by simp)) hy
  · cases more with
    | nil => exact ⟨(List.cons.inj hmore).1.symm, (List.cons.inj hmore).2.symm⟩
    | cons z more =>
        obtain ⟨rfl, -⟩ := List.cons.inj hmore
        exact absurd (hsuccesses y (by simp)) hfails

theorem succeeds_begin (answer : Answer) : (⟨.begin, .ok answer⟩ : Exchange).Succeeds :=
  ⟨answer, rfl, trivial⟩

theorem Course.order (h : Course plan sent result) :
    ∃ asked main : List Statement, AboutSets plan.sets asked
      ∧ main ≠ [] ∧ main <+: opening plan ++ asked ++ [.commit]
      ∧ (sent.map Exchange.statement = main ∨ sent.map Exchange.statement = main ++ [.rollback]) := by
  cases h with
  | unopened fault => exact ⟨[], [.begin], AboutSets.nil, nofun, ⟨_, rfl⟩, Or.inl rfl⟩
  | broken rest reply hbefore hfault hfollows =>
      obtain ⟨asked, hasked, hprefix⟩ := hfollows.isPrefix
      exact ⟨asked, _, hasked, List.cons_ne_nil _ _, hprefix, Or.inr (by simp)⟩
  | @refused answer sent fault reply hinvalid hsent hlocks =>
      refine ⟨[], opening plan, AboutSets.nil, nofun, ⟨[.commit], by simp⟩, Or.inr ?_⟩
      simp [opening, hlocks]
  | @committed answer sent executed hvalid hsent hfollows =>
      rw [← List.append_nil (sent.map _)] at hfollows
      obtain ⟨asked, hasked, hprefix⟩ := hfollows.isPrefix
      exact ⟨asked, _, hasked, List.cons_ne_nil _ _, hprefix, Or.inl rfl⟩

theorem Course.commit_iff (h : Course plan sent result) :
    .commit ∈ sent.map Exchange.statement ↔ plan.validate = .ok ()
      ∧ ∀ x ∈ sent, x.statement ≠ .commit → x.statement ≠ .rollback → x.Succeeds := by
  cases h with
  | unopened fault =>
      refine ⟨fun hmem => by simp at hmem, fun hall => ?_⟩
      obtain ⟨answer, hanswer, -⟩ := hall.2 ⟨.begin, .error fault⟩ (by simp) nofun nofun
      contradiction
  | @broken answer before x fault rest reply hbefore hfault hfollows =>
      constructor
      · intro hmem
        have hcommit : .commit ∈ (before ++ [x]).map Exchange.statement := by simpa using hmem
        obtain ⟨hvalid, -, earlier, hlast, -⟩ := hfollows.of_commit_mem hcommit
        have hx : x.statement = .commit := by
          rw [List.map_append] at hlast
          exact List.singleton_inj.mp (List.append_inj_right' hlast rfl)
        refine ⟨hvalid, fun y hy hne hback => ?_⟩
        simp only [List.mem_cons, List.mem_append, List.not_mem_nil, or_false] at hy
        rcases hy with rfl | ((hy | rfl) | rfl)
        · exact succeeds_begin answer
        · exact hbefore y hy
        · exact absurd hx hne
        · exact absurd rfl hback
      · rintro ⟨-, hall⟩
        -- the statement that fails is not the rollback, so it must be the commit
        have hx : x.statement = .commit := Decidable.byContradiction fun hne =>
          Exchange.not_succeeds hfault (hall x (by simp) hne hfollows.last_ne.2)
        simp [hx]
  | @refused answer sent fault reply hinvalid hsent hlocks =>
      constructor
      · intro hmem
        have hcommit : .commit ∈ locks plan.sets := by
          rw [← hlocks]
          simpa using hmem
        obtain ⟨set, -, heq⟩ := mem_locks hcommit
        contradiction
      · rintro ⟨hvalid, -⟩
        rw [hinvalid] at hvalid
        contradiction
  | @committed answer sent executed hvalid hsent hfollows =>
      constructor
      · intro hmem
        refine ⟨hvalid, fun x hx _ _ => ?_⟩
        rcases List.mem_cons.mp hx with rfl | hx
        · exact succeeds_begin answer
        · exact hsent x hx
      · rintro -
        obtain ⟨asked, -, heq⟩ := (follows_iff_of_valid hvalid).mp hfollows
        rw [List.map_cons, heq]
        simp

theorem Course.of_fault (h : Course plan sent result) {before after : List Exchange} {x : Exchange}
    {fault : DatabaseFault} (heq : sent = before ++ x :: after) (hx : x.statement ≠ .rollback)
    (hfault : x.fault? = some fault) :
    after.map Exchange.statement = (if x.statement = .begin then [] else [.rollback])
      ∧ result = .error (.database fault) := by
  have hfails : ¬ x.Succeeds := Exchange.not_succeeds hfault
  have hmem : x ∈ sent := heq ▸ by simp
  cases h with
  | unopened first =>
      obtain ⟨rfl, rfl⟩ := split_of_fault (by simp) (by simp) (show [] ++ _ :: [] = _ from heq) hx hfault
      obtain rfl : first = fault := Option.some.inj hfault
      exact ⟨rfl, rfl⟩
  | @broken answer before y first rest reply hbefore hfirst hfollows =>
      have hsuccesses : ∀ z ∈ ⟨.begin, .ok answer⟩ :: before, z.Succeeds :=
        List.forall_mem_cons.mpr ⟨succeeds_begin answer, hbefore⟩
      rw [List.append_assoc, ← List.cons_append] at heq
      obtain ⟨rfl, rfl⟩ := split_of_fault hsuccesses (by simp) heq hx hfault
      obtain rfl : first = fault := Option.some.inj (hfirst.symm.trans hfault)
      rw [if_neg hfollows.last_ne.1]
      exact ⟨rfl, rfl⟩
  | @refused answer sent first reply hinvalid hsent hlocks =>
      simp only [List.mem_cons, List.mem_append, List.not_mem_nil, or_false] at hmem
      rcases hmem with rfl | (hmem | rfl)
      · exact absurd (succeeds_begin answer) hfails
      · exact absurd (hsent x hmem) hfails
      · exact absurd rfl hx
  | @committed answer sent executed hvalid hsent hfollows =>
      rcases List.mem_cons.mp hmem with rfl | hmem
      · exact absurd (succeeds_begin answer) hfails
      · exact absurd (hsent x hmem) hfails

/-- What comes to pass if nothing goes wrong. -/
theorem Course.of_successes (h : Course plan sent result)
    (hall : ∀ x ∈ sent, x.statement ≠ .rollback → x.Succeeds) :
    (∃ fault, plan.validate = .error fault
        ∧ sent.map Exchange.statement = opening plan ++ [.rollback] ∧ result = .error (.invalidPlan fault))
      ∨ plan.validate = .ok () ∧ ∃ (asked : List Statement) (executed : Executed),
          AboutSets plan.sets asked
            ∧ sent.map Exchange.statement = opening plan ++ asked ++ [.commit] ∧ result = .ok executed := by
  cases h with
  | unopened fault =>
      obtain ⟨answer, hanswer, -⟩ := hall ⟨.begin, .error fault⟩ (by simp) nofun
      contradiction
  | @broken answer before x fault rest reply hbefore hfault hfollows =>
      exact absurd (hall x (by simp) hfollows.last_ne.2) (Exchange.not_succeeds hfault)
  | @refused answer sent fault reply hinvalid hsent hlocks =>
      left
      refine ⟨fault, hinvalid, ?_, rfl⟩
      simp [opening, hlocks]
  | @committed answer sent executed hvalid hsent hfollows =>
      right
      obtain ⟨asked, hasked, heq⟩ := (follows_iff_of_valid hvalid).mp hfollows
      refine ⟨hvalid, asked, executed, hasked, ?_, rfl⟩
      rw [List.map_cons, heq]
      rfl

end Courses

/-- **Executing a plan keeps to the protocol**, with every server: whatever its state, whatever rows it
    replies and whichever statements it fails. The result that the protocol speaks of is what the execution comes
    to with that server. -/
theorem executePlan_protocol (plan : Plan) {σ : Type} (server : SqlServer σ) (s : σ) :
    let conversation := hold server (executePlan plan).run s
    conversation.1 = ((executePlan plan).run.interpret (I := Statement.interface) (m := StateM σ) server s).1
      ∧ Protocol plan conversation.2 conversation.1 := by
  intro conversation
  have hcourse : Course plan conversation.2 conversation.1 := (always_course plan).hold server s
  refine ⟨hold_fst server _ s, ?_⟩
  exact {
    increasing := plan.increasing_sets
    order := hcourse.order
    commit_iff := hcourse.commit_iff
    of_fault := fun before x after fault heq hx hfault => hcourse.of_fault heq hx hfault
    refused := fun fault hinvalid hall => by
      rcases hcourse.of_successes hall with ⟨first, hfirst, hsent, hresult⟩ | ⟨hvalid, -⟩
      · obtain rfl : first = fault := Except.error.inj (hfirst.symm.trans hinvalid)
        exact ⟨hsent, hresult⟩
      · rw [hinvalid] at hvalid
        contradiction
    committed := fun hvalid hall => by
      rcases hcourse.of_successes hall with ⟨fault, hinvalid, -⟩ | ⟨-, hcommitted⟩
      · rw [hinvalid] at hvalid
        contradiction
      · exact hcommitted }

/-- Of two sets, the first one is found not to be empty, but its member cannot be read. -/
example :
    let x : EventSet := ⟨"ns", .available, "q", none⟩
    let y : EventSet := ⟨"ns", .done, "q", some "g"⟩
    let plan : Plan := ⟨"ns", Instant.ofMicros 0, [.breakIf (.ifEmpty x), .pick (.first x), .addTo [y] none]⟩
    let server : Server := { script := [.rows [[.boolean false]], .rows [[.integer 5, .null]]] }
    let conversation := hold Server.answer (executePlan plan).run server
    conversation.2.map Exchange.statement
      = [.begin, .lock x.key, .lock y.key, .isEmpty x.key, .members (.ofRanks x.key 0 0), .rollback]
      ∧ conversation.2.map Exchange.fault? = [none, none, none, none, some (.badColumn 1), none] := by
  decide +kernel

end GroupQueue.Sql
