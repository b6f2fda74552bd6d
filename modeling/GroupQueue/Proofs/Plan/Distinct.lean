import GroupQueue.Plan.Rehearsal
import GroupQueue.Proofs.Plan.Conditions
import GroupQueue.Proofs.Plan.FirstFailure
import GroupQueue.Proofs.Queue.Sweep
import GroupQueue.Proofs.Session.Runs
import Mathlib.Data.List.Duplicate

/-!
# `Proofs.Plan.Distinct` — which events a plan selects more than once

The identifiers that a plan selects come from its own text, from lookups, from ranges of sets, and from unions of
these. A lookup finds one event at most, a range lists no event twice if the holder of the sets keeps to that, and
a union leaves out what is selected already, so that it repeats no more than was repeated before
(`repeatsOnly_unite`). The text is taken as it stands. So whatever is repeated in a selection, or in what is
put into a set, is repeated in one of the lists that the plan starts a selection with, its **seeds**
(`distinct_unless_seeded`). Plans of queues seed one event at most, and sets in memory keep to distinct events, so
that no operation selects an event twice (`Memory.nodup_of_ownPlan`).

What is promised of the replies is carried down the tree of the conversation: a dialogue **upholds** a property if,
after replies that keep the promise, it makes allowed calls only and ends in a wanted result (`Dialogue.Upholds`).

## Contents
- `Dialogue.Upholds` — with a rule for every way to build a dialogue; `Upholds.trace`: what a run keeps.
- `RepeatsOnly`, `repeatsOnly_unite` — which events of a list are repeated.
- `SetCall.Distinct`, `SetCall.AddsOnly` — what is promised of a reply, and what a call may repeat.
- `Plan.seeds`, `Plan.SeedsTwice`; `upholds_evaluateFrom` — the evaluation repeats what the seeds repeat.
- `distinct_unless_seeded` — whoever holds the sets; `repeated_by_seed`: a seed that repeats an event.
- `Dialogue.promised_trace`, `Sets.Sound.nodup_of_execute`, `Memory.nodup_of_ownPlan` — sets in memory.
-/

namespace GroupQueue

/-! ## Promised replies -/

namespace Dialogue

variable {I : Interface} {α β ε σ : Type} {promised : (c : I.Call) → I.Reply c → Prop}
variable {allowed : I.Call → Prop} {wanted : α → Prop}

/-- As long as the replies are as promised, only allowed calls are made, and the result is a wanted one. -/
def Upholds (promised : (c : I.Call) → I.Reply c → Prop) (allowed : I.Call → Prop) (wanted : α → Prop) :
    Dialogue I α → Prop
  | done a => wanted a
  | ask c next => allowed c ∧ ∀ reply, promised c reply → (next reply).Upholds promised allowed wanted

theorem upholds_pure {a : α} (h : wanted a) : (pure a : Dialogue I α).Upholds promised allowed wanted := h

theorem Upholds.bind {d : Dialogue I α} {f : α → Dialogue I β} {goal : β → Prop}
    (hd : d.Upholds promised allowed wanted) (hf : ∀ a, wanted a → (f a).Upholds promised allowed goal) :
    (d >>= f).Upholds promised allowed goal := by
  induction d with
  | done a => exact hf a hd
  | ask c next ih => exact ⟨hd.1, fun reply hreply => ih reply (hd.2 reply hreply)⟩

/-- A dialogue that asks for allowed calls only does so after promised replies. -/
theorem AsksOnly.upholds {d : Dialogue I α} (h : d.AsksOnly allowed) :
    d.Upholds promised allowed fun _ => True := by
  induction d with
  | done a => trivial
  | ask c next ih => exact ⟨h.1, fun reply _ => ih reply (h.2 reply)⟩

variable (answer : (c : I.Call) → ExceptT ε (StateM σ) (I.Reply c))

/-- **If all replies of a run are as promised, all its calls are allowed, and its result is a wanted one.** -/
theorem Upholds.trace {d : Dialogue I α} (h : d.Upholds promised allowed wanted) (s : σ)
    (hreplies : ∀ x ∈ (d.trace answer s).2, ∀ reply, x.reply = .ok reply → promised x.call reply) :
    (∀ x ∈ (d.trace answer s).2, allowed x.call) ∧ ∀ a, (d.trace answer s).1 = .ok a → wanted a := by
  induction d generalizing s with
  | done a => exact ⟨nofun, fun b hb => Except.ok.inj hb ▸ h⟩
  | ask c next ih =>
      rw [trace_ask] at hreplies ⊢
      generalize (answer c).run s = replied at hreplies ⊢
      obtain ⟨reply, after⟩ := replied
      cases reply with
      | ok reply =>
          obtain ⟨hfirst, hrest⟩ := List.forall_mem_cons.mp hreplies
          obtain ⟨hcalls, hresult⟩ := ih reply (h.2 reply (hfirst reply rfl)) after hrest
          exact ⟨List.forall_mem_cons.mpr ⟨h.1, hcalls⟩, hresult⟩
      | error failure => exact ⟨List.forall_mem_singleton.mpr h.1, nofun⟩

end Dialogue

/-! ## Repeated events -/

/-- Only some events occur in the list more than once. -/
def RepeatsOnly (repeated : EventId → Prop) (ids : List EventId) : Prop :=
  ∀ id, List.Duplicate id ids → repeated id

section Repeats

variable {repeated : EventId → Prop} {acc : List Member}

theorem RepeatsOnly.of_nodup {ids : List EventId} (h : ids.Nodup) : RepeatsOnly repeated ids :=
  fun _ hid => absurd h hid.not_nodup

theorem RepeatsOnly.nodup {ids : List EventId} (h : RepeatsOnly repeated ids) (hnone : ∀ id, ¬ repeated id) :
    ids.Nodup :=
  List.nodup_iff_forall_not_duplicate.mpr fun id hid => hnone id (h id hid)

/-- A member whose event is not in the selection repeats none. -/
theorem repeatsOnly_concat (h : RepeatsOnly repeated (acc.map Member.id)) {m : Member}
    (hm : m.id ∉ acc.map Member.id) : RepeatsOnly repeated ((acc ++ [m]).map Member.id) := by
  intro id hid
  rw [List.map_append, List.map_singleton, List.duplicate_iff_two_le_count, List.count_append] at hid
  by_cases heq : id = m.id
  · subst heq
    rw [List.count_eq_zero_of_not_mem hm, List.count_singleton_self] at hid
    omega
  · rw [List.count_eq_zero_of_not_mem (List.mem_singleton.not.mpr heq), Nat.add_zero] at hid
    exact h id (List.duplicate_iff_two_le_count.mpr hid)

/-- **A union repeats only what was repeated before**, whatever it is extended by. -/
theorem repeatsOnly_unite (h : RepeatsOnly repeated (acc.map Member.id)) (found : List Member) :
    RepeatsOnly repeated ((unite acc found).map Member.id) := by
  unfold unite
  induction found generalizing acc with
  | nil => exact h
  | cons m found ih =>
      rw [List.foldl_cons]
      split
      · exact ih h
      · next hnew =>
        refine ih (repeatsOnly_concat h fun hm => hnew ?_)
        obtain ⟨n, hn, hid⟩ := List.mem_map.mp hm
        exact List.any_eq_true.mpr ⟨n, hn, beq_iff_eq.mpr hid⟩

end Repeats

namespace SetCall

/-- The members in a range are distinct events. -/
def Distinct : (call : SetCall) → call.Reply → Prop
  | .rangeByScore .., ms | .rangeByRank .., ms => ((ms : List Member).map Member.id).Nodup
  | _, _ => True

/-- Only some events are put into a set more than once by the same call. -/
def AddsOnly (repeated : EventId → Prop) : SetCall → Prop
  | .add _ members => RepeatsOnly repeated (members.map Member.id)
  | _ => True

end SetCall

/-! ## Seeds -/

/-- The identifiers that a step starts a selection with. -/
def Step.seed? : Step → Option (List EventId)
  | .select ⟨.events ids, false, _⟩ => some ids
  | _ => none

theorem Step.mem_seed? {choice : Select} {ids : List EventId} (hunion : choice.union = false)
    (htext : choice.selection = .events ids) : ids ∈ (Step.select choice).seed? := by
  obtain ⟨selection, union, guard⟩ := choice
  cases htext
  cases hunion
  rfl

namespace Plan

/-- The lists of identifiers that a plan starts a selection with. -/
def seeds (plan : Plan) : List (List EventId) := plan.steps.filterMap Step.seed?

/-- One of the seeds repeats the event. -/
def SeedsTwice (plan : Plan) (id : EventId) : Prop := ∃ ids ∈ plan.seeds, List.Duplicate id ids

end Plan

/-! ## The evaluation -/

section Evaluation

variable {repeated : EventId → Prop} {acc : List Member}

/-- What a selection finds repeats no event, unless its text does. -/
theorem upholds_members (selection : Selection) :
    (selection.members acc).Upholds SetCall.Distinct (SetCall.AddsOnly repeated) fun found =>
      (∀ ids, selection = .events ids → RepeatsOnly repeated ids) →
        RepeatsOnly repeated (found.map Member.id) := by
  have hnone : RepeatsOnly repeated (([] : List Member).map Member.id) := .of_nodup List.nodup_nil
  cases selection with
  | events ids =>
      refine Dialogue.upholds_pure fun htext => ?_
      have hids : (ids.map Member.natural).map Member.id = ids := by
        rw [List.map_map]
        exact List.map_id ids
      rw [hids]
      exact htext ids rfl
  | scoreRange set range =>
      simp only [Selection.members]
      split
      · split
        · exact Dialogue.upholds_pure fun _ => hnone
        · exact ⟨trivial, fun _ hdistinct _ => RepeatsOnly.of_nodup hdistinct⟩
      · exact Dialogue.upholds_pure fun _ => hnone
  | rank set start stop =>
      simp only [Selection.members]
      split
      · exact Dialogue.upholds_pure fun _ => hnone
      · exact ⟨trivial, fun _ hdistinct _ => RepeatsOnly.of_nodup hdistinct⟩
  | scoreOf set event min max =>
      refine ⟨trivial, fun (score : Option Int) _ _ => RepeatsOnly.of_nodup ?_⟩
      cases score.filter (isWithin min max) with
      | none => exact List.nodup_nil
      | some n => exact List.nodup_singleton event

theorem asksOnly_addsOnly_holds (condition : Condition) :
    (condition.holds acc).AsksOnly (SetCall.AddsOnly repeated) := by
  rw [Condition.holds_eq_verdict]
  exact (Condition.asksOnly_verdict condition).mono fun _ ⟨_, hcall⟩ => hcall ▸ trivial

theorem asksOnly_addsOnly_isWanted (choice : Select) :
    (choice.isWanted acc).AsksOnly (SetCall.AddsOnly repeated) := by
  unfold Select.isWanted
  cases choice.guard with
  | none => exact Dialogue.asksOnly_pure true
  | some condition => exact asksOnly_addsOnly_holds condition

theorem asksOnly_addsOnly_addToEach {ms : List Member} (h : RepeatsOnly repeated (ms.map Member.id))
    (sets : List EventSet) : (addToEach ms sets).AsksOnly (SetCall.AddsOnly repeated) := by
  induction sets with
  | nil => exact Dialogue.asksOnly_pure ()
  | cons set sets ih => exact ⟨h, fun _ => ih⟩

theorem asksOnly_addsOnly_removeFromEach (ids : List EventId) (sets : List EventSet) :
    (removeFromEach ids sets).AsksOnly (SetCall.AddsOnly repeated) := by
  induction sets with
  | nil => exact Dialogue.asksOnly_pure ()
  | cons set sets ih => exact ⟨trivial, fun _ => ih⟩

/-- **Steps select and put in nothing twice but what was selected twice before or is seeded twice**, by induction
    on the steps. -/
theorem upholds_evaluateFrom (steps : List Step) (index : Nat)
    (hseeds : ∀ step ∈ steps, ∀ ids ∈ step.seed?, RepeatsOnly repeated ids)
    (hacc : RepeatsOnly repeated (acc.map Member.id)) :
    (Plan.evaluateFrom index acc steps).Upholds SetCall.Distinct (SetCall.AddsOnly repeated)
      fun e => RepeatsOnly repeated e.events := by
  induction steps generalizing index acc with
  | nil => exact Dialogue.upholds_pure hacc
  | cons step rest ih =>
      obtain ⟨hstep, hrest⟩ := List.forall_mem_cons.mp hseeds
      cases step with
      | select choice =>
          rw [Plan.evaluateFrom]
          refine (asksOnly_addsOnly_isWanted choice).upholds.bind fun wanted _ => ?_
          split
          · refine (upholds_members choice.selection).bind fun found hfound => ih _ hrest ?_
            split
            · exact repeatsOnly_unite hacc found
            · next hreplaces =>
              exact hfound fun ids htext => hstep ids (Step.mem_seed? (eq_false_of_ne_true hreplaces) htext)
          · exact (ih _ hrest hacc).bind fun _ h => Dialogue.upholds_pure h
      | addTo sets score =>
          rw [Plan.evaluateFrom]
          split
          · exact ih _ hrest hacc
          · refine (asksOnly_addsOnly_addToEach ?_ sets).upholds.bind fun _ _ => ih _ hrest hacc
            -- scores are set anew, events stay
            rwa [scored, List.map_map]
      | removeFrom sets =>
          rw [Plan.evaluateFrom]
          split
          · exact ih _ hrest hacc
          · exact (asksOnly_addsOnly_removeFromEach _ sets).upholds.bind fun _ _ => ih _ hrest hacc
      | breakIf condition =>
          rw [Plan.evaluateFrom]
          refine (asksOnly_addsOnly_holds condition).upholds.bind fun holds _ => ?_
          split
          · exact Dialogue.upholds_pure hacc
          · exact ih _ hrest hacc

end Evaluation

/-- The evaluation of a plan repeats only what its seeds repeat. -/
theorem upholds_evaluate (plan : Plan) :
    plan.evaluate.Upholds SetCall.Distinct (SetCall.AddsOnly plan.SeedsTwice)
      fun e => RepeatsOnly plan.SeedsTwice e.events := by
  refine upholds_evaluateFrom plan.steps 0 (fun step hstep ids hids id hid => ?_) (.of_nodup List.nodup_nil)
  exact ⟨ids, List.mem_filterMap.mpr ⟨step, hstep, hids⟩, hid⟩

/-- So it goes whoever holds the sets of a plan, if the ranges that are replied with list no event twice. -/
theorem Plan.repeatsOnly_of_reads {plan : Plan} {σ : Type} {holder : SetHolder σ} {s : σ}
    (hreads : ∀ x ∈ plan.exchanges holder s, ∀ reply, x.reply = .ok reply → x.call.Distinct reply) :
    (∀ x ∈ plan.exchanges holder s, x.call.AddsOnly plan.SeedsTwice)
      ∧ ∀ evaluated, plan.outcome holder s = .ok evaluated → RepeatsOnly plan.SeedsTwice evaluated.events := by
  cases hvalid : plan.validate with
  | error fault =>
      rw [exchanges_of_invalid hvalid, outcome_of_invalid hvalid]
      exact ⟨fun x hx => absurd hx List.not_mem_nil, fun _ hok => nomatch hok⟩
  | ok u =>
      have hupholds := (upholds_evaluate plan).trace (I := SetCall.interface) holder s
      rw [trace_of_valid hvalid] at hupholds
      exact hupholds hreads

theorem Plan.not_seedsTwice {plan : Plan} (h : ∀ ids ∈ plan.seeds, ids.Nodup) (id : EventId) :
    ¬ plan.SeedsTwice id :=
  fun ⟨ids, hids, hid⟩ => hid.not_nodup (h ids hids)

/-- **An event is repeated only if a seed repeats it**: in what a plan selects, and in what any of its calls puts
    into a set, whoever holds the sets, as long as the ranges it replies with list no event twice. If the seeds of
    the plan are lists of distinct events, then all that is selected and all that is put in are. -/
theorem distinct_unless_seeded (plan : Plan) {σ : Type} (holder : SetHolder σ) (s : σ)
    (hreads : ∀ x ∈ plan.exchanges holder s, ∀ reply, x.reply = .ok reply → x.call.Distinct reply) :
    (∀ evaluated, plan.outcome holder s = .ok evaluated → RepeatsOnly plan.SeedsTwice evaluated.events)
      ∧ (∀ x ∈ plan.exchanges holder s, x.call.AddsOnly plan.SeedsTwice)
      ∧ ((∀ ids ∈ plan.seeds, ids.Nodup) →
          (∀ evaluated, plan.outcome holder s = .ok evaluated → evaluated.events.Nodup)
            ∧ ∀ x ∈ plan.exchanges holder s, ∀ set members, x.call = .add set members →
                (members.map Member.id).Nodup) := by
  obtain ⟨hcalls, hresult⟩ := Plan.repeatsOnly_of_reads hreads
  refine ⟨hresult, hcalls, fun hseeds => ?_⟩
  have hnone := Plan.not_seedsTwice hseeds
  refine ⟨fun evaluated h => (hresult evaluated h).nodup hnone, fun x hx set members hadd => ?_⟩
  have hcall := hcalls x hx
  rw [hadd] at hcall
  exact RepeatsOnly.nodup hcall hnone

/-- A range with the events 1 and 2, united with the text `2, 3, 3`: what is put into a set is 1, 2, 3. -/
theorem distinct_unless_seeded_union :
    let set (queue : String) : EventSet := ⟨"b", .available, queue, none⟩
    let plan : Plan := ⟨"b", .ofMicros 0,
      [.pick (.scoreRange (set "q") ScoreRange.all), .select ⟨.events [⟨2⟩, ⟨3⟩, ⟨3⟩], true, none⟩,
        .addTo [set "r"] none]⟩
    let start : Rehearsal := { script := [.members [⟨⟨1⟩, 1⟩, ⟨⟨2⟩, 2⟩]] }
    let put : List Member := [⟨⟨1⟩, 1⟩, ⟨⟨2⟩, 2⟩, ⟨⟨3⟩, 3⟩]
    (plan.exchanges Rehearsal.answer start).map Dialogue.Exchange.call
        = [.rangeByScore (set "q") ScoreRange.all, .add (set "r") put]
      ∧ (plan.outcome Rehearsal.answer start).map Evaluation.events = .ok [⟨1⟩, ⟨2⟩, ⟨3⟩]
      ∧ ∀ x ∈ plan.exchanges Rehearsal.answer start, ∀ set members, x.call = .add set members →
          (members.map Member.id).Nodup := by
  intro set plan start put
  have hvalid : plan.validate = .ok () := by decide +kernel
  have hrun : plan.evaluate.trace (I := SetCall.interface) Rehearsal.answer start
      = (.ok ⟨put, []⟩, [⟨.rangeByScore (set "q") ScoreRange.all, .ok [⟨⟨1⟩, 1⟩, ⟨⟨2⟩, 2⟩]⟩,
          ⟨.add (set "r") put, .ok ()⟩]) := rfl
  rw [Plan.trace_of_valid hvalid] at hrun
  obtain ⟨houtcome, hlog⟩ := Prod.mk.inj hrun
  refine ⟨by rw [hlog]; rfl, by rw [houtcome]; rfl, ?_⟩
  refine ((distinct_unless_seeded plan Rehearsal.answer start ?_).2.2 (by decide)).2
  rw [hlog]
  refine List.forall_mem_cons.mpr ⟨fun reply hreply => ?_, List.forall_mem_singleton.mpr fun _ _ => trivial⟩
  cases hreply
  show (([⟨⟨1⟩, 1⟩, ⟨⟨2⟩, 2⟩] : List Member).map Member.id).Nodup
  decide

/-- **A seed that repeats an event repeats it in what is put into a set.** The plan validates and reads no range;
    the same text as a union is put in once. -/
theorem repeated_by_seed :
    let set : EventSet := ⟨"b", .available, "q", none⟩
    let plan (union : Bool) : Plan :=
      ⟨"b", .ofMicros 0, [.select ⟨.events [⟨5⟩, ⟨5⟩], union, none⟩, .addTo [set] none]⟩
    let start : Rehearsal := { script := [] }
    (plan false).validate = .ok ()
      ∧ (plan false).exchanges Rehearsal.answer start = [⟨.add set [⟨⟨5⟩, 5⟩, ⟨⟨5⟩, 5⟩], .ok ()⟩]
      ∧ ((plan false).outcome Rehearsal.answer start).map Evaluation.events = .ok [⟨5⟩, ⟨5⟩]
      ∧ (plan true).exchanges Rehearsal.answer start = [⟨.add set [⟨⟨5⟩, 5⟩], .ok ()⟩]
      ∧ ((plan true).outcome Rehearsal.answer start).map Evaluation.events = .ok [⟨5⟩] := by
  exact ⟨rfl, rfl, rfl, rfl, rfl⟩

/-! ## Sets in memory -/

namespace Dialogue

variable {I : Interface} {α ε σ : Type} {promised : (c : I.Call) → I.Reply c → Prop} {inv : σ → Prop}
variable {answer : (c : I.Call) → ExceptT ε (StateM σ) (I.Reply c)}

/-- If every state that calls can lead to keeps the promise, a run does. -/
theorem promised_trace (hkeeps : ∀ s, inv s → ∀ c, inv ((answer c).run s).2)
    (hpromised : ∀ s, inv s → ∀ c reply, ((answer c).run s).1 = .ok reply → promised c reply)
    (d : Dialogue I α) {s : σ} (h : inv s) :
    ∀ x ∈ (d.trace answer s).2, ∀ reply, x.reply = .ok reply → promised x.call reply := by
  induction d generalizing s with
  | done a => exact nofun
  | ask c next ih =>
      have hafter := hkeeps s h c
      have hreply := hpromised s h c
      rw [trace_ask]
      generalize (answer c).run s = replied at hafter hreply ⊢
      obtain ⟨reply, after⟩ := replied
      cases reply with
      | ok reply => exact List.forall_mem_cons.mpr ⟨hreply, ih reply hafter⟩
      | error failure => exact List.forall_mem_singleton.mpr hreply

end Dialogue

/-- No event is in a window twice. -/
theorem Contents.nodup_ids_window (held : Contents) (admits : Int → Bool) (descending : Bool)
    (limit : Option Nat) : ((window held admits descending limit).map Member.id).Nodup := by
  let found := members (held.filter fun _ score => admits score)
  have hdirected : ((if descending then found.reverse else found).map Member.id).Nodup := by
    split
    · rw [List.map_reverse]
      exact List.nodup_reverse.mpr (nodup_ids _)
    · exact nodup_ids _
  cases limit with
  | none => exact hdirected
  | some n => exact hdirected.sublist ((List.take_sublist n _).map _)

namespace Sets

/-- The sets in memory as the holder of the sets of a plan. -/
def holder : SetHolder Sets := fun call => ExceptT.lift fun sets => sets.answer call

/-- Sets in memory list no event twice. -/
theorem Sound.distinct_answer {sets : Sets} (h : sets.Sound) (call : SetCall) :
    call.Distinct (sets.answer call).1 := by
  cases call with
  | rangeByScore set range =>
      rw [h.answer_rangeByScore]
      exact Contents.nodup_ids_window _ _ _ _
  | rangeByRank set start stop =>
      rw [Sets.answer_rangeByRank, h.members_eq]
      refine (Contents.nodup_ids (sets.contents set.key)).sublist (List.Sublist.map Member.id ?_)
      exact (List.take_sublist _ _).trans (List.drop_sublist _ _)
  | scoreOf set event | add set members | remove set events | isEmpty set => trivial

/-- So a plan whose seeds are distinct selects distinct events from them. -/
theorem Sound.nodup_of_execute {sets : Sets} (h : sets.Sound) {plan : Plan}
    (hseeds : ∀ ids ∈ plan.seeds, ids.Nodup) {evaluated : Evaluation}
    (hok : ((execute plan).run sets).1 = .ok evaluated) : evaluated.events.Nodup := by
  have hreads : ∀ x ∈ plan.exchanges holder sets, ∀ reply, x.reply = .ok reply → x.call.Distinct reply := by
    cases hvalid : plan.validate with
    | error fault =>
        rw [Plan.exchanges_of_invalid hvalid]
        exact fun x hx => absurd hx List.not_mem_nil
    | ok u =>
        have hrun : ∀ x ∈ (plan.evaluate.trace (I := SetCall.interface) holder sets).2, ∀ reply,
            x.reply = .ok reply → x.call.Distinct reply :=
          Dialogue.promised_trace (fun _ hsets call => hsets.answer call)
            (fun _ hsets call _ hreply => Except.ok.inj hreply ▸ hsets.distinct_answer call) plan.evaluate h
        rwa [Plan.trace_of_valid hvalid] at hrun
  exact ((Plan.repeatsOnly_of_reads hreads).2 evaluated hok).nodup (Plan.not_seedsTwice hseeds)

end Sets

/-- A plan of a queue has at most one seed, the new event of an addition. -/
theorem Queue.OwnPlan.seeds_cases {q : Queue} {now : Instant} {plan : Plan} (h : q.OwnPlan now plan) :
    plan.seeds = [] ∨ ∃ id, plan.seeds = [[id]] := by
  cases h with
  | add hqueue id => exact Or.inr ⟨id, rfl⟩
  | @get cmd hqueue hgroup =>
      left
      unfold Queue.getPlan
      cases cmd.deadline <;> rfl
  | ack hqueue hgroup | requeue hqueue hgroup => exact Or.inl rfl
  | purge queue role group | len queue role group => exact Or.inl rfl

/-- **No operation of a queue selects an event twice.** -/
theorem Memory.nodup_of_ownPlan {memory : Memory} (hsound : memory.sets.Sound) {q : Queue} {now : Instant}
    {plan : Plan} (h : q.OwnPlan now plan) {executed : Executed} (hok : (memory.execute plan).1 = .ok executed) :
    executed.events.Nodup := by
  have hseeds : ∀ ids ∈ plan.seeds, ids.Nodup := by
    rcases h.seeds_cases with hnone | ⟨id, hone⟩
    · simp [hnone]
    · simp [hone]
  unfold Memory.execute at hok
  cases hrun : (Sets.execute plan).run memory.sets with
  | mk result sets =>
      rw [hrun] at hok
      cases result with
      | error failure => cases hok
      | ok evaluated =>
          cases hok
          exact hsound.nodup_of_execute hseeds (congrArg Prod.fst hrun)

end GroupQueue
