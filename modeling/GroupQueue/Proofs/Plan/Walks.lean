import GroupQueue.Proofs.Plan.Distinct
import GroupQueue.Proofs.Plan.Footprint
import GroupQueue.Proofs.Store.Walks

/-!
# `Proofs.Plan.Walks` — executing a plan without a misstep

Reads of sorted sets are walks and differences, and some of these are missteps. Who keeps them out are three parties
that do not know of each other: the evaluation resolves a range and asks for it only if it leaves room, and for
ranks only if they do not end before they start (`SetCall.Effective`); and a sorted set looks at the bounds once more
before it walks. Here the sets are asked in such a way that each of their missteps would be the end of the run
(`Sets.walk`, `Sets.executeWalking`). There is none, whatever the plan and whatever the sets.

The run is then the run of the plan (`executes_without_misstep`), as long as all identifiers are machine words, as
the edges of walks are. Plans bring in none but those that they name (`upholds_finds_evaluateFrom`).

## Contents
- `Sets.walk`, `Sets.executeWalking` — execution by walks; `Sets.walk_ok`.
- `Dialogue.interpret_ok`, `Dialogue.Upholds.interpret_eq` — runs whose calls are allowed.
- `SetCall.Finds`, `SetCall.Puts`; `upholds_finds_evaluateFrom` — where the identifiers of a run come from.
- `executes_without_misstep` — for every plan, in every state that plans can reach.
-/

namespace GroupQueue

/-! ## Execution by walks -/

namespace Sets

/-- Answer a call of a plan by a walk along the set, which may be a misstep. -/
def walk (sets : Sets) : (call : SetCall) → Except Misstep (call.Reply × Sets)
  | .rangeByScore set range =>
    match sets.byKey[set.key]? with
    | some held => (held.walkRange range).map fun found => (found, sets)
    | none => .ok ([], sets)
  | .rangeByRank set start stop =>
    match sets.byKey[set.key]? with
    | some held => (held.walkRanks start stop).map fun found => (found, sets)
    | none => .ok ([], sets)
  | call => .ok (sets.answer call)

/-- Execute a plan by walks. A misstep is the end of everything, and leaves no state behind. -/
def executeWalking (plan : Plan) : ExceptT Failure (StateT Sets (Except Misstep)) Evaluation :=
  plan.execute fun call => ExceptT.lift fun sets => sets.walk call

/-- What can have an effect is no misstep. -/
theorem walk_ok (sets : Sets) {call : SetCall} (h : call.Effective) :
    ∃ replied, sets.walk call = .ok replied := by
  cases call with
  | rangeByScore set range =>
      rw [walk]
      cases sets.byKey[set.key]? with
      | none => exact ⟨_, rfl⟩
      | some held =>
          obtain ⟨found, hfound⟩ := held.walkRange_ok range
          exact ⟨(found, sets), by simp only [hfound]; rfl⟩
  | rangeByRank set start stop =>
      rw [walk]
      cases sets.byKey[set.key]? with
      | none => exact ⟨_, rfl⟩
      | some held => exact ⟨(held.ranks start stop, sets), by simp only [held.walkRanks_ok h]; rfl⟩
  | scoreOf set event | add set members | remove set events | isEmpty set => exact ⟨_, rfl⟩

/-- The sets hold no event whose identifier is not a machine word. -/
structure InWords (sets : Sets) : Prop where
  sound : sets.Sound
  words : AllHeld EventId.FitsWord sets.contents

/-- A walk along such sets finds what is in the range. -/
theorem InWords.walk_eq {sets : Sets} (h : sets.InWords) {call : SetCall} (heffective : call.Effective) :
    sets.walk call = .ok (sets.answer call) := by
  cases call with
  | rangeByScore set range =>
      rw [walk, answer]
      cases hset : sets.byKey[set.key]? with
      | none => rfl
      | some held =>
          have hsound := h.sound set.key held hset
          have hwords : ∀ m ∈ held.ordered, m.id.FitsWord := by
            intro m hm
            rw [hsound] at hm
            refine h.words set.key m.id ?_
            rw [contents_of_some hset]
            exact Contents.mem_of_mem_members hm
          simp only [hsound.walkRange_eq hwords]
          rfl
  | rangeByRank set start stop =>
      rw [walk, answer]
      cases sets.byKey[set.key]? with
      | none => rfl
      | some held =>
          simp only [held.walkRanks_ok heffective]
          rfl
  | scoreOf set event | add set members | remove set events | isEmpty set => rfl

end Sets

/-! ## Runs whose calls are allowed -/

namespace Dialogue

variable {I : Interface} {α δ σ : Type} {allowed : I.Call → Prop} {promised : (c : I.Call) → I.Reply c → Prop}
variable {wanted : α → Prop} (walk : (c : I.Call) → StateT σ (Except δ) (I.Reply c))

/-- If no allowed call goes wrong, a run of allowed calls does not. -/
theorem interpret_ok (hok : ∀ c, allowed c → ∀ s, ∃ replied, (walk c).run s = .ok replied)
    {d : Dialogue I α} (h : d.AsksOnly allowed) (s : σ) : ∃ ended, (d.interpret walk).run s = .ok ended := by
  induction d generalizing s with
  | done a => exact ⟨(a, s), rfl⟩
  | ask c next ih =>
      obtain ⟨⟨reply, after⟩, hreply⟩ := hok c h.1 s
      obtain ⟨ended, hended⟩ := ih reply (h.2 reply) after
      refine ⟨ended, ?_⟩
      rw [interpret_ask, StateT.run_bind, hreply]
      exact hended

/-- If the allowed calls go as they would have to, from states that they do not leave, so does a run. -/
theorem Upholds.interpret_eq (answer : (c : I.Call) → StateM σ (I.Reply c)) {inv : σ → Prop}
    (hstep : ∀ c, allowed c → ∀ s, inv s → (walk c).run s = .ok ((answer c).run s)
      ∧ promised c ((answer c).run s).1 ∧ inv ((answer c).run s).2)
    {d : Dialogue I α} (h : d.Upholds promised allowed wanted) {s : σ} (hs : inv s) :
    (d.interpret walk).run s = .ok ((d.interpret answer).run s) := by
  induction d generalizing s with
  | done a => rfl
  | ask c next ih =>
      obtain ⟨hreply, hpromised, hafter⟩ := hstep c h.1 s hs
      rw [interpret_ask, interpret_ask, StateT.run_bind, StateT.run_bind, hreply]
      exact ih _ (h.2 _ hpromised) hafter

/-- What holds of all calls and what holds of them after promised replies hold together. -/
theorem AsksOnly.upholds_and {effective : I.Call → Prop} {d : Dialogue I α} (h : d.AsksOnly effective)
    (hd : d.Upholds promised allowed wanted) : d.Upholds promised (fun c => effective c ∧ allowed c) wanted := by
  induction d with
  | done a => exact hd
  | ask c next ih => exact ⟨⟨h.1, hd.1⟩, fun reply hreply => ih reply (h.2 reply) (hd.2 reply hreply)⟩

end Dialogue

/-! ## Where the identifiers come from -/

namespace SetCall

/-- Only events with some property are found. -/
def Finds (P : EventId → Prop) : (call : SetCall) → call.Reply → Prop
  | .rangeByScore .., found | .rangeByRank .., found => ∀ m ∈ (found : List Member), P m.id
  | .scoreOf _ event, score => (score : Option Int).isSome → P event
  | _, _ => True

/-- Only events with some property are put in. -/
def Puts (P : EventId → Prop) : SetCall → Prop
  | .add _ members => ∀ m ∈ members, P m.id
  | _ => True

end SetCall

section Evaluation

variable {P : EventId → Prop} {acc : List Member}

/-- What is selected is named by the selection, or has been found. -/
theorem upholds_finds_members {selection : Selection} (h : ∀ id ∈ Step.names (.pick selection), P id) :
    (selection.members acc).Upholds (SetCall.Finds P) (SetCall.Puts P) fun found => ∀ m ∈ found, P m.id := by
  cases selection with
  | events ids =>
      refine Dialogue.upholds_pure fun m hm => ?_
      obtain ⟨id, hid, rfl⟩ := List.mem_map.mp hm
      exact h id hid
  | scoreRange set range =>
      simp only [Selection.members]
      split
      · split
        · exact Dialogue.upholds_pure (by simp)
        · exact ⟨trivial, fun _ hfound => hfound⟩
      · exact Dialogue.upholds_pure (by simp)
  | rank set start stop =>
      simp only [Selection.members]
      split
      · exact Dialogue.upholds_pure (by simp)
      · exact ⟨trivial, fun _ hfound => hfound⟩
  | scoreOf set event min max =>
      refine ⟨trivial, fun (score : Option Int) hfound => ?_⟩
      cases score with
      | none => exact fun m hm => absurd hm (by simp)
      | some n =>
          intro m hm
          obtain ⟨s, -, rfl⟩ := Option.map_eq_some_iff.mp (Option.mem_toList.mp hm)
          exact hfound rfl

theorem asksOnly_puts_holds (condition : Condition) : (condition.holds acc).AsksOnly (SetCall.Puts P) := by
  rw [Condition.holds_eq_verdict]
  exact (Condition.asksOnly_verdict condition).mono fun _ ⟨_, hcall⟩ => hcall ▸ trivial

theorem asksOnly_puts_isWanted (choice : Select) : (choice.isWanted acc).AsksOnly (SetCall.Puts P) := by
  unfold Select.isWanted
  cases choice.guard with
  | none => exact Dialogue.asksOnly_pure true
  | some condition => exact asksOnly_puts_holds condition

theorem asksOnly_puts_addToEach {ms : List Member} (h : ∀ m ∈ ms, P m.id) (sets : List EventSet) :
    (addToEach ms sets).AsksOnly (SetCall.Puts P) := by
  induction sets with
  | nil => exact Dialogue.asksOnly_pure ()
  | cons set sets ih => exact ⟨h, fun _ => ih⟩

theorem asksOnly_puts_removeFromEach (ids : List EventId) (sets : List EventSet) :
    (removeFromEach ids sets).AsksOnly (SetCall.Puts P) := by
  induction sets with
  | nil => exact Dialogue.asksOnly_pure ()
  | cons set sets ih => exact ⟨trivial, fun _ => ih⟩

/-- **Steps put in nothing but what they name or have found**, by induction on the steps. -/
theorem upholds_finds_evaluateFrom (steps : List Step) (index : Nat)
    (hnames : ∀ id ∈ steps.flatMap Step.names, P id) (hacc : ∀ m ∈ acc, P m.id) :
    (Plan.evaluateFrom index acc steps).Upholds (SetCall.Finds P) (SetCall.Puts P)
      fun e => ∀ m ∈ e.selected, P m.id := by
  induction steps generalizing index acc with
  | nil => exact Dialogue.upholds_pure hacc
  | cons step rest ih =>
      rw [List.flatMap_cons, List.forall_mem_append] at hnames
      obtain ⟨hnamed, hnames⟩ := hnames
      cases step with
      | select choice =>
          rw [Plan.evaluateFrom]
          refine (asksOnly_puts_isWanted choice).upholds.bind fun wanted _ => ?_
          split
          · refine (upholds_finds_members hnamed).bind fun found hfound => ih _ hnames ?_
            split
            · intro m hm
              rw [unite_eq_extend] at hm
              exact (Position.mem_of_mem_extend hm).elim (hacc m) (hfound m)
            · exact hfound
          · exact (ih _ hnames hacc).bind fun _ h => Dialogue.upholds_pure h
      | addTo sets score =>
          rw [Plan.evaluateFrom]
          split
          · exact ih _ hnames hacc
          · refine (asksOnly_puts_addToEach ?_ sets).upholds.bind fun _ _ => ih _ hnames hacc
            -- scores are set anew, events stay
            intro m hm
            obtain ⟨n, hn, rfl⟩ := List.mem_map.mp hm
            exact hacc n hn
      | removeFrom sets =>
          rw [Plan.evaluateFrom]
          split
          · exact ih _ hnames hacc
          · exact (asksOnly_puts_removeFromEach _ sets).upholds.bind fun _ _ => ih _ hnames hacc
      | breakIf condition =>
          rw [Plan.evaluateFrom]
          refine (asksOnly_puts_holds condition).upholds.bind fun holds _ => ?_
          split
          · exact Dialogue.upholds_pure hacc
          · exact ih _ hnames hacc

end Evaluation

/-! ## Plans -/

namespace Sets

variable {sets : Sets} {plan : Plan}

/-- Sets that hold machine words find them, and go on holding them if nothing else is put in. -/
theorem InWords.answer (h : sets.InWords) {call : SetCall} (hputs : call.Puts EventId.FitsWord) :
    call.Finds EventId.FitsWord (sets.answer call).1 ∧ (sets.answer call).2.InWords := by
  cases call with
  | rangeByScore set range =>
      rw [h.sound.answer_rangeByScore]
      exact ⟨fun m hm => h.words set.key m.id (Position.mem_of_mem_window hm), h⟩
  | rangeByRank set start stop =>
      rw [answer_rangeByRank, h.sound.members_eq]
      refine ⟨fun m hm => h.words set.key m.id (Contents.mem_of_mem_members ?_), h⟩
      exact List.mem_of_mem_drop (List.mem_of_mem_take hm)
  | scoreOf set event =>
      rw [answer_scoreOf]
      refine ⟨fun hscore => h.words set.key event ?_, h⟩
      exact Std.ExtTreeMap.mem_iff_isSome_getElem?.mpr hscore
  | add set members =>
      refine ⟨trivial, h.sound.add set.key members, fun key id hid => ?_⟩
      rw [Sets.answer, contents_add] at hid
      split at hid
      · rcases Contents.mem_upsert_iff.mp hid with hnew | hid
        · obtain ⟨m, hm, rfl⟩ := List.mem_map.mp hnew
          exact hputs m hm
        · exact h.words key id hid
      · exact h.words key id hid
  | remove set events =>
      refine ⟨trivial, h.sound.remove set.key events, fun key id hid => ?_⟩
      rw [Sets.answer, contents_remove] at hid
      split at hid
      · exact h.words key id (Contents.mem_without_iff.mp hid).2
      · exact h.words key id hid
  | isEmpty set => exact ⟨trivial, h⟩

/-- A plan that validates is evaluated by walks. -/
theorem executeWalking_of_valid (h : plan.validate = .ok ()) :
    (executeWalking plan).run
      = Except.ok <$> plan.evaluate.interpret (I := SetCall.interface) (m := StateT Sets (Except Misstep))
          fun call sets => sets.walk call := by
  rw [executeWalking, Plan.execute_eq_of_valid h]
  exact Dialogue.interpret_lift (I := SetCall.interface) (m := StateT Sets (Except Misstep)) plan.evaluate
    fun call sets => sets.walk call

/-- A plan that does not is refused before any walk. -/
theorem executeWalking_of_invalid {fault : PlanFault} (h : plan.validate = .error fault) :
    (executeWalking plan).run.run sets = .ok (.error (.invalidPlan fault), sets) := by
  rw [executeWalking, Plan.execute_eq_of_invalid h]
  rfl

/-- No plan leads to a misstep, whatever the sets are. -/
theorem executeWalking_ok (plan : Plan) (sets : Sets) :
    ∃ outcome, (executeWalking plan).run.run sets = .ok outcome := by
  cases hvalid : plan.validate with
  | error fault => exact ⟨_, executeWalking_of_invalid hvalid⟩
  | ok u =>
      obtain ⟨⟨evaluation, after⟩, hended⟩ := Dialogue.interpret_ok (I := SetCall.interface)
        (fun call sets => sets.walk call) (fun _ heffective sets => sets.walk_ok heffective)
        ((asksOnly_fits plan).mono fun _ h => h.effective) sets
      refine ⟨(.ok evaluation, after), ?_⟩
      rw [executeWalking_of_valid hvalid, StateT.run_map, hended]
      rfl

/-- If all identifiers are machine words, the walks find what the plan asks for. -/
theorem InWords.executeWalking_eq (h : sets.InWords) (hnames : ∀ id ∈ plan.names, id.FitsWord) :
    (executeWalking plan).run.run sets = .ok ((execute plan).run sets) := by
  cases hvalid : plan.validate with
  | error fault => rw [executeWalking_of_invalid hvalid, execute_of_invalid hvalid]
  | ok u =>
      have hallowed := ((asksOnly_fits plan).mono fun _ h => h.effective).upholds_and
        (upholds_finds_evaluateFrom plan.steps 0 hnames (List.forall_mem_nil _))
      have hrun := hallowed.interpret_eq (I := SetCall.interface) (fun call sets => sets.walk call)
        (fun call sets => sets.answer call)
        (fun _ ⟨heffective, hputs⟩ _ h => ⟨h.walk_eq heffective, h.answer hputs⟩) h
      rw [executeWalking_of_valid hvalid, StateT.run_map, execute_of_valid hvalid]
      exact congrArg (Except.map _) hrun

end Sets

/-- A store in memory holds machine words if the plans that it has executed name nothing else. -/
theorem Memory.inWords_afterPlans {history : List Plan} (h : ∀ plan ∈ history, ∀ id ∈ plan.names, id.FitsWord) :
    (Memory.afterPlans history).sets.InWords := by
  refine List.foldlRecOn history _ (motive := fun memory : Memory => memory.sets.InWords) ?_ ?_
  · exact ⟨Sets.sound_fresh, fun key id hid => absurd hid (by simp)⟩
  · intro memory hmemory plan hplan
    exact ⟨Memory.sound_execute hmemory.sound plan,
      Memory.held_execute hmemory.sound (h plan hplan) hmemory.words⟩

/-- **Executing a plan leads to no misstep**, whatever its ranges and ranks are, and whatever the sets are. The reads
    then come to what they are meant to be, in every state that plans can reach, as long as all that the plans name
    are machine words. -/
theorem executes_without_misstep (plan : Plan) :
    (∀ sets : Sets, ∃ outcome, (Sets.executeWalking plan).run.run sets = .ok outcome)
      ∧ ∀ history : List Plan, (∀ p ∈ history ++ [plan], ∀ id ∈ p.names, id.FitsWord) →
          let sets := (Memory.afterPlans history).sets
          (Sets.executeWalking plan).run.run sets = .ok ((Sets.execute plan).run sets) := by
  refine ⟨Sets.executeWalking_ok plan, fun history h => ?_⟩
  rw [List.forall_mem_append] at h
  obtain ⟨hhistory, hplan⟩ := h
  exact (Memory.inWords_afterPlans hhistory).executeWalking_eq (hplan plan (List.mem_singleton_self plan))

/-- The least and the greatest identifier with the least and the greatest score: bounds that exclude or include them,
    a lower bound taken from what is selected, and ranks that end before they start. -/
theorem executes_without_misstep_extremes :
    let set : EventSet := ⟨"b", .available, "q", none⟩
    let least : EventId := ⟨Text.minWord⟩
    let greatest : EventId := ⟨Text.maxWord⟩
    let history : List Plan := [⟨"b", .ofMicros 0, [.pick (.events [least, greatest]), .addTo [set] none]⟩]
    let between (lower upper : Bound) : Step := .select ⟨.scoreRange set { lower, upper }, true, none⟩
    let plan : Plan := ⟨"b", .ofMicros 0,
      [between (.excluded Text.maxWord) (.excluded Text.maxWord),
        between (.excluded Text.minWord) (.included Text.minWord),
        .select ⟨.rank set 1 0, true, none⟩,
        between (.included Text.minWord) (.excluded Text.maxWord),
        .select ⟨.scoreRange set { ScoreRange.afterInput with upper := .included Text.maxWord }, true, none⟩]⟩
    (∀ p ∈ history ++ [plan], ∀ id ∈ p.names, id.FitsWord)
      ∧ ((Sets.executeWalking plan).run.run (Memory.afterPlans history).sets).map
          (fun outcome => outcome.1.map Evaluation.events) = .ok (.ok [least, greatest]) := by
  intro set least greatest history between plan
  have hnames : ∀ p ∈ history ++ [plan], ∀ id ∈ p.names, id.FitsWord := by decide
  have hevents : ((Sets.execute plan).run (Memory.afterPlans history).sets).1.map Evaluation.events
      = .ok [least, greatest] := by decide +kernel
  refine ⟨hnames, ?_⟩
  rw [(executes_without_misstep plan).2 history hnames, Except.map, hevents]

end GroupQueue
