import GroupQueue.Proofs.Plan.Reference
import GroupQueue.Proofs.Queue.GroupContents
import GroupQueue.Queue.Plans

/-!
# `Proofs.Queue.Dequeue` — the plan that takes the next event

The plan of a dequeue drops what has expired, and then tries three ways to choose an event, each followed
by the same steps, which record a chosen event and break off. Each part is read over plain maps here, from
the last one back to the first, so that what a part does without a choice is known already.

## Contents
- `Position.run_dropExpired`, `Position.run_takeSteps`, `Position.reads_oldest` and its siblings — what
  single steps select and leave.
- `Queue.firstSteps`, `Queue.nextSteps`, `Queue.chooseSteps` — the parts of the plan.
- `Dequeued` — where a part ends; `dequeued_first`, `dequeued_next`, `dequeued_choose`.
- `reference_getPlan` — the whole plan takes the event that is next in turn.
-/

namespace GroupQueue

/-! ## Windows that a dequeue opens -/

namespace Contents

theorem window_live (held : Contents) (now : Instant) (limit : Nat) :
    window (live held now) (fun score => decide (now.score < score)) false (some limit)
      = (members (live held now)).take limit := by
  rw [window, ← live, live_live]
  rfl

end Contents

namespace Position

variable {p : Position}

theorem admits_above (p : Position) (low : Int) (n : Nat) :
    p.admits ((ScoreRange.above low).limitTo n) = fun score => decide (low < score) := by
  funext score
  simp [admits, ScoreRange.above, ScoreRange.limitTo, Bound.isBelow, Bound.isAbove]

theorem admits_atMost (p : Position) (high : Int) :
    p.admits (ScoreRange.all.atMost high) = fun score => decide (score ≤ high) := by
  funext score
  simp [admits, ScoreRange.all, ScoreRange.atMost, Bound.isBelow, Bound.isAbove]

/-- Dropping the expired events of some sets leaves the live ones there, and all other sets alone. -/
theorem run_dropExpired (p : Position) (now : Instant) (sets : List EventSet) (rest : List Step) :
    ∃ p' : Position, p.run ((sets.flatMap fun set => dropExpired set now) ++ rest) = p'.run rest
      ∧ ∀ key, p'.ledger.contents key
        = if key ∈ sets.map EventSet.key then (p.ledger.contents key).live now
          else p.ledger.contents key := by
  induction sets generalizing p with
  | nil => exact ⟨p, rfl, fun key => by simp⟩
  | cons set sets ih =>
      let picked : Position := ⟨p.ledger, p.reads (.scoreRange set (ScoreRange.all.atMost now.score))⟩
      obtain ⟨p', hrun, hview⟩ := ih (picked.removeFrom [set])
      refine ⟨p', hrun, fun key => ?_⟩
      have hdrop : (picked.removeFrom [set]).ledger.contents key
          = if set.key = key then (p.ledger.contents key).live now else p.ledger.contents key := by
        rw [contents_removeFrom]
        split
        · next hkey =>
          have hread : picked.acc = Contents.members ((p.ledger.contents key).filter
              fun _ score => decide (score ≤ now.score)) := by
            simp only [picked, reads, admits_atMost, hkey]
            rfl
          rw [hread, Contents.without_members_filter]
          refine congrArg (Std.ExtTreeMap.filter · _) (funext fun _ => funext fun score => ?_)
          rw [← decide_not]
          exact decide_eq_decide.mpr Int.not_le
        · rfl
      rw [hview, hdrop]
      by_cases hkey : set.key = key
      · simp [hkey, Contents.live_live]
      · simp [hkey, Ne.symm hkey]

/-! ## Taking -/

/-- Record the selected events as taken. -/
def recorded (p : Position) (sets : GroupSets) : Option Instant → Position
  | some deadline =>
    (p.addTo [sets.inProgressById] none).addTo [sets.inProgressByAck] (some deadline.score)
  | none => p.addTo [sets.done] none

@[simp] theorem acc_recorded (p : Position) (sets : GroupSets) (deadline : Option Instant) :
    (p.recorded sets deadline).acc = p.acc := by
  cases deadline <;> rfl

/-- The taking steps record what is selected and end the plan, or else do nothing. -/
theorem run_takeSteps (p : Position) (sets : GroupSets) (deadline : Option Instant)
    (rest : List Step) :
    p.run (Queue.takeSteps sets deadline ++ rest)
      = if p.acc.isEmpty then p.run rest else p.recorded sets deadline := by
  by_cases hacc : p.acc.isEmpty = true
  · rw [if_pos hacc]
    cases deadline with
    | some deadline =>
        simp only [Queue.takeSteps, List.cons_append, run_addTo, run_breakIf,
          addTo_of_isEmpty hacc, satisfies, hacc]
        rfl
    | none =>
        simp only [Queue.takeSteps, List.cons_append, run_addTo, run_breakIf,
          addTo_of_isEmpty hacc, satisfies, hacc]
        rfl
  · rw [if_neg hacc]
    cases deadline with
    | some deadline =>
        simp only [Queue.takeSteps, List.cons_append, run_addTo, run_breakIf, satisfies, acc_addTo,
          hacc]
        rfl
    | none =>
        simp only [Queue.takeSteps, List.cons_append, run_addTo, run_breakIf, satisfies, acc_addTo,
          hacc]
        rfl

/-- Recording one event does to the sets of the group what it says, and nothing to any other set. -/
theorem of_recorded {sets : GroupSets} (hkeys : sets.keys.Nodup) (deadline : Option Instant) {m : Member}
    (hacc : p.acc = [m]) :
    GroupContents.of (p.recorded sets deadline).ledger.contents sets
        = (GroupContents.of p.ledger.contents sets).record deadline m.id
      ∧ ∀ key ∉ sets.keys, (p.recorded sets deadline).ledger.contents key = p.ledger.contents key := by
  simp only [GroupSets.keys, List.nodup_cons, List.mem_cons, not_or] at hkeys
  cases deadline with
  | some deadline =>
      refine ⟨?_, fun key hkey => ?_⟩
      · simp [GroupContents.of, GroupContents.record, recorded, contents_addTo, hacc, hkeys,
          Contents.upsert, eq_comm]
      · simp only [GroupSets.keys, List.mem_cons, not_or] at hkey
        simp [recorded, contents_addTo, hkey, eq_comm]
  | none =>
      refine ⟨?_, fun key hkey => ?_⟩
      · simp [GroupContents.of, GroupContents.record, recorded, contents_addTo, hacc, hkeys,
          Contents.upsert, eq_comm]
      · simp only [GroupSets.keys, List.mem_cons, not_or] at hkey
        simp [recorded, contents_addTo, hkey, eq_comm]

/-! ## Choosing -/

/-- The oldest live event of a set whose events are live. -/
theorem reads_oldest (p : Position) {set : EventSet} {now : Instant}
    (hlive : (p.ledger.contents set.key).live now = p.ledger.contents set.key) :
    p.reads (.scoreRange set ((ScoreRange.above now.score).limitTo 1))
      = (Contents.members (p.ledger.contents set.key)).head?.toList := by
  rw [reads, admits_above, ← List.take_one, ← hlive]
  exact Contents.window_live _ _ _

/-- The newest live event of a set whose events are live. -/
theorem reads_newest (p : Position) {set : EventSet} {now : Instant}
    (hlive : (p.ledger.contents set.key).live now = p.ledger.contents set.key) :
    p.reads (.scoreRange set ((ScoreRange.above now.score).limitTo 1).reversed)
      = (Contents.members (p.ledger.contents set.key)).getLast?.toList := by
  have hadmits : p.admits ((ScoreRange.above now.score).limitTo 1).reversed
      = fun score => decide (now.score < score) := p.admits_above now.score 1
  rw [reads, hadmits, ← List.head?_reverse, ← List.take_one]
  conv_rhs => rw [← hlive]
  rfl

/-- The smallest of at most two selected events is the lesser of the two, and a set without events does
    not count. An event that is selected from both sets counts once, with the score it has in both. -/
theorem lowest_extend {a b : Option Member} (ha : ∀ m ∈ a, m.score = m.id.score)
    (hb : ∀ m ∈ b, m.score = m.id.score) :
    ((extend a.toList b.toList).map Member.score).min?
      = Option.merge min (a.map Member.score) (b.map Member.score) := by
  cases a with
  | none => cases b <;> rfl
  | some x =>
      cases b with
      | none => rfl
      | some y =>
          by_cases hid : y.id = x.id
          · have hscore : y.score = x.score := by rw [hb y rfl, ha x rfl, hid]
            simp [extend, hid, hscore]
          · simp [extend, hid]

/-- The first event beyond the smallest selected score. -/
theorem reads_afterInput (p : Position) (set : EventSet) :
    p.reads (.scoreRange set (ScoreRange.afterInput.limitTo 1))
      = match (p.acc.map Member.score).min? with
        | some least => (Contents.members ((p.ledger.contents set.key).above least)).head?.toList
        | none => [] := by
  cases hleast : (p.acc.map Member.score).min? with
  | none =>
      show _ = []
      rw [reads]
      refine Contents.window_eq_nil fun score => ?_
      simp [admits, ScoreRange.afterInput, ScoreRange.limitTo, hleast]
  | some least =>
      have hadmits : p.admits (ScoreRange.afterInput.limitTo 1) = fun score => decide (least < score) := by
        funext score
        simp [admits, ScoreRange.afterInput, ScoreRange.limitTo, hleast, Bound.isAbove]
      dsimp only
      rw [reads, hadmits, ← List.take_one]
      rfl

theorem reads_first (p : Position) (set : EventSet) :
    p.reads (Selection.first set) = (Contents.members (p.ledger.contents set.key)).head?.toList := by
  rw [Selection.first, reads, Contents.slice, ← List.take_one]
  rfl

end Position

/-! ## The parts of the plan -/

namespace Queue

/-- The last resort of a dequeue: the first available event, for a group without history. -/
def firstSteps (sets : GroupSets) (deadline : Option Instant) : List Step :=
  .select ⟨.first sets.available, false,
    some (.all [.ifEmpty sets.done, .ifEmpty sets.inProgressById])⟩ :: takeSteps sets deadline

/-- The part of a dequeue after nothing is to be handed out again. -/
def nextSteps (sets : GroupSets) (now : Instant) (deadline : Option Instant) : List Step :=
  let newestLive := ((ScoreRange.above now.score).limitTo 1).reversed
  .pick (.scoreRange sets.inProgressById newestLive)
    :: .select ⟨.scoreRange sets.done newestLive, true, none⟩
    :: .pick (.scoreRange sets.available (ScoreRange.afterInput.limitTo 1))
    :: (takeSteps sets deadline ++ firstSteps sets deadline)

/-- The part of a dequeue after the expired events have left. -/
def chooseSteps (sets : GroupSets) (now : Instant) (deadline : Option Instant) : List Step :=
  .pick (.scoreRange sets.redo ((ScoreRange.above now.score).limitTo 1))
    :: .removeFrom [sets.redo]
    :: (takeSteps sets deadline ++ nextSteps sets now deadline)

theorem steps_getPlan (q : Queue) (now : Instant) (cmd : GetCommand) :
    let sets := q.groupSets cmd.queue cmd.group
    (q.getPlan now cmd).steps
      = ([sets.available, sets.redo, sets.done, sets.inProgressById].flatMap
          fun set => dropExpired set now) ++ chooseSteps sets now cmd.deadline := by
  simp only [getPlan, chooseSteps, nextSteps, firstSteps, List.append_assoc, List.cons_append,
    List.nil_append]

end Queue

/-! ## The whole plan -/

/-- **Where a dequeue ends.** The event chosen from `g` is what is selected, and the sets of the group
    have it taken; all other sets are as they were. -/
structure Dequeued (sets : GroupSets) (deadline : Option Instant) (l : Ledger)
    (chosen : Option EventId) (final : Position) : Prop where
  selected : final.acc.map Member.id = chosen.toList
  contents : GroupContents.of final.ledger.contents sets
    = chosen.elim (GroupContents.of l.contents sets) ((GroupContents.of l.contents sets).take deadline)
  frame : ∀ key ∉ sets.keys, final.ledger.contents key = l.contents key

section Choice

variable {l : Ledger} {sets : GroupSets} {deadline : Option Instant}

/-- Taking the event that is selected, if there is one, and going on otherwise. -/
theorem dequeued_takeSteps (hkeys : sets.keys.Nodup)
    (hredo : l.contents sets.redo.key = ∅) (chosen : Option Member) {fallback : Option EventId}
    {rest : List Step} (hrest : Dequeued sets deadline l fallback (Position.run ⟨l, []⟩ rest)) :
    Dequeued sets deadline l ((chosen.map Member.id).or fallback)
      (Position.run ⟨l, chosen.toList⟩ (Queue.takeSteps sets deadline ++ rest)) := by
  rw [Position.run_takeSteps]
  cases chosen with
  | none => exact hrest
  | some m =>
      obtain ⟨hof, hframe⟩ := Position.of_recorded (p := ⟨l, [m]⟩) hkeys deadline rfl
      refine ⟨by rw [if_neg (by simp), Position.acc_recorded]; rfl, ?_, ?_⟩
      · rw [if_neg (by simp)]
        refine hof.trans ?_
        -- the sets have nothing to be handed out again, so nothing is taken out there
        have herase : (GroupContents.of l.contents sets).redo.erase m.id
            = (GroupContents.of l.contents sets).redo := by
          show (l.contents sets.redo.key).erase m.id = l.contents sets.redo.key
          rw [hredo, Std.ExtTreeMap.erase_empty]
        simp [GroupContents.take, herase]
      · rw [if_neg (by simp)]
        exact hframe

/-- Without a choice the plan ends where it is. -/
theorem dequeued_none (l : Ledger) : Dequeued sets deadline l none ⟨l, []⟩ :=
  ⟨rfl, rfl, fun _ _ => rfl⟩

/-- The last resort: the first available event, for a group without history. -/
theorem dequeued_first (hkeys : sets.keys.Nodup) (l : Ledger) (hredo : l.contents sets.redo.key = ∅)
    (deadline : Option Instant) :
    Dequeued sets deadline l
      (if (l.contents sets.done.key).isEmpty && (l.contents sets.inProgressById.key).isEmpty then
        (l.contents sets.available.key).first? else none)
      (Position.run ⟨l, []⟩ (Queue.firstSteps sets deadline)) := by
  rw [Queue.firstSteps, Position.run_select, Position.take,
    ← List.append_nil (Queue.takeSteps sets deadline)]
  simp only [Option.all_some, Position.satisfies, Position.satisfiesAll, Bool.and_true]
  split
  · rw [if_neg Bool.false_ne_true, Position.reads_first]
    have hchosen : (l.contents sets.available.key).first?
        = (((Contents.members (l.contents sets.available.key)).head?).map Member.id).or none :=
      Option.or_none.symm
    rw [hchosen]
    exact dequeued_takeSteps hkeys hredo _ (dequeued_none l)
  · exact dequeued_takeSteps hkeys hredo none (dequeued_none l)

/-- The available event after the cursor, or else the last resort. -/
theorem dequeued_next (hkeys : sets.keys.Nodup) (l : Ledger) {now : Instant}
    (hlive : (GroupContents.of l.contents sets).dropExpired now = GroupContents.of l.contents sets)
    (hprogress : (l.contents sets.inProgressById.key).Natural)
    (hdone : (l.contents sets.done.key).Natural) (hredo : l.contents sets.redo.key = ∅) :
    Dequeued sets deadline l (GroupContents.of l.contents sets).next?
      (Position.run ⟨l, []⟩ (Queue.nextSteps sets now deadline)) := by
  let newestLive := ((ScoreRange.above now.score).limitTo 1).reversed
  have hliveProgress : (l.contents sets.inProgressById.key).live now
      = l.contents sets.inProgressById.key := congrArg GroupContents.inProgressById hlive
  have hliveDone : (l.contents sets.done.key).live now = l.contents sets.done.key :=
    congrArg GroupContents.done hlive
  -- the selection after both picks, and its smallest score
  let a := (Contents.members (l.contents sets.inProgressById.key)).getLast?
  let b := (Contents.members (l.contents sets.done.key)).getLast?
  have hpicked : ∀ rest, Position.run ⟨l, []⟩ (.pick (.scoreRange sets.inProgressById newestLive)
      :: .select ⟨.scoreRange sets.done newestLive, true, none⟩ :: rest)
      = Position.run ⟨l, Position.extend a.toList b.toList⟩ rest := by
    intro rest
    rw [Step.pick, Position.run_select, Position.run_select, Position.take, Position.take]
    simp only [Option.all_none, if_true, if_neg Bool.false_ne_true]
    rw [Position.reads_newest _ hliveProgress, Position.reads_newest _ hliveDone]
  have hcursor : ((Position.extend a.toList b.toList).map Member.score).min?
      = (GroupContents.of l.contents sets).cursor? := by
    have ha : ∀ m ∈ a, m.score = m.id.score := fun m hm =>
      hprogress.score_eq (List.mem_of_mem_getLast? hm)
    have hb : ∀ m ∈ b, m.score = m.id.score := fun m hm =>
      hdone.score_eq (List.mem_of_mem_getLast? hm)
    rw [Position.lowest_extend ha hb, GroupContents.cursor?]
    have hscores {o : Option Member} (ho : ∀ m ∈ o, m.score = m.id.score) :
        o.map Member.score = (o.map Member.id).map EventId.score := by
      rw [Option.map_map]
      exact Option.map_congr ho
    rw [hscores ha, hscores hb]
    rfl
  have hnoredo : (GroupContents.of l.contents sets).redo.first? = none :=
    Contents.first?_eq_none_iff.mpr hredo
  rw [Queue.nextSteps, hpicked, Step.pick, Position.run_select, Position.take]
  simp only [Option.all_none, if_true, if_neg Bool.false_ne_true]
  rw [Position.reads_afterInput, hcursor]
  have hfirst := dequeued_first hkeys l hredo deadline
  rw [GroupContents.next?, hnoredo]
  have hhistory : ((l.contents sets.done.key).isEmpty && (l.contents sets.inProgressById.key).isEmpty)
      = true ↔ (GroupContents.of l.contents sets).cursor? = none := by
    rw [GroupContents.cursor?_eq_none_iff, Bool.and_eq_true, Std.ExtTreeMap.isEmpty_iff,
      Std.ExtTreeMap.isEmpty_iff]
    exact and_comm
  cases hc : (GroupContents.of l.contents sets).cursor? with
  | some cursor =>
      rw [if_neg (by rw [hhistory, hc]; simp)] at hfirst
      have hsome := dequeued_takeSteps hkeys hredo
        (Contents.members ((l.contents sets.available.key).above cursor)).head? hfirst
      rw [Option.or_none] at hsome
      exact hsome
  | none =>
      rw [if_pos (hhistory.mpr hc)] at hfirst
      exact dequeued_takeSteps hkeys hredo none hfirst

/-- The oldest event to be handed out again, or else what comes next. -/
theorem dequeued_choose (hkeys : sets.keys.Nodup) (p : Position) (deadline : Option Instant)
    {now : Instant}
    (hlive : (GroupContents.of p.ledger.contents sets).dropExpired now
      = GroupContents.of p.ledger.contents sets)
    (hprogress : (p.ledger.contents sets.inProgressById.key).Natural)
    (hdone : (p.ledger.contents sets.done.key).Natural) :
    Dequeued sets deadline p.ledger (GroupContents.of p.ledger.contents sets).next?
      (p.run (Queue.chooseSteps sets now deadline)) := by
  have hliveRedo : (p.ledger.contents sets.redo.key).live now = p.ledger.contents sets.redo.key :=
    congrArg GroupContents.redo hlive
  rw [Queue.chooseSteps, Step.pick, Position.run_select, Position.take, Position.run_removeFrom]
  simp only [Option.all_none, if_true, if_neg Bool.false_ne_true]
  rw [Position.reads_oldest p hliveRedo]
  have hfirst : (GroupContents.of p.ledger.contents sets).redo.first?
      = (Contents.members (p.ledger.contents sets.redo.key)).head?.map Member.id := rfl
  cases hm : (Contents.members (p.ledger.contents sets.redo.key)).head? with
  | none =>
      have hredo : p.ledger.contents sets.redo.key = ∅ :=
        Contents.members_eq_nil_iff.mp (List.head?_eq_none_iff.mp hm)
      rw [Position.removeFrom_of_isEmpty rfl]
      exact dequeued_takeSteps hkeys hredo none
        (dequeued_next hkeys p.ledger hlive hprogress hdone hredo)
  | some m =>
      let taken : Position := Position.removeFrom ⟨p.ledger, [m]⟩ [sets.redo]
      have hnext : (GroupContents.of p.ledger.contents sets).next? = some m.id := by
        rw [GroupContents.next?, hfirst, hm]
        rfl
      have hof : GroupContents.of taken.ledger.contents sets
          = { GroupContents.of p.ledger.contents sets with
              redo := (p.ledger.contents sets.redo.key).erase m.id } := by
        simp only [GroupSets.keys, List.nodup_cons, List.mem_cons, not_or] at hkeys
        simp [GroupContents.of, taken, Position.contents_removeFrom, hkeys, Contents.without, eq_comm]
      have hframe : ∀ key ∉ sets.keys, taken.ledger.contents key = p.ledger.contents key := by
        intro key hkey
        simp only [GroupSets.keys, List.mem_cons, not_or] at hkey
        simp [taken, Position.contents_removeFrom, hkey, eq_comm]
      obtain ⟨hrecorded, hrest⟩ := Position.of_recorded (p := taken) hkeys deadline rfl
      rw [Option.toList_some, Position.run_takeSteps, if_neg (by simp), hnext]
      exact ⟨by rw [Position.acc_recorded]; rfl, hrecorded.trans (by rw [hof]; rfl),
        fun key hkey => (hrest key hkey).trans (hframe key hkey)⟩

end Choice

/-- **A dequeue, on plain maps.** -/
theorem reference_getPlan (q : Queue) (now : Instant) {cmd : GetCommand} (hqueue : ColonFree cmd.queue)
    (hgroup : ColonFree cmd.group) (l : Ledger)
    (hprogress : (l.contents (q.groupSets cmd.queue cmd.group).inProgressById.key).Natural)
    (hdone : (l.contents (q.groupSets cmd.queue cmd.group).done.key).Natural) :
    let sets := q.groupSets cmd.queue cmd.group
    let before := GroupContents.of l.contents sets
    let final := (q.getPlan now cmd).reference l
    final.acc.map Member.id = (before.dropExpired now).next?.toList
      ∧ GroupContents.of final.ledger.contents sets = before.dequeue now cmd.deadline
      ∧ ∀ key ∉ sets.keys, final.ledger.contents key = l.contents key := by
  intro sets before final
  have hkeys : sets.keys.Nodup := q.nodup_keys hqueue hgroup
  -- what the four purges leave
  obtain ⟨p', hdrop, hview⟩ := Position.run_dropExpired ⟨l, []⟩ now
    [sets.available, sets.redo, sets.done, sets.inProgressById]
    (Queue.chooseSteps sets now cmd.deadline)
  have hfinal : final = p'.run (Queue.chooseSteps sets now cmd.deadline) := by
    rw [← hdrop, ← Queue.steps_getPlan]
    rfl
  have hof : GroupContents.of p'.ledger.contents sets = before.dropExpired now := by
    simp only [GroupSets.keys, List.nodup_cons, List.mem_cons, not_or] at hkeys
    simp [GroupContents.of, GroupContents.dropExpired, before, hview, hkeys, eq_comm]
  have hframe : ∀ key ∉ sets.keys, p'.ledger.contents key = l.contents key := by
    intro key hkey
    simp only [GroupSets.keys, List.mem_cons, not_or] at hkey
    simp [hview, hkey]
  have hlive : (GroupContents.of p'.ledger.contents sets).dropExpired now
      = GroupContents.of p'.ledger.contents sets := by
    rw [hof, GroupContents.dropExpired_dropExpired]
  have hprogress' : (p'.ledger.contents sets.inProgressById.key).Natural := by
    rw [show p'.ledger.contents sets.inProgressById.key = _ from
      congrArg GroupContents.inProgressById hof]
    exact hprogress.live now
  have hdone' : (p'.ledger.contents sets.done.key).Natural := by
    rw [show p'.ledger.contents sets.done.key = _ from congrArg GroupContents.done hof]
    exact hdone.live now
  have hchoose := dequeued_choose hkeys p' cmd.deadline hlive hprogress' hdone'
  rw [← hfinal, hof] at hchoose
  refine ⟨hchoose.selected, hchoose.contents.trans ?_, fun key hkey => ?_⟩
  · rw [hof, GroupContents.dequeue]
    cases (before.dropExpired now).next? <;> rfl
  · rw [hchoose.frame key hkey, hframe key hkey]

end GroupQueue
