import GroupQueue.Proofs.Plan.Refinement
import GroupQueue.Proofs.Store.Natural

/-!
# `Proofs.Plan.Footprint` — what a plan can change, and where its events come from

A plan changes only the sets that its writing steps name, under whichever other names they may be known.
And it puts no event anywhere that was not in some set before, except for those that it names itself: what
it selects, it has read. So the events in some sets, among which are all that the plan draws from, are still
the same sort of events afterwards.

## Contents
- `Step.writes`, `Plan.writes` — the sets that are changed; `Step.draws`, `Plan.draws` — those that events
  are selected from; `Step.names`, `Plan.names` — the events that are selected by name.
- `Position.contents_run` — what no step writes to stays as it is.
- `HeldIn`, `AllHeld`, `Position.heldIn_run` — where the events come from.
- `Memory.contents_execute`, `Memory.heldIn_execute`, `Memory.held_execute` — the same for a plan executed in
  memory.
-/

namespace GroupQueue

/-- The sets that a step changes. -/
def Step.writes : Step → List EventSet
  | .addTo sets _ | .removeFrom sets => sets
  | .select _ | .breakIf _ => []

/-- The sets that a step selects events from. -/
def Step.draws : Step → List EventSet
  | .select choice => choice.selection.set?.toList
  | _ => []

/-- The events that a step selects by name, whether or not any set holds them. -/
def Step.names : Step → List EventId
  | .select choice =>
    match choice.selection with
    | .events ids => ids
    | _ => []
  | _ => []

/-- The sets that a plan changes. -/
def Plan.writes (plan : Plan) : List EventSet := plan.steps.flatMap Step.writes

/-- The sets that a plan selects events from. -/
def Plan.draws (plan : Plan) : List EventSet := plan.steps.flatMap Step.draws

/-- The events that a plan selects by name. -/
def Plan.names (plan : Plan) : List EventId := plan.steps.flatMap Step.names

/-! ## What stays as it is -/

namespace Position

variable {p : Position} {key : String}

theorem contents_addTo_of_ne {sets : List EventSet} (h : ∀ set ∈ sets, set.key ≠ key)
    (score : Option Int) : (p.addTo sets score).ledger.contents key = p.ledger.contents key := by
  obtain ⟨l, acc⟩ := p
  induction sets generalizing l with
  | nil => rfl
  | cons set sets ih =>
      obtain ⟨hset, hsets⟩ := List.forall_mem_cons.mp h
      refine (ih hsets (Ledger.put l set.key _)).trans ?_
      rw [Ledger.contents_put, if_neg hset]

theorem contents_removeFrom_of_ne {sets : List EventSet} (h : ∀ set ∈ sets, set.key ≠ key) :
    (p.removeFrom sets).ledger.contents key = p.ledger.contents key := by
  obtain ⟨l, acc⟩ := p
  induction sets generalizing l with
  | nil => rfl
  | cons set sets ih =>
      obtain ⟨hset, hsets⟩ := List.forall_mem_cons.mp h
      refine (ih hsets (Ledger.drop l set.key _)).trans ?_
      rw [Ledger.contents_drop, if_neg hset]

/-- Selecting changes no set. -/
theorem ledger_take (p : Position) (choice : Select) : (p.take choice).ledger = p.ledger := by
  unfold take
  split <;> rfl

/-- **What no step writes to stays as it is**, by induction on the steps. -/
theorem contents_run {steps : List Step} (h : ∀ set ∈ steps.flatMap Step.writes, set.key ≠ key) :
    (p.run steps).ledger.contents key = p.ledger.contents key := by
  induction steps generalizing p with
  | nil => rfl
  | cons step rest ih =>
      rw [List.flatMap_cons, List.forall_mem_append] at h
      obtain ⟨hstep, hrest⟩ := h
      cases step with
      | select choice => rw [run_select, ih hrest, ledger_take]
      | addTo sets score => exact (ih hrest).trans (contents_addTo_of_ne hstep score)
      | removeFrom sets => exact (ih hrest).trans (contents_removeFrom_of_ne hstep)
      | breakIf condition =>
          rw [run_breakIf]
          split
          · rfl
          · exact ih hrest

end Position

/-! ## Where events come from -/

/-- Every event in a set under one of some keys has a property. -/
def HeldIn (region : String → Prop) (P : EventId → Prop) (view : String → Contents) : Prop :=
  ∀ key, region key → ∀ id ∈ view key, P id

/-- Every event in some set has a property. -/
def AllHeld (P : EventId → Prop) (view : String → Contents) : Prop := ∀ key, ∀ id ∈ view key, P id

theorem allHeld_iff {P : EventId → Prop} {view : String → Contents} :
    AllHeld P view ↔ HeldIn (fun _ => True) P view :=
  ⟨fun h key _ => h key, fun h key => h key trivial⟩

namespace Position

variable {p : Position} {region : String → Prop} {P : EventId → Prop}

theorem heldIn_addTo (h : HeldIn region P p.ledger.contents) (hacc : ∀ m ∈ p.acc, P m.id)
    (sets : List EventSet) (score : Option Int) :
    HeldIn region P (p.addTo sets score).ledger.contents := by
  obtain ⟨l, acc⟩ := p
  induction sets generalizing l with
  | nil => exact h
  | cons set sets ih =>
      refine ih (Ledger.put l set.key _) (fun key hkey id hid => ?_) hacc
      rw [Ledger.contents_put] at hid
      split at hid
      · rcases Contents.mem_upsert_iff.mp hid with hnew | hid
        · rw [List.map_map] at hnew
          obtain ⟨m, hm, rfl⟩ := List.mem_map.mp hnew
          exact hacc m hm
        · exact h key hkey id hid
      · exact h key hkey id hid

theorem heldIn_removeFrom (h : HeldIn region P p.ledger.contents) (sets : List EventSet) :
    HeldIn region P (p.removeFrom sets).ledger.contents := by
  obtain ⟨l, acc⟩ := p
  induction sets generalizing l with
  | nil => exact h
  | cons set sets ih =>
      refine ih (Ledger.drop l set.key _) fun key hkey id hid => ?_
      rw [Ledger.contents_drop] at hid
      split at hid
      · exact h key hkey id (Contents.mem_without_iff.mp hid).2
      · exact h key hkey id hid

theorem mem_of_mem_window {held : Contents} {admits : Int → Bool} {descending : Bool}
    {limit : Option Nat} {m : Member} (h : m ∈ Contents.window held admits descending limit) :
    m.id ∈ held := by
  have hfound (hm : m ∈ Contents.members (held.filter fun _ score => admits score)) : m.id ∈ held :=
    Std.ExtTreeMap.mem_of_mem_filter (Contents.mem_of_mem_members hm)
  have hdirected : m ∈ (if descending then
      (Contents.members (held.filter fun _ score => admits score)).reverse
      else Contents.members (held.filter fun _ score => admits score)) := by
    cases limit with
    | none => exact h
    | some n => exact List.mem_of_mem_take h
  split at hdirected
  · exact hfound (List.mem_reverse.mp hdirected)
  · exact hfound hdirected

/-- What is selected is named by the selection, or has been read from a set. -/
theorem heldIn_reads (h : HeldIn region P p.ledger.contents) {selection : Selection}
    (hdraws : ∀ set ∈ Step.draws (.pick selection), region set.key)
    (hnames : ∀ id ∈ Step.names (.pick selection), P id) : ∀ m ∈ p.reads selection, P m.id := by
  have hread (set : EventSet) (hset : selection.set? = some set) :
      ∀ id ∈ p.ledger.contents set.key, P id :=
    h set.key (hdraws set (Option.mem_toList.mpr hset))
  intro m hm
  cases selection with
  | events ids =>
      obtain ⟨id, hid, rfl⟩ := List.mem_map.mp hm
      exact hnames id hid
  | scoreRange set range => exact hread set rfl m.id (mem_of_mem_window hm)
  | rank set start stop =>
      exact hread set rfl m.id
        (Contents.mem_of_mem_members (List.mem_of_mem_take (List.mem_of_mem_drop hm)))
  | scoreOf set event min max =>
      rw [reads] at hm
      split at hm
      · simp at hm
      · next score hscore =>
        split at hm
        · rw [List.mem_singleton.mp hm]
          exact hread set rfl event (Contents.mem_iff.mpr ⟨score, hscore⟩)
        · simp at hm

theorem mem_of_mem_extend {acc found : List Member} {m : Member} (h : m ∈ extend acc found) :
    m ∈ acc ∨ m ∈ found := by
  induction found generalizing acc with
  | nil => exact Or.inl h
  | cons x found ih =>
      rcases ih h with hm | hm
      · split at hm
        · exact Or.inl hm
        · exact (List.mem_append.mp hm).imp_right fun hx =>
            List.mem_cons.mpr (Or.inl (List.mem_singleton.mp hx))
      · exact Or.inr (List.mem_cons_of_mem x hm)

theorem heldIn_take (h : HeldIn region P p.ledger.contents) (hacc : ∀ m ∈ p.acc, P m.id)
    {choice : Select} (hdraws : ∀ set ∈ (Step.select choice).draws, region set.key)
    (hnames : ∀ id ∈ (Step.select choice).names, P id) : ∀ m ∈ (p.take choice).acc, P m.id := by
  have hreads : ∀ m ∈ p.reads choice.selection, P m.id := heldIn_reads h hdraws hnames
  unfold take
  split
  · cases choice.union with
    | true =>
        intro m hm
        rcases mem_of_mem_extend hm with hm | hm
        · exact hacc m hm
        · exact hreads m hm
    | false => exact hreads
  · exact hacc

/-- **Every event comes from a set that is drawn from, or is named by a step**, by induction on the steps. -/
theorem heldIn_run {steps : List Step} (hdraws : ∀ set ∈ steps.flatMap Step.draws, region set.key)
    (hnames : ∀ id ∈ steps.flatMap Step.names, P id) (h : HeldIn region P p.ledger.contents)
    (hacc : ∀ m ∈ p.acc, P m.id) :
    HeldIn region P (p.run steps).ledger.contents ∧ ∀ m ∈ (p.run steps).acc, P m.id := by
  induction steps generalizing p with
  | nil => exact ⟨h, hacc⟩
  | cons step rest ih =>
      rw [List.flatMap_cons, List.forall_mem_append] at hdraws hnames
      obtain ⟨hdrawn, hdraws⟩ := hdraws
      obtain ⟨hnamed, hnames⟩ := hnames
      cases step with
      | select choice =>
          rw [run_select]
          refine ih hdraws hnames ?_ (heldIn_take h hacc hdrawn hnamed)
          rwa [ledger_take]
      | addTo sets score => exact ih hdraws hnames (heldIn_addTo h hacc sets score) hacc
      | removeFrom sets => exact ih hdraws hnames (heldIn_removeFrom h sets) hacc
      | breakIf condition =>
          rw [run_breakIf]
          split
          · exact ⟨h, hacc⟩
          · exact ih hdraws hnames h hacc

end Position

/-! ## Plans executed in memory -/

namespace Memory

variable {memory : Memory} {plan : Plan}

/-- A plan that is refused leaves no trace, and any other one is executed as it is read. -/
theorem contents_execute_cases (hsound : memory.sets.Sound) (plan : Plan) :
    (memory.execute plan).2 = memory
      ∨ ∀ key, (memory.execute plan).2.sets.contents key
          = (plan.reference memory.sets.ledger).ledger.contents key := by
  cases hvalid : plan.validate with
  | error fault => exact Or.inl (by rw [execute_of_invalid hvalid])
  | ok u =>
      obtain ⟨executed, sets, heq, -, -, hsets⟩ := execute_of_valid hsound hvalid
      rw [heq]
      exact Or.inr hsets

/-- **A plan changes only the sets that it writes to.** -/
theorem contents_execute (hsound : memory.sets.Sound) {key : String}
    (h : ∀ set ∈ plan.writes, set.key ≠ key) :
    (memory.execute plan).2.sets.contents key = memory.sets.contents key := by
  rcases contents_execute_cases hsound plan with heq | hcontents
  · rw [heq]
  · rw [hcontents, Plan.reference, Position.contents_run h, Sets.contents_ledger]

/-- **A plan that draws only from some sets brings no event into them that was in none of them before**,
    unless it names it. -/
theorem heldIn_execute (hsound : memory.sets.Sound) {region : String → Prop} {P : EventId → Prop}
    (hdraws : ∀ set ∈ plan.draws, region set.key) (hnames : ∀ id ∈ plan.names, P id)
    (h : HeldIn region P memory.sets.contents) :
    HeldIn region P (memory.execute plan).2.sets.contents := by
  rcases contents_execute_cases hsound plan with heq | hcontents
  · rwa [heq]
  · intro key hkey id hid
    rw [hcontents] at hid
    refine (Position.heldIn_run (p := ⟨memory.sets.ledger, []⟩) hdraws hnames ?_ (by simp)).1 key hkey id hid
    intro key hkey id hid
    rw [Sets.contents_ledger] at hid
    exact h key hkey id hid

/-- **A plan brings in no event that it does not name.** -/
theorem held_execute (hsound : memory.sets.Sound) {P : EventId → Prop}
    (hnames : ∀ id ∈ plan.names, P id) (h : AllHeld P memory.sets.contents) :
    AllHeld P (memory.execute plan).2.sets.contents := by
  rw [allHeld_iff] at h ⊢
  exact heldIn_execute hsound (fun _ _ => trivial) hnames h

end Memory

end GroupQueue
