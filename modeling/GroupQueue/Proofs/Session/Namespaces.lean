import GroupQueue.Proofs.Session.Foreign

/-!
# `Proofs.Session.Namespaces` — what services in different namespaces have to do with each other

Names of queues and groups have no colons, but a namespace may have any. So the key of a set tells its
queue, its role and its group, and yet not always its namespace: if one namespace is another one with the
name of a queue attached, a set that groups share in the one can have the key of a set that a group has for
its own in the other. Two sets with one key are one set to the store, and then each service works on what the
other one keeps there. Everywhere else services in different namespaces leave each other alone.

## Contents
- `Session.contents_of_other`, `contents_of_other_namespace` — what a turn leaves alone, whichever calls fail.
- `Session.contents_of_colonFree` — namespaces without colons.
- `apart_unless_overlapping` — when sets of two namespaces have one key, and that all others are apart.
- `taken_across_namespaces` — an event that is added in one namespace and handed out in another.
-/

namespace GroupQueue

/-- A namespace without a colon is no other one with something attached. -/
theorem Queue.not_overlaps_of_colonFree {q q' : Queue} {queue queue' group' : String} {role' : Role}
    (hcolon : ColonFree q.base) : ¬ q.Overlaps queue q' queue' role' group' := by
  rintro ⟨-, hbase, -⟩
  refine hcolon ?_
  rw [hbase]
  simp

namespace Session

/-- **A turn leaves alone what is no set of its service**, in every state that a run can reach. -/
theorem contents_of_other {turns : List Turn} {t : Turn} (hop : ∀ x ∈ turns, x.request.isOperation = true)
    (ht : t.request.isOperation = true) {key : String}
    (hkey : ∀ queue role group, ColonFree queue → ColonFree group →
      (t.queue.eventSet queue role group).key ≠ key) :
    (after (turns ++ [t])).memory.sets.contents key = (after turns).memory.sets.contents key := by
  refine turn_keeps_sound (I := fun memory => memory.sets.contents key = _) hop ht ?_ rfl
  exact fun call hcall memory hsound hmemory => (hcall.contents hkey hsound).trans hmemory

/-- A turn leaves alone the sets of a service in another namespace, unless they overlap. -/
theorem contents_of_other_namespace {turns : List Turn} {t : Turn} {q : Queue}
    (hop : ∀ x ∈ turns, x.request.isOperation = true) (ht : t.request.isOperation = true)
    (hbase : t.queue.base ≠ q.base) {queue group : String} {role : Role} (hqueue : ColonFree queue)
    (hgroup : ColonFree group) (hover : ∀ queue', ¬ t.queue.Overlaps queue' q queue role group)
    (hover' : role = .available → ∀ queue' role' group', ColonFree queue' →
      ¬ q.Overlaps queue t.queue queue' role' group') :
    (after (turns ++ [t])).memory.sets.contents (q.eventSet queue role group).key
      = (after turns).memory.sets.contents (q.eventSet queue role group).key := by
  refine contents_of_other hop ht fun queue' role' group' hqueue' hgroup' hkey => ?_
  rcases (key_eq_iff_of_base_ne hbase hqueue' hqueue hgroup' hgroup).mp hkey with ⟨-, h⟩ | ⟨hrole, h⟩
  · exact hover queue' h
  · exact hover' hrole queue' role' group' hqueue' h

/-- Services in namespaces without colons leave each other's sets alone. -/
theorem contents_of_colonFree {turns : List Turn} {t : Turn} {q : Queue}
    (hop : ∀ x ∈ turns, x.request.isOperation = true) (ht : t.request.isOperation = true)
    (hbase : t.queue.base ≠ q.base) (hcolon : ColonFree t.queue.base) (hcolon' : ColonFree q.base)
    {queue group : String} (role : Role) (hqueue : ColonFree queue) (hgroup : ColonFree group) :
    (after (turns ++ [t])).memory.sets.contents (q.eventSet queue role group).key
      = (after turns).memory.sets.contents (q.eventSet queue role group).key :=
  contents_of_other_namespace hop ht hbase hqueue hgroup (fun _ => Queue.not_overlaps_of_colonFree hcolon)
    fun _ _ _ _ _ => Queue.not_overlaps_of_colonFree hcolon'

end Session

/-- **Namespaces are apart unless they overlap.** A set of one service has the key of a set of a service in
    another namespace exactly if one of the two is shared and overlaps the other. In every state that a run
    can reach, whatever is requested of the one service leaves a set of the other as it is, unless the set
    is overlapped by a shared set of the first, or is itself a shared set that overlaps one of the first. -/
theorem apart_unless_overlapping {q q' : Queue} (hbase : q.base ≠ q'.base) {queue' group' : String}
    (hqueue' : checkName "queue" queue' = .ok ()) (hgroup' : checkName "group" group' = .ok ())
    (role' : Role) :
    (∀ queue role group, checkName "queue" queue = .ok () → checkName "group" group = .ok () →
      ((q.eventSet queue role group).key = (q'.eventSet queue' role' group').key
        ↔ role = .available ∧ q.Overlaps queue q' queue' role' group'
          ∨ role' = .available ∧ q'.Overlaps queue' q queue role group))
    ∧ ∀ (turns : List Turn) (t : Turn), (∀ x ∈ turns ++ [t], x.request.isOperation = true) →
      t.queue = q →
      (∀ queue, ¬ q.Overlaps queue q' queue' role' group') →
      (role' = .available → ∀ queue role group, ColonFree queue →
        ¬ q'.Overlaps queue' q queue role group) →
      (Session.after (turns ++ [t])).memory.sets.contents (q'.eventSet queue' role' group').key
        = (Session.after turns).memory.sets.contents (q'.eventSet queue' role' group').key := by
  have hq' := colonFree_of_checkName hqueue'
  have hg' := colonFree_of_checkName hgroup'
  constructor
  · intro queue role group hqueue hgroup
    exact key_eq_iff_of_base_ne hbase (colonFree_of_checkName hqueue) hq' (colonFree_of_checkName hgroup)
      hg'
  · rintro turns t hop rfl hover hover'
    rw [List.forall_mem_append, List.forall_mem_singleton] at hop
    exact Session.contents_of_other_namespace hop.1 hop.2 hbase hq' hg' hover hover'

/-- Of two namespaces, one is the other with a queue attached. A sweep of that queue finds the group's
    events to be handed out again where they were, since the group is not named like a shared set. -/
theorem apart_unless_overlapping_redo :
    let q : Queue := { base := "b:q" }
    let q' : Queue := { base := "b" }
    let turn (q : Queue) (micros : Int) (request : Request) : Turn :=
      { queue := q, now := .ofMicros micros, request }
    let add := turn q' 1000 (.add { queue := "q", expire := .ofMicros 5000, contents := "x" })
    let get := turn q' 1000 (.get { queue := "q", group := "g", deadline := some (.ofMicros 1500) })
    let turns := [add, get, turn q' 2000 (.sweep "q" "g")]
    let t := turn q 2000 (.sweep "redo" "g")
    let key := (q'.eventSet "q" .redo "g").key
    q.base ≠ q'.base ∧ (∀ queue, ¬ q.Overlaps queue q' "q" .redo "g")
      ∧ ⟨5000⟩ ∈ (Session.after turns).memory.sets.contents key
      ∧ (Session.after (turns ++ [t])).memory.sets.contents key
        = (Session.after turns).memory.sets.contents key := by
  intro q q' turn add get turns t key
  have hbase : q.base ≠ q'.base := by decide
  have hqueue : checkName "queue" "q" = .ok () := by decide +kernel
  have hgroup : checkName "group" "g" = .ok () := by decide +kernel
  have hover : ∀ queue, ¬ q.Overlaps queue q' "q" .redo "g" := fun queue h => absurd h.2.2.2 (by decide)
  obtain ⟨-, hapart⟩ := apart_unless_overlapping hbase hqueue hgroup .redo
  exact ⟨hbase, hover, by decide +kernel, hapart turns t (by decide) rfl hover fun h => by cases h⟩

/-- **Namespaces do overlap.** An event is added to a queue in one namespace, and put into a set of a group
    in another namespace, which is handed the event next. -/
theorem taken_across_namespaces :
    let q : Queue := { base := "b:q" }
    let q' : Queue := { base := "b" }
    let turn (q : Queue) (request : Request) : Turn := { queue := q, now := .ofMicros 1000, request }
    let add := turn q (.add { queue := "redo", expire := .ofMicros 5000, contents := "x" })
    let get := turn q' (.get { queue := "q", group := "available" })
    let key := (q'.eventSet "q" .redo "available").key
    q.base ≠ q'.base
      ∧ (∀ name ∈ ["q", "redo"], checkName "queue" name = .ok ())
      ∧ checkName "group" "available" = .ok ()
      ∧ (q.eventSet "redo" .available "").key = key
      ∧ ⟨5000⟩ ∉ (Session.after []).memory.sets.contents key
      ∧ ⟨5000⟩ ∈ (Session.after [add]).memory.sets.contents key
      ∧ ((Session.after [add]).turn get).1 = .ok (.event (some (.new ⟨5000⟩ "x"))) := by
  decide +kernel

end GroupQueue
