import GroupQueue.Queue.Basic
import GroupQueue.Queue.Name

/-!
# `Proofs.Queue.Keys` — when two event sets have one key

The key of a set is a text with its parts separated by colons, and it is read from the right: the last
part of the key of a group's set is the group, the part before it the role, then the queue. Names that
are fit for keys have no colon, so those parts can be told apart whatever the namespace looks like. Only
the set that all groups share has one part fewer, and inside one namespace that never matters.

## Contents
- `ColonFree` — a text without a colon; `append_colon_inj`.
- `perGroup_of_key_eq` — sets of groups with one key are one set, across namespaces.
- `key_eventSet_eq_iff` — inside a namespace, sets with one key are one set.
- `Queue.Overlaps`, `key_eq_iff_of_base_ne` — when sets of different namespaces have one key.
- `Queue.Apart`, `base_eq_of_key_eq` — namespaces of which none extends the other never share a key.
- `key_ne_ack` — which sets never have the key of a set that is scored by deadlines.
-/

namespace GroupQueue

/-- A text without a colon. -/
def ColonFree (s : String) : Prop := ':' ∉ s.toList

instance (s : String) : Decidable (ColonFree s) := inferInstanceAs (Decidable (_ ∉ _))

theorem colonFree_of_checkName {field name : String} (h : checkName field name = .ok ()) :
    ColonFree name :=
  (checkName_eq_ok_iff.mp h).2

theorem Role.colonFree_name (role : Role) : ColonFree role.name := by
  unfold ColonFree
  cases role <;> decide

theorem Role.name_inj {role role' : Role} (h : role.name = role'.name) : role = role' := by
  have hread := role.ofName?_name
  rw [h, role'.ofName?_name] at hread
  exact (Option.some.inj hread).symm

theorem Role.isPerGroup_iff {role : Role} : role.isPerGroup = true ↔ role ≠ .available := by
  cases role <;> decide

/-- A text with a colon is cut at its last colon in one way. -/
theorem append_colon_inj {a b x y : String} (h : a ++ ":" ++ x = b ++ ":" ++ y) (hx : ColonFree x)
    (hy : ColonFree y) : a = b ∧ x = y := by
  have hchars : a.toList ++ ':' :: x.toList = b.toList ++ ':' :: y.toList := by
    simpa using congrArg String.toList h
  have hcut : a.toList = b.toList ∧ x.toList = y.toList := by
    rcases List.append_eq_append_iff.mp hchars with ⟨_ | ⟨c, gap⟩, hb, hrest⟩ | ⟨_ | ⟨c, gap⟩, ha, hrest⟩
    · exact ⟨by simpa using hb.symm, (List.cons.inj hrest).2⟩
    · -- a gap between the two cuts would put a colon into `x`
      refine absurd ?_ hx
      rw [(List.cons.inj hrest).2]
      simp
    · exact ⟨by simpa using ha, (List.cons.inj hrest).2.symm⟩
    · refine absurd ?_ hy
      rw [(List.cons.inj hrest).2]
      simp
  exact ⟨String.toList_inj.mp hcut.1, String.toList_inj.mp hcut.2⟩

/-- A text with a colon attached is another text. -/
theorem ne_append_colon (a x : String) : a ≠ a ++ ":" ++ x := by
  intro h
  have hlength := congrArg String.length h
  simp only [String.length_append] at hlength
  have hcolon : (":" : String).length = 1 := rfl
  omega

section Keys

variable {q q' : Queue} {queue queue' group group' : String} {role role' : Role}

theorem key_eventSet_of_perGroup (h : role.isPerGroup = true) :
    (q.eventSet queue role group).key
      = q.base ++ ":" ++ queue ++ ":" ++ role.name ++ ":" ++ group := by
  simp [Queue.eventSet, EventSet.key, h]

theorem key_eventSet_available :
    (q.eventSet queue .available group).key = q.base ++ ":" ++ queue ++ ":" ++ "available" := rfl

/-- The set that all groups share is the same for each of them. -/
theorem eventSet_available (q : Queue) (queue group group' : String) :
    q.eventSet queue .available group = q.eventSet queue .available group' := rfl

/-- **Sets of groups with one key are one set**, whatever their namespaces are. -/
theorem perGroup_of_key_eq (hrole : role.isPerGroup = true) (hrole' : role'.isPerGroup = true)
    (hqueue : ColonFree queue) (hqueue' : ColonFree queue') (hgroup : ColonFree group)
    (hgroup' : ColonFree group')
    (h : (q.eventSet queue role group).key = (q'.eventSet queue' role' group').key) :
    q.base = q'.base ∧ queue = queue' ∧ role = role' ∧ group = group' := by
  rw [key_eventSet_of_perGroup hrole, key_eventSet_of_perGroup hrole'] at h
  obtain ⟨hshared, hg⟩ := append_colon_inj h hgroup hgroup'
  obtain ⟨hplace, hr⟩ := append_colon_inj hshared role.colonFree_name role'.colonFree_name
  obtain ⟨hbase, hq⟩ := append_colon_inj hplace hqueue hqueue'
  exact ⟨hbase, hq, Role.name_inj hr, hg⟩

/-- When the shared set of a queue has the key of a group's set: the queue is named like the role, the group
    like the shared set, and the one namespace is the other one with the queue of the group attached. -/
theorem key_available_eq_iff (hrole' : role'.isPerGroup = true) (hqueue : ColonFree queue)
    (hgroup' : ColonFree group') :
    (q.eventSet queue .available group).key = (q'.eventSet queue' role' group').key
      ↔ q.base = q'.base ++ ":" ++ queue' ∧ queue = role'.name ∧ group' = "available" := by
  rw [key_eventSet_available, key_eventSet_of_perGroup hrole']
  constructor
  · intro h
    obtain ⟨hshared, hgroup⟩ := append_colon_inj h (Role.colonFree_name .available) hgroup'
    obtain ⟨hbase, hname⟩ := append_colon_inj hshared hqueue role'.colonFree_name
    exact ⟨hbase, hname, hgroup.symm⟩
  · rintro ⟨hbase, rfl, rfl⟩
    rw [hbase]

/-- The shared set of a queue has the key of a group's set only if their namespaces differ. -/
theorem base_ne_of_key_eq (hrole' : role'.isPerGroup = true) (hqueue : ColonFree queue)
    (hgroup' : ColonFree group')
    (h : (q.eventSet queue .available group).key = (q'.eventSet queue' role' group').key) :
    q.base ≠ q'.base := by
  obtain ⟨hbase, -, -⟩ := (key_available_eq_iff hrole' hqueue hgroup').mp h
  exact fun hsame => ne_append_colon q'.base queue' (hsame.symm.trans hbase)

/-- The set of a queue that all its groups share has the key of a set that a group has for its own in a
    shorter namespace. -/
def Queue.Overlaps (q : Queue) (queue : String) (q' : Queue) (queue' : String) (role' : Role)
    (group' : String) : Prop :=
  role' ≠ .available ∧ q.base = q'.base ++ ":" ++ queue' ∧ queue = role'.name ∧ group' = "available"

/-- **Across namespaces, two sets have one key only if one of them is shared and overlaps the other.** -/
theorem key_eq_iff_of_base_ne (hbase : q.base ≠ q'.base) (hqueue : ColonFree queue)
    (hqueue' : ColonFree queue') (hgroup : ColonFree group) (hgroup' : ColonFree group') :
    (q.eventSet queue role group).key = (q'.eventSet queue' role' group').key
      ↔ role = .available ∧ q.Overlaps queue q' queue' role' group'
        ∨ role' = .available ∧ q'.Overlaps queue' q queue role group := by
  by_cases hrole : role = .available
  · by_cases hrole' : role' = .available
    · -- two shared sets with one key are in one namespace
      simp only [Queue.Overlaps, hrole, hrole', ne_eq, not_true_eq_false, false_and, and_false, or_self,
        iff_false]
      intro h
      rw [key_eventSet_available, key_eventSet_available] at h
      obtain ⟨hplace, -⟩ := append_colon_inj h (Role.colonFree_name .available)
        (Role.colonFree_name .available)
      exact hbase (append_colon_inj hplace hqueue hqueue').1
    · rw [hrole, key_available_eq_iff (Role.isPerGroup_iff.mpr hrole') hqueue hgroup']
      simp [Queue.Overlaps, hrole']
  · by_cases hrole' : role' = .available
    · rw [hrole', eq_comm, key_available_eq_iff (Role.isPerGroup_iff.mpr hrole) hqueue' hgroup]
      simp [Queue.Overlaps, hrole]
    · simp only [hrole, hrole', false_and, or_self, iff_false]
      intro h
      exact hbase (perGroup_of_key_eq (Role.isPerGroup_iff.mpr hrole) (Role.isPerGroup_iff.mpr hrole')
        hqueue hqueue' hgroup hgroup' h).1

/-- The namespace of a service is that of another one with the name of a queue attached. -/
def Queue.Extends (q q' : Queue) : Prop := ∃ queue, ColonFree queue ∧ q.base = q'.base ++ ":" ++ queue

/-- Neither of the namespaces of two services extends the other. They may be the same. -/
def Queue.Apart (q q' : Queue) : Prop := ¬ q.Extends q' ∧ ¬ q'.Extends q

/-- Of two namespaces, one at most extends the other. -/
theorem Queue.not_extends_of_extends (h : q.Extends q') : ¬ q'.Extends q := by
  obtain ⟨queue, -, hbase⟩ := h
  rintro ⟨queue', -, hbase'⟩
  rw [hbase, String.append_assoc, String.append_assoc, String.append_assoc] at hbase'
  have hlength := congrArg String.length hbase'
  simp only [String.length_append] at hlength
  have hcolon : (":" : String).length = 1 := rfl
  omega

theorem Queue.not_extends_of_base_eq (h : q.base = q'.base) : ¬ q.Extends q' := by
  rintro ⟨queue, -, hbase⟩
  exact ne_append_colon q'.base queue (h.symm.trans hbase)

/-- Services in one namespace are apart. -/
theorem Queue.apart_of_base_eq (h : q.base = q'.base) : q.Apart q' :=
  ⟨not_extends_of_base_eq h, not_extends_of_base_eq h.symm⟩

theorem Queue.not_extends_of_colonFree (h : ColonFree q.base) : ¬ q.Extends q' := by
  rintro ⟨queue, -, hbase⟩
  refine h ?_
  rw [hbase]
  simp

/-- So are services in namespaces without colons. -/
theorem Queue.apart_of_colonFree (h : ColonFree q.base) (h' : ColonFree q'.base) : q.Apart q' :=
  ⟨not_extends_of_colonFree h, not_extends_of_colonFree h'⟩

/-- **Sets of services that are apart have one key only in one namespace.** -/
theorem base_eq_of_key_eq (hapart : q.Apart q') (hqueue : ColonFree queue) (hqueue' : ColonFree queue')
    (hgroup : ColonFree group) (hgroup' : ColonFree group')
    (h : (q.eventSet queue role group).key = (q'.eventSet queue' role' group').key) :
    q.base = q'.base := by
  by_cases hbase : q.base = q'.base
  · exact hbase
  · rcases (key_eq_iff_of_base_ne hbase hqueue hqueue' hgroup hgroup').mp h with ⟨-, hover⟩ | ⟨-, hover⟩
    · exact absurd ⟨queue', hqueue', hover.2.1⟩ hapart.1
    · exact absurd ⟨queue, hqueue, hover.2.1⟩ hapart.2

/-- **Inside a namespace, sets with one key are one set.** -/
theorem key_eventSet_eq_iff (hbase : q.base = q'.base) (hqueue : ColonFree queue)
    (hqueue' : ColonFree queue') (hgroup : role.isPerGroup = true → ColonFree group)
    (hgroup' : role'.isPerGroup = true → ColonFree group') :
    (q.eventSet queue role group).key = (q'.eventSet queue' role' group').key
      ↔ q.eventSet queue role group = q'.eventSet queue' role' group' := by
  constructor
  · intro h
    cases hr : role.isPerGroup with
    | true =>
        cases hr' : role'.isPerGroup with
        | true =>
            obtain ⟨-, rfl, rfl, rfl⟩ :=
              perGroup_of_key_eq hr hr' hqueue hqueue' (hgroup hr) (hgroup' hr') h
            simp [Queue.eventSet, hbase]
        | false =>
            obtain rfl : role' = .available := by cases role' <;> first | rfl | contradiction
            exact absurd hbase.symm (base_ne_of_key_eq hr hqueue' (hgroup hr) h.symm)
    | false =>
        obtain rfl : role = .available := by cases role <;> first | rfl | contradiction
        cases hr' : role'.isPerGroup with
        | true => exact absurd hbase (base_ne_of_key_eq hr' hqueue (hgroup' hr') h)
        | false =>
            obtain rfl : role' = .available := by cases role' <;> first | rfl | contradiction
            rw [key_eventSet_available, key_eventSet_available, hbase] at h
            obtain ⟨hplace, -⟩ := append_colon_inj h (Role.colonFree_name .available)
              (Role.colonFree_name .available)
            obtain ⟨-, rfl⟩ := append_colon_inj hplace hqueue hqueue'
            simp [Queue.eventSet, Role.isPerGroup, hbase]
  · intro h
    rw [h]

/-- Two sets of one namespace are the same if they agree in queue and role, and in the group unless all
    groups share them. -/
theorem key_eventSet_eq_iff_parts (hqueue : ColonFree queue) (hgroup : ColonFree group)
    (hqueue' : ColonFree queue') (hgroup' : ColonFree group') :
    (q.eventSet queue role group).key = (q.eventSet queue' role' group').key
      ↔ queue = queue' ∧ role = role' ∧ (role = .available ∨ group = group') := by
  rw [key_eventSet_eq_iff rfl hqueue hqueue' (fun _ => hgroup) fun _ => hgroup']
  cases role <;> cases role' <;> simp [Queue.eventSet, Role.isPerGroup]

/-- A set of a group in another role, or the shared set of the same namespace, never has the key of a
    set that is scored by deadlines. -/
theorem key_ne_ack (hrole : role ≠ .inProgressByAck) (hqueue : ColonFree queue)
    (hqueue' : ColonFree queue') (hgroup : ColonFree group) (hgroup' : ColonFree group')
    (hshared : role = .available → q.base = q'.base) :
    (q.eventSet queue role group).key ≠ (q'.eventSet queue' .inProgressByAck group').key := by
  intro h
  cases hr : role.isPerGroup with
  | true => exact hrole (perGroup_of_key_eq hr rfl hqueue hqueue' hgroup hgroup' h).2.2.1
  | false =>
      obtain rfl : role = .available := by cases role <;> first | rfl | contradiction
      exact base_ne_of_key_eq rfl hqueue hgroup' h (hshared rfl)

end Keys

end GroupQueue
