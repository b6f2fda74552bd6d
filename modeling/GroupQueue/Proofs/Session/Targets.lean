import GroupQueue.Proofs.Session.Adding
import GroupQueue.Proofs.Session.Rounds
import Mathlib.Data.List.TakeWhile

/-!
# `Proofs.Session.Targets` — which groups can be named to be swept

A target is written as a queue and a group with a slash between them, and is cut at its **first** slash. So the
name of a group may have slashes and the name of a queue may not, although names of queues are free to have them:
what is written for such a queue is read as a shorter queue, with a longer group (`targets_disagree`). Reading
looks at nothing but the slash. Whether the names can be used is for the sweep to say.

## Contents
- `SweepTarget.read_append`, `SweepTarget.of_read` — what is written is read, and nothing else.
- `targets_cut_at_first_slash` — the groups that can be named, and what becomes of their sweeps.
-/

namespace GroupQueue

namespace SweepTarget

variable {s queue group : String}

/-! ## Reading -/

/-- A queue without a slash is read up to the slash behind it. -/
theorem read_append (hqueue : queue ≠ "") (hgroup : group ≠ "") (hslash : '/' ∉ queue.toList) :
    read (queue ++ "/" ++ group) = .ok ⟨queue, group⟩ := by
  have hchars : (queue ++ "/" ++ group).toList = queue.toList ++ '/' :: group.toList := by simp
  have hother : ∀ c ∈ queue.toList, (c != '/') = true := by
    intro c hc
    rw [bne_iff_ne]
    rintro rfl
    exact hslash hc
  have hfirst : (queue ++ "/" ++ group).toList.takeWhile (· != '/') = queue.toList := by
    rw [hchars, List.takeWhile_append_of_pos hother]
    simp
  have hrest : ((queue ++ "/" ++ group).toList.dropWhile (· != '/')).drop 1 = group.toList := by
    rw [hchars, List.dropWhile_append_of_pos hother]
    simp
  have hnonempty : (queue.toList.isEmpty || group.toList.isEmpty) = false := by
    simp [hqueue, hgroup]
  simp only [read, hfirst, hrest, hnonempty, Bool.false_eq_true, if_false, String.ofList_toList]

/-- What is read has been written with its first slash in between. -/
theorem of_read (h : read s = .ok ⟨queue, group⟩) :
    s = queue ++ "/" ++ group ∧ queue ≠ "" ∧ group ≠ "" ∧ '/' ∉ queue.toList := by
  have hsplit := @List.takeWhile_append_dropWhile _ (· != '/') s.toList
  have hslash : '/' ∉ s.toList.takeWhile (· != '/') := fun hmem =>
    absurd (List.mem_takeWhile_imp hmem) (by decide)
  have hhead := List.head?_dropWhile_not (· != '/') s.toList
  unfold read at h
  generalize s.toList.takeWhile (· != '/') = first at hsplit hslash h
  generalize s.toList.dropWhile (· != '/') = rest at hsplit hhead h
  dsimp only at h
  split at h
  · contradiction
  · next hnonempty =>
    rw [Bool.or_eq_true, not_or, List.isEmpty_iff, List.isEmpty_iff] at hnonempty
    obtain ⟨hqueue, hgroup⟩ := SweepTarget.mk.inj (Except.ok.inj h)
    subst hqueue hgroup
    -- the rest is not empty, and starts with the slash
    cases rest with
    | nil => exact absurd rfl hnonempty.2
    | cons c rest =>
        obtain rfl : c = '/' := by simpa using hhead
        refine ⟨?_, by simpa using hnonempty.1, by simpa using hnonempty.2, by simpa using hslash⟩
        rw [← String.toList_inj, ← hsplit]
        simp

end SweepTarget

/-- A name that can be used is not empty. -/
theorem ne_empty_of_checkName {field name : String} (h : checkName field name = .ok ()) : name ≠ "" := by
  rintro rfl
  obtain ⟨⟨c, hc, -⟩, -⟩ := checkName_eq_ok_iff.mp h
  exact absurd hc (by simp)

/-- **Which groups can be named, and what becomes of their sweeps.** A text is read as a queue and a group exactly if
    it is the two with a slash in between, neither is empty, and the queue has no slash. So of the groups whose names
    can be used, those can be named whose queue has no slash, and each of them by its own name only. If the names that
    are read are not blank and have no colon, a sweep of the group is not refused, whatever any services have done to
    the store before: it reports what it has done, unless an execution is due to fail. -/
theorem targets_cut_at_first_slash :
    (∀ s queue group, SweepTarget.read s = .ok ⟨queue, group⟩
      ↔ s = queue ++ "/" ++ group ∧ queue ≠ "" ∧ group ≠ "" ∧ '/' ∉ queue.toList)
    ∧ (∀ queue group, checkName "queue" queue = .ok () → checkName "group" group = .ok () →
        (SweepTarget.read (queue ++ "/" ++ group) = .ok ⟨queue, group⟩ ↔ '/' ∉ queue.toList)
        ∧ ∀ s, SweepTarget.read s = .ok ⟨queue, group⟩ ↔ s = queue ++ "/" ++ group ∧ '/' ∉ queue.toList)
    ∧ ∀ s queue group, SweepTarget.read s = .ok ⟨queue, group⟩ →
        (∀ name ∈ [queue, group], (∃ c ∈ name.toList, Text.isBlank c = false) ∧ ':' ∉ name.toList) →
        checkName "queue" queue = .ok () ∧ checkName "group" group = .ok ()
        ∧ ∀ (turns : List Turn) (t : Turn), t.request = .sweep queue group →
          let session := Session.after turns
          ∃ report, (session.turn t).1
            = if (PendingFault.due? .execute (session.faults ++ t.faults)).any (· < 4) then
                .error (.injected StoreMethod.execute.name)
              else .ok (.swept report) := by
  have hread (s queue group : String) : SweepTarget.read s = .ok ⟨queue, group⟩
      ↔ s = queue ++ "/" ++ group ∧ queue ≠ "" ∧ group ≠ "" ∧ '/' ∉ queue.toList := by
    refine ⟨SweepTarget.of_read, ?_⟩
    rintro ⟨rfl, hqueue, hgroup, hslash⟩
    exact SweepTarget.read_append hqueue hgroup hslash
  refine ⟨hread, fun queue group hqueue hgroup => ?_, fun s queue group _ hnames => ?_⟩
  · have hvalid (s : String) : SweepTarget.read s = .ok ⟨queue, group⟩
        ↔ s = queue ++ "/" ++ group ∧ '/' ∉ queue.toList := by
      rw [hread]
      exact and_congr_right fun _ =>
        ⟨fun h => h.2.2, fun h => ⟨ne_empty_of_checkName hqueue, ne_empty_of_checkName hgroup, h⟩⟩
    exact ⟨(hvalid _).trans (and_iff_right rfl), hvalid⟩
  · have hqueue : checkName "queue" queue = .ok () := checkName_eq_ok_iff.mpr (hnames queue (by simp))
    have hgroup : checkName "group" group = .ok () := checkName_eq_ok_iff.mpr (hnames group (by simp))
    exact ⟨hqueue, hgroup, fun turns t hrequest =>
      ⟨_, Session.reply_of_sweep (Session.sound_after_all turns) hrequest hqueue hgroup⟩⟩

/-- A group with a slash in its name is named, and swept; the queue with the slash is not named by any text. -/
theorem targets_cut_at_first_slash_twice :
    let turn (micros : Int) (request : Request) : Turn := { queue := {}, now := .ofMicros micros, request }
    let turns := [turn 1000 (.add { queue := "a", expire := .ofMicros 5000, contents := "x" }),
      turn 1000 (.get { queue := "a", group := "b/c", deadline := some (.ofMicros 1500) })]
    SweepTarget.read "a/b/c" = .ok ⟨"a", "b/c"⟩
      ∧ checkName "queue" "a/b" = .ok () ∧ checkName "group" "c" = .ok ()
      ∧ (¬ ∃ s, SweepTarget.read s = .ok ⟨"a/b", "c"⟩)
      ∧ (∀ name ∈ ["a", "b/c"], (∃ c ∈ name.toList, Text.isBlank c = false) ∧ ':' ∉ name.toList)
      ∧ ∃ report, ((Session.after turns).turn (turn 2000 (.sweep "a" "b/c"))).1 = .ok (.swept report) := by
  intro turn turns
  have hread : SweepTarget.read "a/b/c" = .ok ⟨"a", "b/c"⟩ := by decide
  have hqueue : checkName "queue" "a/b" = .ok () := by decide
  have hgroup : checkName "group" "c" = .ok () := by decide
  have hnames : ∀ name ∈ ["a", "b/c"], (∃ c ∈ name.toList, Text.isBlank c = false) ∧ ':' ∉ name.toList := by
    intro name hname
    rcases List.mem_pair.mp hname with rfl | rfl
    · exact checkName_eq_ok_iff.mp (by decide : checkName "queue" "a" = .ok ())
    · exact checkName_eq_ok_iff.mp (by decide : checkName "group" "b/c" = .ok ())
  have hpasses : (Session.after turns).faults = [] := by decide +kernel
  obtain ⟨-, hnamed, hswept⟩ := targets_cut_at_first_slash
  refine ⟨hread, hqueue, hgroup, fun ⟨s, hs⟩ => ?_, hnames, ?_⟩
  · exact absurd (((hnamed "a/b" "c" hqueue hgroup).2 s).mp hs).2 (by decide)
  · obtain ⟨report, hreply⟩ := (hswept "a/b/c" "a" "b/c" hread hnames).2.2 turns
      (turn 2000 (.sweep "a" "b/c")) rfl
    rw [hpasses] at hreply
    exact ⟨report, hreply⟩

/-- **Reading and the names that can be used disagree**, both ways: a target is read whose queue cannot be used, and
    what is written for a queue with a slash is read as another queue with another group. -/
theorem targets_disagree :
    (SweepTarget.read "a:b/g" = .ok ⟨"a:b", "g"⟩ ∧ checkName "queue" "a:b" ≠ .ok ())
      ∧ checkName "queue" "a/b" = .ok () ∧ checkName "group" "g" = .ok ()
      ∧ SweepTarget.read ("a/b" ++ "/" ++ "g") = .ok ⟨"a", "b/g"⟩ := by
  decide

end GroupQueue
