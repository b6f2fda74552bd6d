import GroupQueue.Store.SortedSet

/-!
# `Proofs.Store.Contents` — what one event set holds, and its members in order

An event set is a finite map from events to scores. Everything that a store or a plan reads from it is
read off that map: its members sorted by score and identifier, a window of them, a slice of them. A
sorted list of members is determined by the map it lists (`Contents.eq_members`), which is how every
list in this development is compared with another.

## Contents
- `Member.precedes` is a strict linear order: `precedes_trans`, `precedes_asymm`, `precedes_total`.
- `Contents`, `Contents.members`, with `mem_members`, `nodup_ids`, `sorted_members` and `eq_members`.
- `Contents.window`, `Contents.slice` — the members in a range of scores, or of ranks.
- `Contents.upsert`, `Contents.without` — the map after insertions, or after removals.
- `Contents.length_members` — how many there are.
-/

namespace GroupQueue

/-! ## The order of members -/

namespace Member

theorem precedes_iff {a b : Member} :
    a.precedes b = true ↔ a.score < b.score ∨ a.score = b.score ∧ a.id < b.id := by
  simp [precedes]

theorem precedes_irrefl (a : Member) : ¬ a.precedes a = true := by
  rw [precedes_iff, EventId.lt_def]
  omega

theorem precedes_trans {a b c : Member} (hab : a.precedes b = true) (hbc : b.precedes c = true) :
    a.precedes c = true := by
  rw [precedes_iff, EventId.lt_def] at *
  omega

theorem precedes_asymm {a b : Member} (hab : a.precedes b = true) : ¬ b.precedes a = true :=
  fun hba => precedes_irrefl a (precedes_trans hab hba)

theorem precedes_total {a b : Member} (hne : a ≠ b) :
    a.precedes b = true ∨ b.precedes a = true := by
  obtain ⟨⟨x⟩, s⟩ := a
  obtain ⟨⟨y⟩, t⟩ := b
  have hdiff : ¬ (x = y ∧ s = t) := fun h => hne (by rw [h.1, h.2])
  simp only [precedes_iff, EventId.lt_def]
  omega

theorem score_le_of_precedes {a b : Member} (h : a.precedes b = true) : a.score ≤ b.score := by
  rw [precedes_iff] at h
  omega

end Member

/-! ## Maps and sorted lists -/

section Maps

variable {κ υ : Type} [Ord κ] [Std.TransOrd κ] [Std.LawfulEqOrd κ] [DecidableEq κ]

theorem getElem?_insert_ite {t : Std.ExtTreeMap κ υ} {k a : κ} {v : υ} :
    (t.insert k v)[a]? = if k = a then some v else t[a]? := by
  by_cases h : k = a
  · simp [h]
  · simp [Std.ExtTreeMap.getElem?_insert, h]

theorem getElem?_erase_ite {t : Std.ExtTreeMap κ υ} {k a : κ} :
    (t.erase k)[a]? = if k = a then none else t[a]? := by
  by_cases h : k = a
  · simp [h]
  · simp [Std.ExtTreeMap.getElem?_erase, h]

end Maps

section Filters

variable {α : Type} {p : α → Bool} {l : List α}

/-- Where `p` passes on to everything that follows, dropping up to the first `p` drops all the rest. -/
theorem dropWhile_not_eq_filter (h : l.Pairwise fun a b => p a = true → p b = true) :
    (l.dropWhile fun a => !p a) = l.filter p := by
  induction l with
  | nil => rfl
  | cons a l ih =>
      obtain ⟨hhead, htail⟩ := List.pairwise_cons.mp h
      by_cases ha : p a = true
      · rw [List.dropWhile_cons_of_neg (by simp [ha]), List.filter_cons_of_pos ha]
        exact congrArg _ (List.filter_eq_self.mpr fun b hb => hhead b hb ha).symm
      · rw [List.dropWhile_cons_of_pos (by simp [ha]), List.filter_cons_of_neg ha]
        exact ih htail

/-- Where `p` passes on to everything that precedes, taking up to the first failure takes all of `p`. -/
theorem takeWhile_eq_filter (h : l.Pairwise fun a b => p b = true → p a = true) :
    l.takeWhile p = l.filter p := by
  induction l with
  | nil => rfl
  | cons a l ih =>
      obtain ⟨hhead, htail⟩ := List.pairwise_cons.mp h
      by_cases ha : p a = true
      · rw [List.takeWhile_cons_of_pos ha, List.filter_cons_of_pos ha, ih htail]
      · rw [List.takeWhile_cons_of_neg ha, List.filter_cons_of_neg ha]
        exact (List.filter_eq_nil_iff.mpr fun b hb hp => ha (hhead b hb hp)).symm

end Filters

/-! ## Contents -/

/-- The events of one set, with their scores. -/
abbrev Contents := Std.ExtTreeMap EventId Int

namespace Contents

/-- The members in order. -/
def members (held : Contents) : List Member :=
  (held.toList.map fun entry => ⟨entry.1, entry.2⟩).mergeSort fun a b => !b.precedes a

theorem mem_members {held : Contents} {m : Member} : m ∈ members held ↔ held[m.id]? = some m.score := by
  rw [members, List.mem_mergeSort, List.mem_map]
  constructor
  · rintro ⟨⟨id, score⟩, hmem, rfl⟩
    exact Std.ExtTreeMap.mem_toList_iff_getElem?_eq_some.mp hmem
  · intro h
    exact ⟨(m.id, m.score), Std.ExtTreeMap.mem_toList_iff_getElem?_eq_some.mpr h, rfl⟩

theorem nodup_members (held : Contents) : (members held).Nodup := by
  rw [members, (List.mergeSort_perm _ _).nodup_iff]
  refine List.Pairwise.map _ ?_ held.ordered_keys_toList
  intro a b hlt heq
  have hid : a.1 = b.1 := congrArg Member.id heq
  rw [hid, Std.ReflOrd.compare_self] at hlt
  contradiction

/-- No event is listed twice, with whichever scores. -/
theorem nodup_ids (held : Contents) : ((members held).map Member.id).Nodup := by
  refine List.pairwise_map.mpr ((nodup_members held).imp_of_mem fun {a b} ha hb hne hid => hne ?_)
  have hscore := mem_members.mp ha
  rw [hid, mem_members.mp hb] at hscore
  obtain ⟨id, score⟩ := a
  obtain ⟨id', score'⟩ := b
  cases hid
  cases hscore
  rfl

theorem sorted_members (held : Contents) : (members held).Pairwise fun a b => a.precedes b = true := by
  -- sorting leaves no member behind a later one; as none comes twice, each precedes those after it
  have hle : (members held).Pairwise fun a b => (!b.precedes a) = true := by
    refine List.pairwise_mergeSort ?_ ?_ _
    · intro x y z hxy hyz
      simp only [Bool.not_eq_true', ← Bool.not_eq_true, Member.precedes_iff, EventId.lt_def] at *
      omega
    · intro x y
      simp only [Bool.or_eq_true, Bool.not_eq_true', ← Bool.not_eq_true]
      by_cases h : y.precedes x = true
      · exact Or.inr (Member.precedes_asymm h)
      · exact Or.inl h
  refine (hle.and (nodup_members held)).imp ?_
  rintro a b ⟨hba, hne⟩
  rcases Member.precedes_total hne with h | h
  · exact h
  · simp [h] at hba

/-- **A sorted list is determined by the map it lists.** -/
theorem eq_members {held : Contents} {l : List Member}
    (hsorted : l.Pairwise fun a b => a.precedes b = true)
    (hmem : ∀ m, m ∈ l ↔ held[m.id]? = some m.score) : l = members held := by
  -- two sorted lists with the same members, none of them twice, are the same
  have hnodup : l.Nodup :=
    hsorted.imp fun hab => by rintro rfl; exact Member.precedes_irrefl _ hab
  have hperm : l.Perm (members held) :=
    (List.perm_ext_iff_of_nodup hnodup (nodup_members held)).mpr fun m => by rw [hmem, mem_members]
  exact hperm.eq_of_pairwise (fun a b _ _ hab hba => absurd hba (Member.precedes_asymm hab))
    hsorted (sorted_members held)

@[simp] theorem members_empty : members ∅ = [] := by
  refine (eq_members List.Pairwise.nil fun m => ?_).symm
  simp

theorem members_eq_nil_iff {held : Contents} : members held = [] ↔ held = ∅ := by
  constructor
  · intro h
    refine Std.ExtTreeMap.ext_getElem? fun id => ?_
    rw [Std.ExtTreeMap.getElem?_empty]
    refine Option.eq_none_iff_forall_ne_some.mpr fun score hscore => ?_
    have hm : (⟨id, score⟩ : Member) ∈ members held := mem_members.mpr hscore
    rw [h] at hm
    exact absurd hm List.not_mem_nil
  · rintro rfl
    exact members_empty

/-- Listing the events whose scores pass a test is filtering the list. -/
theorem members_filter (held : Contents) (p : Int → Bool) :
    members (held.filter fun _ score => p score) = (members held).filter fun m => p m.score := by
  refine (eq_members ((sorted_members held).filter _) fun m => ?_).symm
  rw [List.mem_filter, mem_members, Std.ExtTreeMap.getElem?_filter', Option.filter_eq_some_iff]

/-! ## Windows and slices -/

/-- The members whose scores pass `admits`, the greatest first if `descending`, up to the limit. -/
def window (held : Contents) (admits : Int → Bool) (descending : Bool) (limit : Option Nat) :
    List Member :=
  let found := members (held.filter fun _ score => admits score)
  let directed := if descending then found.reverse else found
  match limit with
  | some n => directed.take n
  | none => directed

/-- The members at the ranks `start … stop`, counted from the smallest. -/
def slice (held : Contents) (start stop : Nat) : List Member :=
  ((members held).take (stop + 1)).drop start

/-- No score passes, so nothing is in the window. -/
theorem window_eq_nil {held : Contents} {admits : Int → Bool} {descending : Bool} {limit : Option Nat}
    (h : ∀ score, admits score = false) : window held admits descending limit = [] := by
  have hfound : (held.filter fun _ score => admits score) = ∅ := by
    refine Std.ExtTreeMap.ext_getElem? fun id => ?_
    rw [Std.ExtTreeMap.getElem?_filter', Std.ExtTreeMap.getElem?_empty, Option.filter_eq_none_iff]
    intro score _
    simp [h]
  cases limit <;> simp [window, hfound]

theorem window_zero (held : Contents) (admits : Int → Bool) (descending : Bool) :
    window held admits descending (some 0) = [] := by
  simp [window]

/-- A window that ends before it starts is empty. -/
theorem slice_eq_nil {held : Contents} {start stop : Nat} (h : stop < start) :
    slice held start stop = [] := by
  refine List.drop_eq_nil_of_le ?_
  rw [List.length_take]
  omega

/-! ## Insertions and removals -/

/-- The contents once the members have been put in, the last score of an event counting. -/
def upsert (held : Contents) (ms : List Member) : Contents :=
  ms.foldl (fun held m => held.insert m.id m.score) held

/-- The contents once the events have been taken out. -/
def without (held : Contents) (ids : List EventId) : Contents :=
  ids.foldl (fun held id => held.erase id) held

theorem getElem?_without {held : Contents} {ids : List EventId} {id : EventId} :
    (without held ids)[id]? = if id ∈ ids then none else held[id]? := by
  induction ids generalizing held with
  | nil => simp [without]
  | cons x ids ih =>
      rw [without, List.foldl_cons, ← without, ih, getElem?_erase_ite]
      by_cases hx : x = id
      · simp [hx]
      · simp [hx, Ne.symm hx]

/-- What a set holds once members of different events have been put in. -/
theorem getElem?_upsert_of_nodup {held : Contents} {ms : List Member} (hms : (ms.map Member.id).Nodup)
    {m : Member} :
    (upsert held ms)[m.id]? = some m.score
      ↔ m ∈ ms ∨ m.id ∉ ms.map Member.id ∧ held[m.id]? = some m.score := by
  induction ms generalizing held with
  | nil => simp [upsert]
  | cons x ms ih =>
      rw [List.map_cons, List.nodup_cons] at hms
      rw [upsert, List.foldl_cons, ← upsert, ih hms.2, getElem?_insert_ite, List.mem_cons, List.map_cons,
        List.mem_cons]
      by_cases hid : x.id = m.id
      · -- the member that is put in now is the last one of its event
        have hnew : m ∉ ms := fun hm => hms.1 (hid ▸ List.mem_map_of_mem hm)
        have hsame : m = x ↔ x.score = m.score := by
          cases m
          cases x
          simp_all [eq_comm]
        have hout : m.id ∉ ms.map Member.id := hid ▸ hms.1
        simp [hid, hnew, hsame, hout]
      · have hne : m ≠ x := fun h => hid (by rw [h])
        simp [hid, hne, Ne.symm hid]

/-- A set has as many members as events. -/
theorem length_members (held : Contents) : (members held).length = held.size := by
  rw [members, List.length_mergeSort, List.length_map, Std.ExtTreeMap.length_toList]

end Contents

end GroupQueue
