import GroupQueue.Proofs.Store.Contents

/-!
# `Proofs.Store.Natural` — contents with natural scores, and their smallest and greatest event

Most sets keep every event with its natural score. Their order is the order of identifiers, and a test
of scores is a test of events. This module has the smallest and the greatest event of a set, the parts of
a set beyond a score, and what all of these mean where scores are natural.

## Contents
- `Contents.live` — the part of a set that has not expired; `live_live_of_le`, `live_insert`, `live_upsert_live`.
- `Contents.above` — the part beyond a score.
- `Contents.first?`, `Contents.last?` — the smallest and the greatest event.
- `Contents.Natural` — natural scores, kept by insertion, removal and selection; `first?_le`, `le_last?`,
  `ids_live_insert`.
-/

namespace GroupQueue
namespace Contents

theorem mem_iff {held : Contents} {id : EventId} : id ∈ held ↔ ∃ score, held[id]? = some score := by
  rw [Std.ExtTreeMap.mem_iff_isSome_getElem?, Option.isSome_iff_exists]

theorem mem_insert_iff {held : Contents} {id x : EventId} {score : Int} :
    x ∈ held.insert id score ↔ x = id ∨ x ∈ held := by
  rw [Std.ExtTreeMap.mem_insert, Std.LawfulEqOrd.compare_eq_iff_eq, eq_comm]

theorem mem_erase_iff {held : Contents} {id x : EventId} : x ∈ held.erase id ↔ x ≠ id ∧ x ∈ held := by
  rw [Std.ExtTreeMap.mem_erase, Ne, Std.LawfulEqOrd.compare_eq_iff_eq, eq_comm, Ne]

theorem mem_without_iff {held : Contents} {ids : List EventId} {x : EventId} :
    x ∈ without held ids ↔ x ∉ ids ∧ x ∈ held := by
  rw [mem_iff, mem_iff, getElem?_without]
  by_cases hx : x ∈ ids <;> simp [hx]

theorem mem_upsert_iff {held : Contents} {ms : List Member} {x : EventId} :
    x ∈ upsert held ms ↔ x ∈ ms.map Member.id ∨ x ∈ held := by
  induction ms generalizing held with
  | nil => simp [upsert]
  | cons m ms ih =>
      rw [upsert, List.foldl_cons, ← upsert, ih, mem_insert_iff, List.map_cons, List.mem_cons]
      exact or_left_comm.trans or_assoc.symm

theorem eq_empty_iff {held : Contents} : held = ∅ ↔ ∀ x, x ∉ held := by
  constructor
  · rintro rfl x
    exact Std.ExtTreeMap.not_mem_empty
  · intro h
    refine Std.ExtTreeMap.ext_getElem? fun id => ?_
    rw [Std.ExtTreeMap.getElem?_empty, Option.eq_none_iff_forall_ne_some]
    exact fun score hscore => h id (mem_iff.mpr ⟨score, hscore⟩)

theorem erase_of_not_mem {held : Contents} {id : EventId} (h : id ∉ held) : held.erase id = held := by
  refine Std.ExtTreeMap.ext_getElem? fun x => ?_
  rw [getElem?_erase_ite]
  split
  · next hx => rw [← hx, Std.ExtTreeMap.getElem?_eq_none h]
  · rfl

/-- The events of a list of members are taken out by taking out what passes the test they passed. -/
theorem without_members_filter (held : Contents) (p : Int → Bool) :
    without held ((members (held.filter fun _ score => p score)).map Member.id)
      = held.filter fun _ score => !p score := by
  refine Std.ExtTreeMap.ext_getElem? fun id => ?_
  have hid : id ∈ (members (held.filter fun _ score => p score)).map Member.id
      ↔ ∃ score, held[id]? = some score ∧ p score = true := by
    rw [List.mem_map]
    constructor
    · rintro ⟨m, hm, rfl⟩
      rw [mem_members, Std.ExtTreeMap.getElem?_filter', Option.filter_eq_some_iff] at hm
      exact ⟨m.score, hm⟩
    · rintro ⟨score, hscore⟩
      refine ⟨⟨id, score⟩, ?_, rfl⟩
      rw [mem_members, Std.ExtTreeMap.getElem?_filter', Option.filter_eq_some_iff]
      exact hscore
  rw [getElem?_without, Std.ExtTreeMap.getElem?_filter']
  cases hscore : held[id]? with
  | none => simp
  | some score =>
      simp only [hid, hscore, Option.some.injEq, exists_eq_left', Option.filter_some]
      cases p score <;> simp

/-! ## Parts of a set -/

/-- The events that have not expired by `now`. -/
def live (held : Contents) (now : Instant) : Contents :=
  held.filter fun _ score => decide (now.score < score)

/-- The events beyond a score. -/
def above (held : Contents) (low : Int) : Contents := held.filter fun _ score => decide (low < score)

theorem getElem?_live {held : Contents} {now : Instant} {id : EventId} {score : Int} :
    (live held now)[id]? = some score ↔ held[id]? = some score ∧ now.score < score := by
  rw [live, Std.ExtTreeMap.getElem?_filter', Option.filter_eq_some_iff, decide_eq_true_iff]

/-- What expires by a later clock reading includes what has expired before. -/
theorem live_live_of_le (held : Contents) {now later : Instant} (hle : now ≤ later) :
    live (live held now) later = live held later := by
  have hscore : now.score ≤ later.score := Instant.score_mono hle
  refine Std.ExtTreeMap.ext_getElem? fun id => Option.ext fun score => ?_
  rw [getElem?_live, getElem?_live, getElem?_live]
  exact ⟨fun h => ⟨h.1.1, h.2⟩, fun h => ⟨⟨h.1, Int.lt_of_le_of_lt hscore h.2⟩, h.2⟩⟩

theorem live_live (held : Contents) (now : Instant) : live (live held now) now = live held now :=
  live_live_of_le held (Int.le_refl _)

theorem mem_of_mem_live {held : Contents} {now : Instant} {id : EventId} (h : id ∈ live held now) :
    id ∈ held :=
  Std.ExtTreeMap.mem_of_mem_filter h

theorem live_empty (now : Instant) : live ∅ now = ∅ :=
  eq_empty_iff.mpr fun _ hx => Std.ExtTreeMap.not_mem_empty (mem_of_mem_live hx)

theorem live_insert (held : Contents) (now : Instant) (id : EventId) (score : Int) :
    live (held.insert id score) now
      = if now.score < score then (live held now).insert id score else (live held now).erase id := by
  refine Std.ExtTreeMap.ext_getElem? fun x => Option.ext fun s => ?_
  rw [getElem?_live, getElem?_insert_ite]
  by_cases hx : id = x
  · by_cases hlive : now.score < score
    · simp only [hx, hlive, if_true, getElem?_insert_ite, Option.some.injEq]
      exact ⟨And.left, fun h => ⟨h, h ▸ hlive⟩⟩
    · simp only [hx, hlive, if_true, if_false, getElem?_erase_ite, Option.some.injEq, reduceCtorEq, iff_false]
      rintro ⟨rfl, h⟩
      exact hlive h
  · by_cases hlive : now.score < score
    · simp only [hx, hlive, if_true, if_false, getElem?_insert_ite, getElem?_live]
    · simp only [hx, hlive, if_false, getElem?_erase_ite, getElem?_live]

theorem live_erase (held : Contents) (now : Instant) (id : EventId) :
    live (held.erase id) now = (live held now).erase id := by
  refine Std.ExtTreeMap.ext_getElem? fun x => Option.ext fun s => ?_
  rw [getElem?_live, getElem?_erase_ite, getElem?_erase_ite]
  split
  · simp
  · rw [getElem?_live]

theorem live_without (held : Contents) (now : Instant) (ids : List EventId) :
    live (without held ids) now = without (live held now) ids := by
  induction ids generalizing held with
  | nil => rfl
  | cons id ids ih =>
      rw [without, List.foldl_cons, ← without, ih, live_erase]
      rfl

/-- What has expired before members are put in makes no difference to what is alive afterwards. -/
theorem live_upsert_live (held : Contents) (now : Instant) (ms : List Member) :
    live (upsert (live held now) ms) now = live (upsert held ms) now := by
  suffices hcongr : ∀ held' : Contents, live held' now = live held now →
      live (upsert held' ms) now = live (upsert held ms) now from hcongr _ (live_live held now)
  induction ms generalizing held with
  | nil => exact fun held' h => h
  | cons m ms ih =>
      intro held' h
      refine ih (held.insert m.id m.score) (held'.insert m.id m.score) ?_
      rw [live_insert, live_insert, h]

/-! ## The smallest and the greatest event -/

/-- The event of lowest score. -/
def first? (held : Contents) : Option EventId := (members held).head?.map Member.id

/-- The event of highest score. -/
def last? (held : Contents) : Option EventId := (members held).getLast?.map Member.id

theorem first?_eq_none_iff {held : Contents} : first? held = none ↔ held = ∅ := by
  rw [first?, Option.map_eq_none_iff, List.head?_eq_none_iff, members_eq_nil_iff]

theorem last?_eq_none_iff {held : Contents} : last? held = none ↔ held = ∅ := by
  rw [last?, Option.map_eq_none_iff, List.getLast?_eq_none_iff, members_eq_nil_iff]

theorem mem_of_mem_members {held : Contents} {m : Member} (h : m ∈ members held) : m.id ∈ held :=
  mem_iff.mpr ⟨m.score, mem_members.mp h⟩

/-- Without the first one, the members are the others. -/
theorem members_erase_first {held : Contents} {m : Member} {rest : List Member}
    (h : members held = m :: rest) : members (held.erase m.id) = rest := by
  have hsorted := sorted_members held
  have hnodup := nodup_members held
  rw [h] at hsorted hnodup
  refine (eq_members (List.pairwise_cons.mp hsorted).2 fun x => ?_).symm
  have hx : x ∈ m :: rest ↔ held[x.id]? = some x.score := by rw [← h, mem_members]
  rw [getElem?_erase_ite]
  by_cases hid : m.id = x.id
  · -- the only member with the identifier is the one that leaves
    simp only [hid, if_true, reduceCtorEq, iff_false]
    intro hmem
    have hm : held[m.id]? = some m.score := mem_members.mp (h ▸ List.mem_cons_self)
    have hscore : held[x.id]? = some x.score := hx.mp (List.mem_cons_of_mem m hmem)
    rw [hid, hscore] at hm
    have heq : m = x := by
      cases m
      cases x
      simp_all
    exact (List.nodup_cons.mp hnodup).1 (heq ▸ hmem)
  · rw [if_neg hid, ← hx, List.mem_cons]
    refine ⟨Or.inr, fun hmem => hmem.resolve_left ?_⟩
    rintro rfl
    exact hid rfl

theorem mem_of_first? {held : Contents} {id : EventId} (h : first? held = some id) : id ∈ held := by
  obtain ⟨m, hm, rfl⟩ := Option.map_eq_some_iff.mp h
  exact mem_of_mem_members (List.mem_of_mem_head? hm)

theorem mem_of_last? {held : Contents} {id : EventId} (h : last? held = some id) : id ∈ held := by
  obtain ⟨m, hm, rfl⟩ := Option.map_eq_some_iff.mp h
  exact mem_of_mem_members (List.mem_of_mem_getLast? hm)

/-! ## Natural scores -/

/-- Every event has its natural score. -/
def Natural (held : Contents) : Prop :=
  ∀ (id : EventId) (score : Int), held[id]? = some score → score = id.score

theorem natural_empty : Natural ∅ := by
  intro id score h
  rw [Std.ExtTreeMap.getElem?_empty] at h
  contradiction

namespace Natural

variable {held : Contents}

theorem filter (h : Natural held) (p : EventId → Int → Bool) : Natural (held.filter p) := by
  intro id score hscore
  rw [Std.ExtTreeMap.getElem?_filter', Option.filter_eq_some_iff] at hscore
  exact h id score hscore.1

theorem live (h : Natural held) (now : Instant) : Natural (live held now) := h.filter _

theorem insert (h : Natural held) (id : EventId) : Natural (held.insert id id.score) := by
  intro x score hscore
  rw [getElem?_insert_ite] at hscore
  split at hscore
  · next hx =>
    rw [← hx]
    exact (Option.some.inj hscore).symm
  · exact h x score hscore

theorem erase (h : Natural held) (id : EventId) : Natural (held.erase id) := by
  intro x score hscore
  rw [getElem?_erase_ite] at hscore
  split at hscore
  · contradiction
  · exact h x score hscore

theorem without (h : Natural held) (ids : List EventId) : Natural (without held ids) := by
  intro x score hscore
  rw [getElem?_without] at hscore
  split at hscore
  · contradiction
  · exact h x score hscore

theorem upsert (h : Natural held) {ms : List Member} (hms : ∀ m ∈ ms, m.score = m.id.score) :
    Natural (upsert held ms) := by
  induction ms generalizing held with
  | nil => exact h
  | cons m ms ih =>
      have hm : Natural (held.insert m.id m.score) := by
        rw [hms m List.mem_cons_self]
        exact h.insert m.id
      exact ih hm fun x hx => hms x (List.mem_cons_of_mem m hx)

theorem getElem?_eq (h : Natural held) {id : EventId} (hid : id ∈ held) : held[id]? = some id.score := by
  obtain ⟨score, hscore⟩ := mem_iff.mp hid
  rw [hscore, h id score hscore]

/-- A test of scores is a test of events. -/
theorem mem_filter (h : Natural held) {p : Int → Bool} {id : EventId} :
    id ∈ (held.filter fun _ score => p score) ↔ id ∈ held ∧ p id.score = true := by
  rw [mem_iff, Std.ExtTreeMap.getElem?_filter']
  constructor
  · rintro ⟨score, hscore⟩
    obtain ⟨hc, hp⟩ := Option.filter_eq_some_iff.mp hscore
    exact ⟨mem_iff.mpr ⟨score, hc⟩, h id score hc ▸ hp⟩
  · rintro ⟨hid, hp⟩
    exact ⟨id.score, Option.filter_eq_some_iff.mpr ⟨h.getElem?_eq hid, hp⟩⟩

theorem mem_live (h : Natural held) {now : Instant} {id : EventId} :
    id ∈ Contents.live held now ↔ id ∈ held ∧ now.score < id.score := by
  rw [Contents.live, h.mem_filter, decide_eq_true_iff]

theorem mem_above (h : Natural held) {low : Int} {id : EventId} :
    id ∈ above held low ↔ id ∈ held ∧ low < id.score := by
  rw [above, h.mem_filter, decide_eq_true_iff]

theorem score_eq (h : Natural held) {m : Member} (hm : m ∈ members held) : m.score = m.id.score :=
  h m.id m.score (mem_members.mp hm)

/-- The members of a set with natural scores are its events in order. -/
theorem sorted (h : Natural held) : ((members held).map Member.id).Pairwise fun a b => a < b := by
  rw [List.pairwise_map]
  refine List.Pairwise.imp_of_mem ?_ (sorted_members held)
  intro a b ha hb hab
  rw [Member.precedes_iff, h.score_eq ha, h.score_eq hb] at hab
  rw [EventId.lt_def] at *
  omega

/-- An event that is later than all others comes last. -/
theorem members_insert_last (h : Natural held) {id : EventId} (hlast : ∀ x ∈ held, x < id) :
    members (held.insert id id.score) = members held ++ [.natural id] := by
  refine (eq_members (List.pairwise_append.mpr ⟨sorted_members held, List.pairwise_singleton _ _, ?_⟩)
    fun x => ?_).symm
  · intro m hm last hlast'
    rw [List.mem_singleton.mp hlast', Member.precedes_iff, h.score_eq hm]
    exact Or.inl (hlast m.id (mem_of_mem_members hm))
  · rw [List.mem_append, mem_members, List.mem_singleton, getElem?_insert_ite]
    by_cases hx : id = x.id
    · have hout : held[x.id]? = none := by
        rw [Option.eq_none_iff_forall_ne_some]
        intro score hscore
        have hlt := hlast x.id (mem_iff.mpr ⟨score, hscore⟩)
        rw [hx] at hlt
        exact Int.lt_irrefl _ hlt
      simp only [hx, hout, if_true, reduceCtorEq, false_or, Option.some.injEq, Member.natural]
      constructor
      · rintro heq
        rw [heq]
      · intro hscore
        cases x
        simp_all
    · rw [if_neg hx]
      refine ⟨fun hmem => hmem.resolve_right ?_, Or.inl⟩
      rintro rfl
      exact hx rfl

/-- Putting in an event that is later than all that are alive extends those that are alive by it, unless it
    has expired. -/
theorem ids_live_insert (h : Natural held) {now : Instant} {id : EventId}
    (hlast : ∀ x ∈ Contents.live held now, x < id) :
    (members (Contents.live (held.insert id id.score) now)).map Member.id
      = (members (Contents.live held now)).map Member.id ++ if now.score < id.score then [id] else [] := by
  rw [live_insert]
  split
  · rw [(h.live now).members_insert_last hlast, List.map_append]
    rfl
  · rw [erase_of_not_mem fun hid => Int.lt_irrefl _ (hlast id hid), List.append_nil]

theorem mem_ids (h : Natural held) {id : EventId} : id ∈ (members held).map Member.id ↔ id ∈ held := by
  rw [List.mem_map]
  constructor
  · rintro ⟨m, hm, rfl⟩
    exact mem_of_mem_members hm
  · exact fun hid => ⟨⟨id, id.score⟩, mem_members.mpr (h.getElem?_eq hid), rfl⟩

theorem first?_le (h : Natural held) {id x : EventId} (hid : first? held = some id) (hx : x ∈ held) :
    id ≤ x := by
  rw [first?, ← List.head?_map] at hid
  obtain ⟨rest, hrest⟩ := List.head?_eq_some_iff.mp hid
  have hsorted := h.sorted
  have hmem := h.mem_ids.mpr hx
  rw [hrest] at hsorted hmem
  -- the events are listed in order, and the first one precedes the others
  rcases List.mem_cons.mp hmem with rfl | hmem
  · exact Int.le_refl _
  · exact Int.le_of_lt (List.rel_of_pairwise_cons hsorted hmem)

theorem le_last? (h : Natural held) {id x : EventId} (hid : last? held = some id) (hx : x ∈ held) :
    x ≤ id := by
  rw [last?, ← List.getLast?_map] at hid
  obtain ⟨rest, hrest⟩ := List.getLast?_eq_some_iff.mp hid
  have hsorted := h.sorted
  have hmem := h.mem_ids.mpr hx
  rw [hrest] at hsorted hmem
  rcases List.mem_append.mp hmem with hmem | hmem
  · exact Int.le_of_lt ((List.pairwise_append.mp hsorted).2.2 x hmem id (List.mem_singleton.mpr rfl))
  · rw [List.mem_singleton.mp hmem]
    exact Int.le_refl _

end Natural

end Contents
end GroupQueue
