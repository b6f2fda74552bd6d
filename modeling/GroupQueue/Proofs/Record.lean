import GroupQueue.Proofs.Json.Objects
import GroupQueue.Proofs.Time.Stamp
import GroupQueue.Record

/-!
# `Proofs.Record` — records are read back from their texts

An identifier, a role, an event set, a member and an event are each read from their compact texts as what they
were. So no two of them have the same text. Numbers have to fit a machine word, and an event has to be one that is
made by its identifier: where the identifier is out of the range of instants, the event expires at the last one,
which is read back from its stamp like any other.

## Contents
- `EventId.reads`, `Role.reads`, `EventSet.reads`, `Member.reads`, `Instant.reads`, `Event.reads`.
- `EventId.expiry_inRange`, `Event.reads_new` — events that are made by their identifiers.
- `RoundTrips`, `json_roundTrips` — every text is read back, and belongs to one value.
-/

namespace GroupQueue

open Json (Reader Reads Fills)
open Text (minWord maxWord)

/-- A number fits a machine word. -/
def IsWord (n : Int) : Prop := minWord ≤ n ∧ n ≤ maxWord

theorem EventId.reads {id : EventId} (h : IsWord id.score) : Reads EventId.reader id.json id :=
  (Json.reads_integer h.1 h.2).bind_pure EventId.mk

theorem Role.reads (role : Role) : Reads Role.reader role.json role := by
  intro rest hrest
  have hname := Json.reads_quote role.name rest hrest
  rw [Json.toList_quote, List.cons_append] at hname
  rw [Role.json, Json.toList_quote, List.cons_append, Role.reader, Json.run_bind (Json.peek_cons rfl)]
  show Role.nameReader _ = _
  rw [Role.nameReader, Json.run_bind hname, Role.ofName?_name]
  rfl

theorem EventSet.reads (set : EventSet) : Reads EventSet.reader set.json set := by
  obtain ⟨base, role, queue, group⟩ := set
  have hgroup : Reads (Json.readOption Json.readText) ((group.map Json.quote).getD "null") group := by
    cases group with
    | none => exact Json.reads_option_none
    | some group => exact Json.reads_option_some group
  have hfills : Fills EventSet.fields [("base", Json.quote base), ("role", role.json),
      ("queue", Json.quote queue), ("group", (group.map Json.quote).getD "null")] {}
      { base := some base, role := some role, queue := some queue, group := some group } :=
    .cons rfl rfl ((Json.reads_quote base).bind_pure _) <|
    .cons rfl rfl ((Role.reads role).bind_pure _) <|
    .cons rfl rfl ((Json.reads_quote queue).bind_pure _) <|
    .cons rfl rfl (hgroup.bind_pure _) .nil
  exact Json.reads_object hfills rfl

theorem Member.reads {member : Member} (hid : IsWord member.id.score) (hscore : IsWord member.score) :
    Reads Member.reader member.json member := by
  have hfills : Fills Member.fields [("id", member.id.json), ("score", Json.integer member.score)] {}
      { id := some member.id, score := some member.score } :=
    .cons rfl rfl ((EventId.reads hid).bind_pure _) <|
    .cons rfl rfl ((Json.reads_integer hscore.1 hscore.2).bind_pure _) .nil
  exact Json.reads_object hfills rfl

theorem Instant.reads {t : Instant} (hleap : t.leap = false) (hfirst : earliest ≤ t) (hlast : t ≤ latest) :
    Reads Instant.reader (Json.quote t.stamp) t := by
  intro rest hrest
  rw [Instant.reader, Json.run_bind (Json.reads_quote t.stamp rest hrest), read?_stamp hleap hfirst hlast]
  rfl

theorem Event.reads {event : Event} (hid : IsWord event.id.score) (hleap : event.expire.leap = false)
    (hfirst : Instant.earliest ≤ event.expire) (hlast : event.expire ≤ Instant.latest) :
    Reads Event.reader event.json event := by
  have hfills : Fills Event.fields event.jsonFields {}
      { id := some event.id, expire := some event.expire, contents := some event.contents } :=
    .cons rfl rfl ((EventId.reads hid).bind_pure _) <|
    .cons rfl rfl ((Instant.reads hleap hfirst hlast).bind_pure _) <|
    .cons rfl rfl ((Json.reads_quote event.contents).bind_pure _) .nil
  exact Json.reads_object hfills rfl

/-- An event that is made by its identifier expires in range. -/
theorem EventId.expiry_inRange (id : EventId) :
    id.expiry.leap = false ∧ Instant.earliest ≤ id.expiry ∧ id.expiry ≤ Instant.latest := by
  unfold EventId.expiry
  split
  · next h =>
    refine ⟨rfl, Instant.le_def.mpr ?_, Instant.le_def.mpr ?_⟩
    · show Instant.minScore * 1000 ≤ id.score * 1000
      omega
    · show id.score * 1000 ≤ Instant.maxScore * 1000 + 999
      omega
  · exact ⟨rfl, by decide, by decide⟩

theorem Event.reads_new {id : EventId} (contents : String) (h : IsWord id.score) :
    Reads Event.reader (Event.new id contents).json (Event.new id contents) := by
  obtain ⟨hleap, hfirst, hlast⟩ := id.expiry_inRange
  exact Event.reads h hleap hfirst hlast

/-! ## Round trips -/

/-- All valid values are read back from their texts, and no two of them have the same text. -/
structure RoundTrips {α : Type} (reader : Reader α) (json : α → String) (valid : α → Prop) : Prop where
  readAll : ∀ a, valid a → Json.readAll reader (json a) = .ok a
  injective : ∀ a b, valid a → valid b → json a = json b → a = b

/-- What is read back from its text is the only one with that text. -/
theorem RoundTrips.of_reads {α : Type} {reader : Reader α} {json : α → String} {valid : α → Prop}
    (h : ∀ a, valid a → Reads reader (json a) a) : RoundTrips reader json valid where
  readAll := fun a ha => (h a ha).readAll
  injective := by
    intro a b ha hb heq
    have hread := (h a ha).readAll
    rw [heq, (h b hb).readAll, Except.ok.injEq] at hread
    exact hread.symm

/-- **Records are read back from their compact texts**, and different ones have different texts: identifiers,
    roles, sets with any texts for their namespace, queue and group, or without a group, members, and the events
    that identifiers make, with any contents. -/
theorem json_roundTrips :
    RoundTrips EventId.reader EventId.json (fun id => IsWord id.score)
    ∧ RoundTrips Role.reader Role.json (fun _ => True)
    ∧ RoundTrips EventSet.reader EventSet.json (fun _ => True)
    ∧ RoundTrips Member.reader Member.json (fun member => IsWord member.id.score ∧ IsWord member.score)
    ∧ RoundTrips Event.reader Event.json
        (fun event => ∃ id contents, IsWord id.score ∧ event = Event.new id contents) := by
  refine ⟨.of_reads fun _ h => EventId.reads h, .of_reads fun role _ => Role.reads role,
    .of_reads fun set _ => EventSet.reads set, .of_reads fun _ h => Member.reads h.1 h.2, .of_reads ?_⟩
  rintro event ⟨id, contents, hid, rfl⟩
  exact Event.reads_new contents hid

/-- An identifier before all instants makes an event that expires at the last one, and its contents need
    escapes. A set with an empty group is not one without a group. -/
theorem json_roundTrips_extremes :
    let event := Event.new ⟨minWord⟩ "\"\\\x01\n\u2028"
    let shared : EventSet := { base := "", role := .done, queue := "é" }
    event.expire = Instant.latest
      ∧ event.json = "\x7b\"id\":-9223372036854775808,\"expire\":\"+262142-12-31T23:59:59.999999999Z\","
          ++ "\"contents\":\"\\\"\\\\\\u0001\\n\u2028\"\x7d"
      ∧ Json.readAll Event.reader event.json = .ok event
      ∧ Json.readAll EventSet.reader { shared with group := some "" }.json = .ok { shared with group := some "" }
      ∧ shared.json ≠ { shared with group := some "" }.json := by
  intro event shared
  obtain ⟨-, -, hset, -, hevent⟩ := json_roundTrips
  refine ⟨by decide, by decide +kernel, hevent.readAll event ⟨_, _, ⟨by decide, by decide⟩, rfl⟩,
    hset.readAll _ trivial, ?_⟩
  intro heq
  exact absurd (hset.injective _ _ trivial trivial heq) (by decide)

end GroupQueue
