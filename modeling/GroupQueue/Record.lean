import GroupQueue.EventSet
import GroupQueue.Json.Reader
import GroupQueue.Json.Writer
import GroupQueue.Time.Reading
import GroupQueue.Time.Stamp

/-!
# `GroupQueue.Record` — events, sets and members as JSON records

Identifiers are written as integers, roles by name, instants as stamps, and the rest as objects with
their fields in a fixed order. Reading is more lenient than writing: fields come in any order, a
record may be an array, an absent group counts as no group, and unknown fields are passed over.

## Contents
- `EventId.json`, `Role.json`, `EventSet.json`, `Member.json`, `Event.json` — writing;
  `Event.indentedJson` is the form for people.
- `EventId.reader`, `Role.reader`, `EventSet.reader`, `Member.reader`, `Event.reader` — reading.
-/

namespace GroupQueue

open Json (Reader RecordField)

/-! ## Identifiers and roles -/

/-- The identifier as an integer. -/
def EventId.json (id : EventId) : String := Json.integer id.score

/-- Read an identifier. -/
def EventId.reader : Reader EventId := EventId.mk <$> Json.readInteger

/-- The role by its name. -/
def Role.json (role : Role) : String := Json.quote role.name

/-- The role with the name that comes next. -/
def Role.nameReader : Reader Role := do
  match Role.ofName? (← Json.readText) with
  | some role => return role
  | none => throw .mismatched

/-- Read a role: its name, or an object with the name as its only field, whose value is null. -/
def Role.reader : Reader Role := do
  match ← Json.peek with
  | '\"' => Role.nameReader
  | '\x7b' =>
    Json.advance
    let role ← Role.nameReader
    Json.colon
    Json.readNull
    if (← Json.peek) = '\x7d' then Json.advance else throw .malformed
    return role
  | _ => throw .malformed

/-! ## Event sets -/

/-- The set in compact form. -/
def EventSet.json (set : EventSet) : String :=
  Json.object [
    ("base", Json.quote set.base),
    ("role", set.role.json),
    ("queue", Json.quote set.queue),
    ("group", (set.group.map Json.quote).getD "null")]

/-- The fields of a set that have been read. -/
structure EventSet.Draft where
  base : Option String := none
  role : Option Role := none
  queue : Option String := none
  group : Option (Option String) := none

/-- The fields of a set. -/
def EventSet.fields : List (RecordField EventSet.Draft) := [
  ⟨"base", (·.base.isSome), fun d => return { d with base := some (← Json.readText) }⟩,
  ⟨"role", (·.role.isSome), fun d => return { d with role := some (← Role.reader) }⟩,
  ⟨"queue", (·.queue.isSome), fun d => return { d with queue := some (← Json.readText) }⟩,
  ⟨"group", (·.group.isSome),
    fun d => return { d with group := some (← Json.readOption Json.readText) }⟩]

/-- The set, unless a field other than its group is missing. -/
def EventSet.Draft.finish (d : Draft) : Option EventSet := do
  return ⟨← d.base, ← d.role, ← d.queue, d.group.join⟩

/-- Read a set. -/
def EventSet.reader : Reader EventSet :=
  Json.readRecord EventSet.fields {} EventSet.Draft.finish

/-! ## Members -/

/-- The member in compact form. -/
def Member.json (member : Member) : String :=
  Json.object [("id", member.id.json), ("score", Json.integer member.score)]

/-- The fields of a member that have been read. -/
structure Member.Draft where
  id : Option EventId := none
  score : Option Int := none

/-- The fields of a member. -/
def Member.fields : List (RecordField Member.Draft) := [
  ⟨"id", (·.id.isSome), fun d => return { d with id := some (← EventId.reader) }⟩,
  ⟨"score", (·.score.isSome), fun d => return { d with score := some (← Json.readInteger) }⟩]

/-- The member, unless a field is missing. -/
def Member.Draft.finish (d : Draft) : Option Member := do
  return ⟨← d.id, ← d.score⟩

/-- Read a member. -/
def Member.reader : Reader Member :=
  Json.readRecord Member.fields {} Member.Draft.finish

/-! ## Events -/

/-- The fields of an event with their values. -/
def Event.jsonFields (event : Event) : List (String × String) := [
  ("id", event.id.json),
  ("expire", Json.quote event.expire.stamp),
  ("contents", Json.quote event.contents)]

/-- The event in compact form. -/
def Event.json (event : Event) : String := Json.object event.jsonFields

/-- The event in indented form. -/
def Event.indentedJson (event : Event) : String := Json.indentedObject event.jsonFields

/-- Read an instant. -/
def Instant.reader : Reader Instant := do
  match Instant.read? (← Json.readText) with
  | some t => return t
  | none => throw .mismatched

/-- The fields of an event that have been read. -/
structure Event.Draft where
  id : Option EventId := none
  expire : Option Instant := none
  contents : Option String := none

/-- The fields of an event. -/
def Event.fields : List (RecordField Event.Draft) := [
  ⟨"id", (·.id.isSome), fun d => return { d with id := some (← EventId.reader) }⟩,
  ⟨"expire", (·.expire.isSome), fun d => return { d with expire := some (← Instant.reader) }⟩,
  ⟨"contents", (·.contents.isSome),
    fun d => return { d with contents := some (← Json.readText) }⟩]

/-- The event, unless a field is missing. -/
def Event.Draft.finish (d : Draft) : Option Event := do
  return ⟨← d.id, ← d.expire, ← d.contents⟩

/-- Read an event. -/
def Event.reader : Reader Event :=
  Json.readRecord Event.fields {} Event.Draft.finish

end GroupQueue
