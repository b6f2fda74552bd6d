import GroupQueue.Proofs.Json.Scalars

/-!
# `Proofs.Json.Objects` — records are read back from objects

A record is written as an object with its fields in a fixed order, and it is read into a draft, one member after
the other. Members **fill** a draft if each of them is a field that the draft does not have yet, with a text that
is read into it. Whatever members fill the empty draft, the object with these members is read as the record
that the draft makes.

## Contents
- `membersText`, `toList_object` — the members of an object as it is written.
- `Fills` — members that lead from one draft to another; `Fills.readMembers`.
- `reads_object` — an object is read as the record that its members make.
-/

namespace GroupQueue.Json

/-! ## Members as they are written -/

/-- Members as they are written, with a comma before each of them but the first. -/
def membersText : Bool → List (String × String) → List Char
  | _, [] => []
  | first, (name, value) :: members =>
    (if first then [] else [',']) ++ (quote name).toList ++ ':' :: (value.toList ++ membersText false members)

theorem membersText_true (name value : String) (members : List (String × String)) :
    membersText true ((name, value) :: members)
      = (quote name).toList ++ ':' :: (value.toList ++ membersText false members) := by
  rw [membersText, if_pos rfl, List.nil_append]

theorem membersText_false {member : String × String} {members : List (String × String)} :
    membersText false (member :: members) = ',' :: membersText true (member :: members) := by
  obtain ⟨name, value⟩ := member
  rfl

theorem intercalate_membersText (members : List (String × String)) :
    [','].intercalate (members.map fun (name, value) => (quote name ++ ":" ++ value).toList)
      = membersText true members := by
  induction members with
  | nil => rfl
  | cons member members ih =>
      obtain ⟨name, value⟩ := member
      have hmember : (quote name ++ ":" ++ value).toList = (quote name).toList ++ ':' :: value.toList := by simp
      cases members with
      | nil => simp [membersText]
      | cons next members =>
          rw [List.map_cons] at ih
          rw [List.map_cons, List.map_cons, List.intercalate_cons_cons, ih]
          dsimp only
          rw [hmember, membersText_true name value, membersText_false]
          simp

theorem toList_object (members : List (String × String)) :
    (object members).toList = '\x7b' :: (membersText true members ++ ['\x7d']) := by
  rw [object, String.toList_append, String.toList_append, String.toList_intercalate, List.map_map]
  exact congrArg (fun text => '\x7b' :: (text ++ ['\x7d'])) (intercalate_membersText members)

/-- Every member takes characters. -/
theorem length_le_length_membersText (first : Bool) (members : List (String × String)) :
    members.length ≤ (membersText first members).length := by
  induction members generalizing first with
  | nil => exact Nat.le_refl 0
  | cons member members ih =>
      have hrest := ih false
      obtain ⟨name, value⟩ := member
      simp only [membersText, List.length_append, List.length_cons]
      omega

/-! ## Drafts -/

section Records

variable {δ α : Type} {fields : List (RecordField δ)} {members : List (String × String)} {draft last : δ}

/-- Members that lead from one draft to another: each is a field that the draft does not have yet, and its text
    is read into the draft. -/
inductive Fills (fields : List (RecordField δ)) : List (String × String) → δ → δ → Prop where
  | nil {draft : δ} : Fills fields [] draft draft
  | cons {name value : String} {members : List (String × String)} {field : RecordField δ} {draft next last : δ}
      (hfield : fields.find? (·.name == name) = some field) (hset : field.isSet draft = false)
      (hread : Reads (field.read draft) value next) (hrest : Fills fields members next last) :
      Fills fields ((name, value) :: members) draft last

theorem hasMember_end (first : Bool) (cs : List Char) :
    hasMember first ('\x7d' :: cs) = .ok (false, '\x7d' :: cs) := rfl

theorem hasMember_quote (first : Bool) (name : String) (cs : List Char) :
    hasMember first ((if first then [] else [',']) ++ (quote name).toList ++ cs)
      = .ok (true, (quote name).toList ++ cs) := by
  rw [toList_quote]
  cases first <;> rfl

/-- What comes after a value is the comma before the next member, or the closing brace. -/
theorem follows_membersText (members : List (String × String)) (rest : List Char) :
    Follows (membersText false members ++ '\x7d' :: rest) := by
  cases members with
  | nil => exact follows_brace rest
  | cons member members =>
      rw [membersText_false]
      exact follows_comma _

theorem colon_cons (cs : List Char) : colon (':' :: cs) = .ok ((), cs) := rfl

/-- **Members that fill a draft are read into it.** -/
theorem Fills.readMembers (h : Fills fields members draft last) (first : Bool) {fuel : Nat}
    (hfuel : members.length < fuel) (rest : List Char) :
    readMembers fields fuel first draft (membersText first members ++ '\x7d' :: rest)
      = .ok (last, '\x7d' :: rest) := by
  induction h generalizing first fuel with
  | nil =>
      obtain ⟨fuel, rfl⟩ := Nat.exists_eq_add_one_of_ne_zero (Nat.ne_of_gt hfuel)
      rw [Json.readMembers]
      exact run_bind (hasMember_end first rest)
  | @cons name value members field draft next last hfield hset hread hrest ih =>
      obtain ⟨fuel, rfl⟩ := Nat.exists_eq_add_one_of_ne_zero (Nat.ne_of_gt (Nat.zero_lt_of_lt hfuel))
      have hvalue := hread _ (follows_membersText members rest)
      have hmembers : Json.readMembers fields fuel false next (membersText false members ++ '\x7d' :: rest)
          = .ok (last, '\x7d' :: rest) := ih false (Nat.lt_of_succ_lt_succ hfuel)
      rw [membersText, List.append_assoc, Json.readMembers, run_bind (hasMember_quote first name _), if_pos rfl,
        run_bind (text_quote name _), hfield]
      dsimp only
      rw [hset, if_neg Bool.false_ne_true, List.cons_append, List.append_assoc, run_bind (colon_cons _),
        run_bind hvalue]
      exact hmembers

/-- **An object whose members fill the empty draft is read as the record that the draft makes.** -/
theorem reads_object {finish : δ → Option α} {record : α} (h : Fills fields members draft last)
    (hfinish : finish last = some record) : Reads (readRecord fields draft finish) (object members) record := by
  intro rest _
  have hfuel : members.length < (membersText true members ++ '\x7d' :: rest).length + 1 := by
    have hle := length_le_length_membersText true members
    rw [List.length_append]
    omega
  rw [toList_object, List.cons_append, List.append_assoc, List.singleton_append, readRecord,
    run_bind (peek_cons rfl), if_neg (by decide), if_pos rfl, run_bind (advance_cons _ _), run_bind (run_get _),
    run_bind (h.readMembers true hfuel rest), hfinish]
  dsimp only
  rw [run_bind (peek_cons rfl), if_pos rfl, run_bind (advance_cons _ _)]
  rfl

end Records

end GroupQueue.Json
