import GroupQueue.Sql.Store

/-!
# `Proofs.Sql.Exchanges` — statements with their replies

A conversation with a database is a sequence of **exchanges**, each a statement with the reply it got. The
server is arbitrary: it has a state of its own, and replies to any statement as it likes, by any rows or by
an error. To say something of every conversation an operation may lead to is to say it whatever the replies
are (`Always`), and that can be computed along the operation, one rule for each of its building blocks. What
always comes to pass comes to pass with every server (`Always.hold`).

## Contents
- `Exchange`, `SqlServer`, `hold` — the exchanges of a conversation, and its result; `hold_fst`.
- `Statement.rowFault?`, `Exchange.fault?` — what is wrong with a reply; `Exchange.Succeeds`,
  `Exchange.fault?_eq_none_iff`, `Exchange.not_succeeds`.
- `Always` — whatever the replies are; `always_bind`, `always_operation_bind`, `always_send`.
- `Always.hold` — a server is one way to reply.
-/

namespace GroupQueue.Sql

/-- A statement with the reply to it. -/
structure Exchange where
  statement : Statement
  reply : Except DatabaseFault Answer

/-- Any server: it has a state, and replies to every statement. -/
abbrev SqlServer (σ : Type) := Statement → StateM σ (Except DatabaseFault Answer)

/-- Hold a conversation with a server: the result, and the exchanges in order. -/
def hold {σ α : Type} (server : SqlServer σ) : SqlDialogue α → σ → α × List Exchange
  | .done a, _ => (a, [])
  | .ask (statement : Statement) next, s =>
    let (reply, after) := server statement s
    let (result, rest) := hold server (next reply) after
    (result, ⟨statement, reply⟩ :: rest)

/-- Looking at the exchanges changes no result. -/
theorem hold_fst {σ α : Type} (server : SqlServer σ) (d : SqlDialogue α) (s : σ) :
    (hold server d s).1 = (d.interpret (I := Statement.interface) (m := StateM σ) server s).1 := by
  induction d generalizing s with
  | done a => rfl
  | ask statement next ih => exact ih _ _

/-! ## Replies that are wrong -/

/-- What went wrong, if something did. -/
def faultOf {α : Type} : Except DatabaseFault α → Option DatabaseFault
  | .ok _ => none
  | .error fault => some fault

theorem faultOf_eq_none_iff {α : Type} {r : Except DatabaseFault α} :
    faultOf r = none ↔ ∃ a, r = .ok a := by
  cases r <;> simp [faultOf]

namespace Statement

/-- What is wrong with the rows that a statement of a plan is answered by, when they are read. The rows of
    all other statements are not looked at. -/
def rowFault? : Statement → List Row → Option DatabaseFault
  | members _, rows => faultOf (rows.mapM readMember)
  | score .., rows => faultOf (rows.head?.mapM fun row => row.integer 0)
  | isEmpty _, rows =>
    match rows.head? with
    | some row => faultOf (row.boolean 0)
    | none => some .noRow
  | _, _ => none

/-- The rows that a statement of a plan expects: for the members of a set, two integers in every row; for
    the score of an event, an integer in the first row, if there is one; for whether a set is empty, a truth
    value in the first row, and there must be one. -/
def Expects : Statement → List Row → Prop
  | members _, rows =>
    ∀ row ∈ rows, (∃ id, row[0]? = some (.integer id)) ∧ ∃ score, row[1]? = some (.integer score)
  | score .., rows => ∀ row ∈ rows.head?, ∃ score, row[0]? = some (.integer score)
  | isEmpty _, rows => ∃ row ∈ rows.head?, ∃ empty, row[0]? = some (.boolean empty)
  | _, _ => True

end Statement

theorem Row.integer_eq_ok_iff {row : Row} {column : Nat} {n : Int} :
    row.integer column = .ok n ↔ row[column]? = some (.integer n) := by
  unfold Row.integer
  cases row[column]? with
  | none => simp
  | some value => cases value <;> simp

theorem Row.boolean_eq_ok_iff {row : Row} {column : Nat} {b : Bool} :
    row.boolean column = .ok b ↔ row[column]? = some (.boolean b) := by
  unfold Row.boolean
  cases row[column]? with
  | none => simp
  | some value => cases value <;> simp

theorem readMember_isOk_iff {row : Row} :
    (∃ m, readMember row = .ok m)
      ↔ (∃ id, row[0]? = some (.integer id)) ∧ ∃ score, row[1]? = some (.integer score) := by
  simp only [← Row.integer_eq_ok_iff]
  unfold readMember
  cases row.integer 0 with
  | error fault => simp [bind, Except.bind]
  | ok id => cases row.integer 1 <;> simp [bind, Except.bind, pure, Except.pure]

theorem mapM_isOk_iff {α β ε : Type} {f : α → Except ε β} {as : List α} :
    (∃ bs, as.mapM f = .ok bs) ↔ ∀ a ∈ as, ∃ b, f a = .ok b := by
  induction as with
  | nil => simp [pure, Except.pure]
  | cons a as ih =>
      rw [List.forall_mem_cons, ← ih, List.mapM_cons]
      cases f a with
      | error fault => simp [bind, Except.bind]
      | ok b => cases as.mapM f <;> simp [bind, Except.bind, pure, Except.pure]

/-- **Nothing is wrong with the rows that a statement expects**, and only with those. -/
theorem Statement.rowFault?_eq_none_iff {statement : Statement} {rows : List Row} :
    statement.rowFault? rows = none ↔ statement.Expects rows := by
  cases statement with
  | members query =>
      rw [rowFault?, faultOf_eq_none_iff, mapM_isOk_iff]
      exact forall₂_congr fun row _ => readMember_isOk_iff
  | score key event =>
      rw [rowFault?, faultOf_eq_none_iff]
      cases hrow : rows.head? with
      | none => simp [Expects, hrow, pure, Except.pure]
      | some row =>
          simp only [Expects, hrow, Option.mem_some_iff, forall_eq', ← Row.integer_eq_ok_iff]
          cases h : row.integer 0 <;> simp [h, Functor.map, Except.map]
  | isEmpty key =>
      cases hrow : rows.head? with
      | none => simp [rowFault?, Expects, hrow]
      | some row =>
          simp [rowFault?, Expects, hrow, faultOf_eq_none_iff, Row.boolean_eq_ok_iff]
  | _ => exact ⟨fun _ => trivial, fun _ => rfl⟩

namespace Exchange

/-- What is wrong with a reply: the server reports an error, or the rows are not the expected ones. -/
def fault? (x : Exchange) : Option DatabaseFault :=
  match x.reply with
  | .ok answer => x.statement.rowFault? answer.rows
  | .error fault => some fault

/-- A statement succeeds when it is answered by the rows that it expects. -/
def Succeeds (x : Exchange) : Prop :=
  ∃ answer, x.reply = .ok answer ∧ x.statement.Expects answer.rows

theorem fault?_eq_none_iff {x : Exchange} : x.fault? = none ↔ x.Succeeds := by
  obtain ⟨statement, reply⟩ := x
  cases reply with
  | error fault => simp [fault?, Succeeds]
  | ok answer => simp [fault?, Succeeds, Statement.rowFault?_eq_none_iff]

theorem not_succeeds {x : Exchange} {fault : DatabaseFault} (h : x.fault? = some fault) :
    ¬ x.Succeeds := by
  rw [← fault?_eq_none_iff, h]
  exact nofun

end Exchange

/-! ## Whatever the replies are -/

/-- **What always comes to pass**: `post` holds of the exchanges and of the result, whatever the replies
    are. -/
def Always {α : Type} : SqlDialogue α → (List Exchange → α → Prop) → Prop
  | .done a, post => post [] a
  | .ask (statement : Statement) next, post =>
    ∀ reply, Always (next reply) fun rest a => post (⟨statement, reply⟩ :: rest) a

section Rules

variable {α β : Type}

@[simp] theorem always_done {a : α} {post : List Exchange → α → Prop} :
    Always (.done a) post ↔ post [] a := Iff.rfl

@[simp] theorem always_attempt {statement : Statement}
    {post : List Exchange → Except DatabaseFault Answer → Prop} :
    Always (attempt statement) post ↔ ∀ reply, post [⟨statement, reply⟩] reply := Iff.rfl

/-- The exchanges of a sequence are those of its first part, and then those of the second. -/
@[simp] theorem always_bind {d : SqlDialogue α} {f : α → SqlDialogue β}
    {post : List Exchange → β → Prop} :
    Always (d >>= f) post
      ↔ Always d fun sent a => Always (f a) fun rest b => post (sent ++ rest) b := by
  induction d generalizing post with
  | done a => exact Iff.rfl
  | ask statement next ih => exact forall_congr' fun reply => ih reply

theorem Always.mono {d : SqlDialogue α} {post post' : List Exchange → α → Prop} (h : Always d post)
    (himp : ∀ sent a, post sent a → post' sent a) : Always d post' := by
  induction d generalizing post post' with
  | done a => exact himp [] a h
  | ask statement next ih =>
      exact fun reply => ih reply (h reply) fun rest a => himp (⟨statement, reply⟩ :: rest) a

@[simp] theorem always_map {d : SqlDialogue α} {f : α → β} {post : List Exchange → β → Prop} :
    Always (f <$> d) post ↔ Always d fun sent a => post sent (f a) := by
  rw [map_eq_pure_bind, always_bind]
  simp

/-! ## Operations -/

/-- After a failure, the rest of an operation is left out. -/
@[simp] theorem always_operation_bind {x : SqlOperation α} {f : α → SqlOperation β}
    {post : List Exchange → Except Failure β → Prop} :
    Always (x >>= f).run post
      ↔ Always x.run fun sent result =>
          match result with
          | .ok a => Always (f a).run fun rest result => post (sent ++ rest) result
          | .error failure => post sent (.error failure) := by
  rw [ExceptT.run_bind, always_bind]
  constructor <;> intro h <;> refine h.mono fun sent result hresult => ?_ <;> cases result <;>
    simpa using hresult

@[simp] theorem always_operation_pure {a : α} {post : List Exchange → Except Failure α → Prop} :
    Always (pure a : SqlOperation α).run post ↔ post [] (.ok a) := Iff.rfl

@[simp] theorem always_throw {failure : Failure} {post : List Exchange → Except Failure α → Prop} :
    Always (throw failure : SqlOperation α).run post ↔ post [] (.error failure) := Iff.rfl

@[simp] theorem always_operation_map {x : SqlOperation α} {f : α → β}
    {post : List Exchange → Except Failure β → Prop} :
    Always (f <$> x).run post ↔ Always x.run fun sent result => post sent (result.map f) := by
  rw [ExceptT.run_map, always_map]

@[simp] theorem always_orFail {r : Except DatabaseFault α}
    {post : List Exchange → Except Failure α → Prop} :
    Always (orFail r).run post ↔ post [] (r.mapError Failure.database) := Iff.rfl

@[simp] theorem always_send {statement : Statement}
    {post : List Exchange → Except Failure Answer → Prop} :
    Always (send statement).run post
      ↔ ∀ reply, post [⟨statement, reply⟩] (reply.mapError Failure.database) := Iff.rfl

end Rules

/-- **With every server, that comes to pass which always does.** -/
theorem Always.hold {σ α : Type} {d : SqlDialogue α} {post : List Exchange → α → Prop}
    (h : Always d post) (server : SqlServer σ) (s : σ) :
    post (Sql.hold server d s).2 (Sql.hold server d s).1 := by
  induction d generalizing post s with
  | done a => exact h
  | ask statement next ih => exact ih _ (h _) _

end GroupQueue.Sql
