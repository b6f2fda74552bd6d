/-!
# `GroupQueue.Dialogue` — operations as conversations with a backing service

An operation that needs a service (the event sets of a transaction, a store, a database server) is
a **dialogue**: a finite tree of calls, each continued by the reply it gets, that ends in a result.
The tree fixes which calls are made after which replies; who answers them is chosen later. One plan
evaluator therefore serves memory, a scripted transaction and a database alike.

## Contents
- `Interface` — the calls of a service and the type of reply each one gets.
- `Dialogue` — the trees, with their monad structure (`LawfulMonad`).
- `Dialogue.interpret` — answer every call in a monad of the reader's choice, with its laws
  `interpret_done`, `interpret_call` and `interpret_bind`.
-/

namespace GroupQueue

/-- The calls a service understands, and the type of reply to each of them. -/
structure Interface where
  Call : Type
  Reply : Call → Type

/-- A conversation over `I` that ends in an `α`. -/
inductive Dialogue (I : Interface) (α : Type) : Type where
  /-- Nothing more to ask. -/
  | done (result : α)
  /-- Make `call` and go on as its reply says. -/
  | ask (call : I.Call) (next : I.Reply call → Dialogue I α)

namespace Dialogue

variable {I : Interface} {α β γ : Type}

/-! ## Sequencing -/

/-- Hold one conversation, then the one its result leads to. -/
def bind : Dialogue I α → (α → Dialogue I β) → Dialogue I β
  | done a, f => f a
  | ask c next, f => ask c fun r => (next r).bind f

instance : Monad (Dialogue I) where
  pure := done
  bind := bind

/-- The dialogue that makes one call and ends in its reply. -/
def call (c : I.Call) : Dialogue I (I.Reply c) :=
  ask c done

@[simp] theorem pure_eq_done (a : α) : (pure a : Dialogue I α) = done a := rfl

@[simp] theorem done_bind (a : α) (f : α → Dialogue I β) : (done a >>= f) = f a := rfl

@[simp] theorem ask_bind (c : I.Call) (next : I.Reply c → Dialogue I α) (f : α → Dialogue I β) :
    (ask c next >>= f) = ask c fun r => next r >>= f := rfl

@[simp] theorem call_bind (c : I.Call) (f : I.Reply c → Dialogue I β) :
    (call c >>= f) = ask c f := rfl

theorem bind_done (d : Dialogue I α) : d >>= done = d := by
  induction d with
  | done a => rfl
  | ask c next ih => exact congrArg (ask c) (funext ih)

theorem bind_assoc (d : Dialogue I α) (f : α → Dialogue I β) (g : β → Dialogue I γ) :
    d >>= f >>= g = d >>= fun a => f a >>= g := by
  induction d with
  | done a => rfl
  | ask c next ih => exact congrArg (ask c) (funext ih)

instance : LawfulMonad (Dialogue I) :=
  LawfulMonad.mk' (Dialogue I) bind_done (fun _ _ => rfl) bind_assoc

/-! ## Answering the calls -/

/-- Answer every call of the dialogue with `answer`, in order. -/
def interpret {m : Type → Type} [Monad m] (answer : (c : I.Call) → m (I.Reply c)) :
    Dialogue I α → m α
  | done a => pure a
  | ask c next => answer c >>= fun r => (next r).interpret answer

section Laws

variable {m : Type → Type} [Monad m] (answer : (c : I.Call) → m (I.Reply c))

@[simp] theorem interpret_done (a : α) : (done a : Dialogue I α).interpret answer = pure a := rfl

@[simp] theorem interpret_ask (c : I.Call) (next : I.Reply c → Dialogue I α) :
    (ask c next).interpret answer = answer c >>= fun r => (next r).interpret answer := rfl

variable [LawfulMonad m]

@[simp] theorem interpret_call (c : I.Call) : (call c).interpret answer = answer c := by
  simp [call]

/-- Answering a sequence is answering its parts in sequence. -/
@[simp] theorem interpret_bind (d : Dialogue I α) (f : α → Dialogue I β) :
    (d >>= f).interpret answer = d.interpret answer >>= fun a => (f a).interpret answer := by
  induction d with
  | done a => simp
  | ask c next ih => simp [ih]

@[simp] theorem interpret_map (f : α → β) (d : Dialogue I α) :
    (f <$> d).interpret answer = f <$> d.interpret answer := by
  rw [map_eq_pure_bind, interpret_bind, map_eq_pure_bind]
  rfl

end Laws

end Dialogue

end GroupQueue
