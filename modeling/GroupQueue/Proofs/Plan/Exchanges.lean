import GroupQueue.Proofs.Plan.Calls

/-!
# `Proofs.Plan.Exchanges` — the calls of a conversation with their replies

A conversation whose calls may fail is a sequence of **exchanges**, each a call with the reply to it. Whoever
replies is arbitrary: it has a state of its own, and may answer or fail any call. Writing the exchanges down
(`Dialogue.logging`) changes no reply. What is written down then tells all about the run: every call but the
last one was answered, and if the last one failed, its failure is the result (`upToFailure_trace`).

The calls that come before a failure do not depend on it: if some call of a run is made to fail
(`Dialogue.failingAt`), everything before it is as in the run itself (`trace_failingAt`).

## Contents
- `Dialogue.Exchange`, `Exchange.Succeeds`, `Dialogue.logging`, `Dialogue.trace` — the exchanges of a
  conversation, and its result; `trace_ask` — how it goes on; `fst_trace`, `trace_map`.
- `Dialogue.UpToFailure` — up to the first failure; `upToFailure_trace`.
- `AsksOnly.trace` — what a dialogue asks for is what is written down.
- `Dialogue.failingAt` — make one call fail; `trace_failingAt`.
-/

namespace GroupQueue.Dialogue

variable {I : Interface} {α ε σ : Type}

/-! ## Exchanges -/

/-- A call with the reply to it, which may be a failure. -/
structure Exchange (I : Interface) (ε : Type) where
  call : I.Call
  reply : Except ε (I.Reply call)

/-- The call is answered. -/
def Exchange.Succeeds (x : Exchange I ε) : Prop := ∃ reply, x.reply = .ok reply

/-- Reply as before, and write down every call with its reply, the last one last. -/
def logging (answer : (c : I.Call) → ExceptT ε (StateM σ) (I.Reply c)) (c : I.Call) :
    ExceptT ε (StateM (σ × List (Exchange I ε))) (I.Reply c) :=
  ExceptT.mk fun (s, log) =>
    (((answer c).run s).1, (((answer c).run s).2, log ++ [⟨c, ((answer c).run s).1⟩]))

/-- Hold a conversation: the result, and the exchanges in order. -/
def trace (answer : (c : I.Call) → ExceptT ε (StateM σ) (I.Reply c)) (d : Dialogue I α) (s : σ) :
    Except ε α × List (Exchange I ε) :=
  (((d.interpret (logging answer)).run (s, [])).1, ((d.interpret (logging answer)).run (s, [])).2.2)

section Trace

variable {answer : (c : I.Call) → ExceptT ε (StateM σ) (I.Reply c)} {s after : σ}

theorem run_logging_ask (c : I.Call) (next : I.Reply c → Dialogue I α) (s : σ)
    (log : List (Exchange I ε)) :
    ((ask c next).interpret (logging answer)).run (s, log)
      = match (answer c).run s with
        | (.ok reply, after) =>
          ((next reply).interpret (logging answer)).run (after, log ++ [⟨c, .ok reply⟩])
        | (.error failure, after) => (.error failure, (after, log ++ [⟨c, .error failure⟩])) := by
  have hlogged : (logging answer c).run (s, log)
      = (((answer c).run s).1, (((answer c).run s).2, log ++ [⟨c, ((answer c).run s).1⟩])) := rfl
  rw [interpret_ask, run_bind, hlogged]
  obtain ⟨reply, after⟩ := (answer c).run s
  cases reply <;> rfl

variable (answer) in
/-- What has been written down before stays, and has no influence on what follows. -/
theorem run_logging (d : Dialogue I α) (s : σ) (log : List (Exchange I ε)) :
    ((d.interpret (logging answer)).run (s, log)).1 = (d.trace answer s).1
      ∧ ((d.interpret (logging answer)).run (s, log)).2.2 = log ++ (d.trace answer s).2 := by
  unfold trace
  induction d generalizing s log with
  | done a => exact ⟨rfl, (List.append_nil log).symm⟩
  | ask c next ih =>
      rw [run_logging_ask, run_logging_ask]
      obtain ⟨reply, after⟩ := (answer c).run s
      cases reply with
      | ok reply =>
          let x : Exchange I ε := ⟨c, .ok reply⟩
          obtain ⟨hresult, hlog⟩ := ih reply after (log ++ [x])
          obtain ⟨hresult', hlog'⟩ := ih reply after ([] ++ [x])
          refine ⟨hresult.trans hresult'.symm, hlog.trans ?_⟩
          rw [List.append_assoc]
          exact congrArg (log ++ ·) hlog'.symm
      | error failure => exact ⟨rfl, rfl⟩

@[simp] theorem trace_done (a : α) : (done a : Dialogue I α).trace answer s = (.ok a, []) := rfl

/-- A conversation goes on as the reply to its first call says, and ends if that call fails. -/
theorem trace_ask (c : I.Call) (next : I.Reply c → Dialogue I α) (s : σ) :
    (ask c next).trace answer s
      = match (answer c).run s with
        | (.ok reply, after) =>
          (((next reply).trace answer after).1, ⟨c, .ok reply⟩ :: ((next reply).trace answer after).2)
        | (.error failure, _) => (.error failure, [⟨c, .error failure⟩]) := by
  rw [trace, run_logging_ask]
  obtain ⟨reply, after⟩ := (answer c).run s
  cases reply with
  | ok reply =>
      obtain ⟨hresult, hlog⟩ := run_logging answer (next reply) after [⟨c, .ok reply⟩]
      exact Prod.ext hresult hlog
  | error failure => rfl

/-- **Writing down the exchanges changes no result.** -/
theorem fst_trace (d : Dialogue I α) (s : σ) :
    (d.trace answer s).1 = ((d.interpret answer).run s).1 := by
  induction d generalizing s with
  | done a => rfl
  | ask c next ih =>
      rw [trace_ask, interpret_ask, run_bind]
      obtain ⟨reply, after⟩ := (answer c).run s
      cases reply with
      | ok reply => exact ih reply after
      | error failure => rfl

/-- A function of the result changes no exchange. -/
theorem trace_map {β : Type} (f : α → β) (d : Dialogue I α) (s : σ) :
    (f <$> d).trace answer s = ((d.trace answer s).1.map f, (d.trace answer s).2) := by
  rw [map_eq_pure_bind]
  induction d generalizing s with
  | done a => rfl
  | ask c next ih =>
      rw [ask_bind, trace_ask, trace_ask]
      obtain ⟨reply, after⟩ := (answer c).run s
      cases reply with
      | ok reply =>
          dsimp only
          rw [ih reply after]
      | error failure => rfl

/-! ## Up to the first failure -/

/-- All calls are answered and the conversation comes to its end; or the last call is the only one that fails,
    and its failure is the result. -/
inductive UpToFailure : Except ε α → List (Exchange I ε) → Prop
  | complete {log : List (Exchange I ε)} (a : α) (hlog : ∀ x ∈ log, x.Succeeds) : UpToFailure (.ok a) log
  | broken {before : List (Exchange I ε)} (c : I.Call) (failure : ε) (hbefore : ∀ x ∈ before, x.Succeeds) :
      UpToFailure (.error failure) (before ++ [⟨c, .error failure⟩])

theorem UpToFailure.cons {result : Except ε α} {log : List (Exchange I ε)} (h : UpToFailure result log)
    {x : Exchange I ε} (hx : x.Succeeds) : UpToFailure result (x :: log) := by
  cases h with
  | complete a hlog => exact .complete a (List.forall_mem_cons.mpr ⟨hx, hlog⟩)
  | @broken before c failure hbefore =>
      rw [← List.cons_append]
      exact .broken c failure (List.forall_mem_cons.mpr ⟨hx, hbefore⟩)

variable (answer) in
/-- **Every conversation goes on up to the first call that fails**, by induction on its tree. -/
theorem upToFailure_trace (d : Dialogue I α) (s : σ) :
    UpToFailure (d.trace answer s).1 (d.trace answer s).2 := by
  induction d generalizing s with
  | done a => exact .complete a nofun
  | ask c next ih =>
      rw [trace_ask]
      obtain ⟨reply, after⟩ := (answer c).run s
      cases reply with
      | ok reply => exact (ih reply after).cons ⟨reply, rfl⟩
      | error failure => exact @UpToFailure.broken I α ε [] c failure nofun

/-- A call that fails is the last one, and the first one to fail, and its failure is the result. -/
theorem UpToFailure.of_error {result : Except ε α} {log before after : List (Exchange I ε)} {c : I.Call}
    {failure : ε} (h : UpToFailure result log) (hlog : log = before ++ ⟨c, .error failure⟩ :: after) :
    result = .error failure ∧ after = [] ∧ ∀ x ∈ before, x.Succeeds := by
  have hfails : ¬ Exchange.Succeeds (⟨c, .error failure⟩ : Exchange I ε) := fun ⟨_, hreply⟩ => nomatch hreply
  cases h with
  | complete a hall =>
      subst hlog
      exact absurd (hall _ (List.mem_append_right _ List.mem_cons_self)) hfails
  | @broken first last failure' hfirst =>
      rcases List.eq_nil_or_concat after with rfl | ⟨rest, y, rfl⟩
      · obtain ⟨rfl, hlast⟩ := List.append_inj' hlog rfl
        cases List.singleton_inj.mp hlast
        exact ⟨rfl, rfl, hfirst⟩
      · -- one that comes before the last one does not fail
        rw [List.concat_eq_append, ← List.cons_append, ← List.append_assoc] at hlog
        obtain ⟨rfl, -⟩ := List.append_inj' hlog rfl
        exact absurd (hfirst _ (List.mem_append_right _ List.mem_cons_self)) hfails

/-- If no call fails, the conversation comes to its end. -/
theorem UpToFailure.of_succeeds {result : Except ε α} {log : List (Exchange I ε)} (h : UpToFailure result log)
    (hlog : ∀ x ∈ log, x.Succeeds) : ∃ a, result = .ok a := by
  cases h with
  | complete a => exact ⟨a, rfl⟩
  | broken c failure =>
      obtain ⟨reply, hreply⟩ := hlog _ (List.mem_append_right _ List.mem_cons_self)
      exact nomatch hreply

/-! ## What is written down -/

variable (answer) in
/-- **Whatever the replies are, only allowed calls are made.** -/
theorem AsksOnly.trace {allowed : I.Call → Prop} {d : Dialogue I α} (h : d.AsksOnly allowed) (s : σ) :
    ∀ x ∈ (d.trace answer s).2, allowed x.call := by
  induction d generalizing s with
  | done a => exact nofun
  | ask c next ih =>
      rw [trace_ask]
      obtain ⟨reply, after⟩ := (answer c).run s
      cases reply with
      | ok reply => exact List.forall_mem_cons.mpr ⟨h.1, ih reply (h.2 reply) after⟩
      | error failure => exact List.forall_mem_singleton.mpr h.1

end Trace

/-! ## One call that fails -/

/-- Reply as before, but fail the call that `n` others come before. The calls made so far are counted. -/
def failingAt (n : Nat) (failure : ε) (answer : (c : I.Call) → ExceptT ε (StateM σ) (I.Reply c)) (c : I.Call) :
    ExceptT ε (StateM (Nat × σ)) (I.Reply c) :=
  ExceptT.mk fun (made, s) =>
    if made = n then (.error failure, (made + 1, s))
    else (((answer c).run s).1, (made + 1, ((answer c).run s).2))

section FailingAt

variable {answer : (c : I.Call) → ExceptT ε (StateM σ) (I.Reply c)} {failure : ε} {n made : Nat} {s : σ}

theorem run_failingAt_self (c : I.Call) :
    (failingAt n failure answer c).run (n, s) = (.error failure, (n + 1, s)) := if_pos rfl

theorem run_failingAt_of_ne (h : made ≠ n) (c : I.Call) :
    (failingAt n failure answer c).run (made, s)
      = (((answer c).run s).1, (made + 1, ((answer c).run s).2)) := if_neg h

variable (answer failure) in
/-- **If a call is made to fail, the run ends there, and is the same up to there.** If there is no such call, the
    run stays as it is. By induction on the tree of the conversation, with any number of calls before it. -/
theorem trace_failingAt (d : Dialogue I α) (s : σ) (made k : Nat) :
    (∀ x, (d.trace answer s).2[k]? = some x →
        d.trace (failingAt (made + k) failure answer) (made, s)
          = (.error failure, (d.trace answer s).2.take k ++ [⟨x.call, .error failure⟩]))
      ∧ ((d.trace answer s).2[k]? = none →
          d.trace (failingAt (made + k) failure answer) (made, s) = d.trace answer s) := by
  induction d generalizing s made k with
  | done a => exact ⟨nofun, fun _ => rfl⟩
  | ask c next ih =>
      rw [trace_ask, trace_ask]
      cases k with
      | zero =>
          -- the call that fails is the next one, however it was replied to
          rw [Nat.add_zero, run_failingAt_self]
          obtain ⟨reply, after⟩ := (answer c).run s
          cases reply <;> exact ⟨fun x hx => Option.some.inj hx ▸ rfl, nofun⟩
      | succ k =>
          rw [run_failingAt_of_ne (by omega)]
          obtain ⟨reply, after⟩ := (answer c).run s
          cases reply with
          | ok reply =>
              have hcount : made + (k + 1) = made + 1 + k := by omega
              obtain ⟨hbroken, hsame⟩ := ih reply after (made + 1) k
              dsimp only
              rw [hcount, List.getElem?_cons_succ]
              refine ⟨fun x hx => ?_, fun hnone => ?_⟩
              · rw [hbroken x hx]
                rfl
              · rw [hsame hnone]
          | error failure => exact ⟨nofun, fun _ => rfl⟩

end FailingAt

end GroupQueue.Dialogue
