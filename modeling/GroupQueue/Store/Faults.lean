import GroupQueue.Store.Interface

/-!
# `GroupQueue.Store.Faults` — calls that are made to fail

A pending fault lets a number of calls of one kind pass and makes the next one fail, once. Of several
pending faults of one kind, the earliest counts alone until it has come true.

## Contents
- `PendingFault`, and `PendingFault.next`, which decides about one call.
-/

namespace GroupQueue

/-- A fault that is still to come. -/
structure PendingFault where
  method : StoreMethod
  /-- The number of calls that pass before. -/
  skip : Nat
deriving DecidableEq, Repr

/-- Whether a call of a given kind fails, and the faults still to come after it. -/
def PendingFault.next (method : StoreMethod) : List PendingFault → Bool × List PendingFault
  | [] => (false, [])
  | fault :: rest =>
    if fault.method = method then
      match fault.skip with
      | 0 => (true, rest)
      | skip + 1 => (false, { fault with skip } :: rest)
    else
      let (fails, rest) := next method rest
      (fails, fault :: rest)

end GroupQueue
