/-!
# Closable counting semaphores

A semaphore hands out permits, up to the number it holds. Asking for more than are free makes
the caller wait; once the semaphore is closed, every request for permits is refused, whether
it was waiting or new. Permits given back are counted again; permits a holder keeps for good
are simply never given back.

## What this module delivers

- `Semaphore` with `Semaphore.new`, `acquire`, `release`, `close`.
- `Grant`: the outcome of asking for permits.
-/

set_option autoImplicit false

namespace TransitRouting

/-- A counting semaphore that can be closed. -/
structure Semaphore where
  /-- Permits free to be taken. -/
  available : Nat
  /-- Whether requests are refused. -/
  closed : Bool := false
deriving Repr, DecidableEq

/-- The outcome of asking a semaphore for permits. -/
inductive Grant where
  /-- The permits are taken; the semaphore as it is afterwards. -/
  | granted (s : Semaphore)
  /-- Not enough permits are free: the caller waits. -/
  | blocked
  /-- The semaphore is closed. -/
  | refused
deriving Repr, DecidableEq

namespace Semaphore

/-- An open semaphore holding `n` permits. -/
def new (n : Nat) : Semaphore := { available := n }

/-- Ask for `k` permits. -/
def acquire (s : Semaphore) (k : Nat) : Grant :=
  if s.closed then .refused
  else if k ≤ s.available then .granted { s with available := s.available - k }
  else .blocked

/-- Give `k` permits back. -/
def release (s : Semaphore) (k : Nat) : Semaphore := { s with available := s.available + k }

/-- Refuse every request from now on. -/
def close (s : Semaphore) : Semaphore := { s with closed := true }

end Semaphore

end TransitRouting
