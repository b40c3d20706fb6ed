import TransitRouting.Service.Error

/-!
# Pool errors and call statuses

The worker pool fails a call when it has no workers, when warming up fails or is repeated,
when it is not warm yet or no longer admits requests, when a permit finds no idle worker or a
worker is gone, and when the request itself fails.

Calls over the network answer failures with a status: a code and a message. A request's own
error keeps its code (invalid argument for link errors, internal otherwise); a pool that is
not warm or is shutting down is unavailable; everything else is internal.

## What this module delivers

- `PoolError` with `PoolError.variant` and `PoolError.message`.
- `Status`, `RouteError.toStatus`, `PoolError.toStatus`.
-/

set_option autoImplicit false

namespace TransitRouting

/-- Errors of the worker pool. -/
inductive PoolError where
  /-- A pool needs at least one worker. -/
  | noWorkers
  /-- A worker could not build its scenario and engine. -/
  | warmup (worker : Nat) (source : EngineError)
  /-- Warming up was already done (or tried). -/
  | alreadyWarm
  /-- A request came before the workers were warm. -/
  | notWarm
  /-- The pool no longer admits requests. -/
  | closed
  /-- A permit was granted but no worker was idle. -/
  | noIdleWorker
  /-- The worker is gone. -/
  | workerLost (worker : Nat)
  /-- The request itself failed. -/
  | route (e : RouteError)
deriving Repr, DecidableEq

namespace PoolError

/-- The name of the kind of error. -/
def variant : PoolError → String
  | .noWorkers => "NoWorkers"
  | .warmup .. => "Warmup"
  | .alreadyWarm => "AlreadyWarm"
  | .notWarm => "NotWarm"
  | .closed => "Closed"
  | .noIdleWorker => "NoIdleWorker"
  | .workerLost _ => "WorkerLost"
  | .route _ => "Route"

/-- The error text; a request's error speaks for itself. -/
def message : PoolError → String
  | .noWorkers => "worker pool must have at least one worker"
  | .warmup worker source =>
    "worker " ++ toString worker ++ " failed to warm up: " ++ source.message
  | .alreadyWarm => "worker pool is already warm"
  | .notWarm => "worker pool is not warm"
  | .closed => "worker pool is shutting down"
  | .noIdleWorker => "no idle worker despite a free permit"
  | .workerLost worker => "worker " ++ toString worker ++ " is no longer running"
  | .route e => e.message

end PoolError

/-- How a failed call is answered over the network. -/
structure Status where
  /-- The name of the status code. -/
  code : String
  message : String
deriving Repr, DecidableEq

/-- The status of a failed request. -/
def RouteError.toStatus (e : RouteError) : Status := ⟨e.status, e.message⟩

/-- The status of a failed pool call. -/
def PoolError.toStatus : PoolError → Status
  | .route e => e.toStatus
  | .closed => ⟨"Unavailable", PoolError.closed.message⟩
  | .notWarm => ⟨"Unavailable", PoolError.notWarm.message⟩
  | e => ⟨"Internal", e.message⟩

end TransitRouting
