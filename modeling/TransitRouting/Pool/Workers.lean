import TransitRouting.Pool.Semaphore
import TransitRouting.Pool.Error
import TransitRouting.Service.Handle

/-!
# The worker pool

A pool has a fixed number of workers, each with its own scenario and engine. Workers start
cold; warming the pool builds every worker's scenario once, and if any worker fails the pool
stays unusable (and cannot be warmed again). The error reported is that of the failing worker
with the lowest id.

Requests enter through a semaphore with one permit per worker. A call holding a permit takes
the worker on top of the idle stack, the worker answers, and the call gives the worker back:
first onto the idle stack, then the permit, so a permit holder always finds an idle worker.
Answered requests leave their profiling entry in the pool's registry.

Draining waits until every worker is idle (all permits free), then takes all permits for good
and closes the semaphore, so later calls are refused. Draining a closed pool does nothing. The
permits are asked for in one 32-bit request; a pool of 2^32 workers or more cannot make it and
is closed at once, with its workers still busy.

Each step here is atomic. A step that would wait returns `none`: `takePermit` while every
permit is taken, `drain` while a worker is busy. Calls made one after another never wait,
because every call gives its permit back before it returns.

## What this module delivers

- `EngineFactory`, `Phase`, `WorkerPool` with `WorkerPool.new`, `isWarm`, `isClosed`.
- The atomic steps `takePermit`, `checkOut`, `serve`, `pushIdle`, `releasePermit`, and
  `checkIn` (push, then release).
- `warmAll`, `route`, `drain`.
-/

set_option autoImplicit false

namespace TransitRouting

/-- How workers get their scenario (by worker id) and the walking model of every engine. -/
structure EngineFactory where
  materialize : Nat → Except EngineError Scenario
  params : WalkParams

/-- Where the workers of a pool are in their life. -/
inductive Phase where
  /-- Not warmed yet. -/
  | cold
  /-- Warming up failed; the pool never serves. -/
  | failed
  /-- Every worker is ready, listed by id. -/
  | warm (workers : List RouteService)

/-- A fixed-size pool of routing workers. -/
structure WorkerPool where
  size : Nat
  factory : EngineFactory
  ids : IdRegistry
  profiling : ProfilingRegistry
  phase : Phase
  /-- The idle workers, top of the stack first. -/
  idle : List Nat
  permits : Semaphore

namespace WorkerPool

/-- A cold pool of `size` workers; refused when there are none. -/
def new (size : Nat) (factory : EngineFactory) (ids : IdRegistry) (profiling : ProfilingRegistry) :
    Except PoolError WorkerPool :=
  if size = 0 then .error .noWorkers
  else .ok { size, factory, ids, profiling, phase := .cold, idle := [],
             permits := Semaphore.new size }

/-- Whether the workers are ready. -/
def isWarm (p : WorkerPool) : Bool :=
  match p.phase with
  | .warm _ => true
  | _ => false

/-- Whether the pool refuses new requests. -/
def isClosed (p : WorkerPool) : Bool := p.permits.closed

/-- The services of workers `start, …, start + n - 1`, or the first worker that fails. -/
def materializeFrom (f : EngineFactory) (ids : IdRegistry) (start : Nat) :
    Nat → Except (Nat × EngineError) (List RouteService)
  | 0 => .ok []
  | n + 1 =>
    match f.materialize start with
    | .error e => .error (start, e)
    | .ok scenario =>
      match materializeFrom f ids (start + 1) n with
      | .error e => .error e
      | .ok rest => .ok (RouteService.new start scenario f.params ids :: rest)

/-- Warm every worker. On success every worker is idle, worker 0 on top. -/
def warmAll (p : WorkerPool) : Except PoolError Unit × WorkerPool :=
  match p.phase with
  | .cold =>
    match materializeFrom p.factory p.ids 0 p.size with
    | .error (worker, e) => (.error (.warmup worker e), { p with phase := .failed })
    | .ok workers =>
      (.ok (), { p with phase := .warm workers, idle := List.range p.size ++ p.idle })
  | _ => (.error .alreadyWarm, p)

/-- Take a permit for a call: refused when closed, `none` while every permit is taken. -/
def takePermit (p : WorkerPool) : Option (Except PoolError WorkerPool) :=
  match p.permits.acquire 1 with
  | .granted s => some (.ok { p with permits := s })
  | .blocked => none
  | .refused => some (.error .closed)

/-- Take the worker on top of the idle stack. -/
def checkOut (p : WorkerPool) : Except PoolError (Nat × WorkerPool) :=
  match p.idle with
  | worker :: rest => .ok (worker, { p with idle := rest })
  | [] => .error .noIdleWorker

/-- A worker answers a request; an answered request leaves its profiling entry. Gives the
answer with its entry, the worker's service after it, and the pool. -/
def serve (p : WorkerPool) (svc : RouteService) (req : Wire.Request) :
    Except RouteError (Wire.Response × ProfilingEntry) × RouteService × WorkerPool :=
  match svc.handle req with
  | (.ok (resp, entry), svc) =>
    (.ok (resp, entry), svc, { p with profiling := p.profiling.record entry })
  | (.error e, svc) => (.error e, svc, p)

/-- Put a worker back on top of the idle stack. -/
def pushIdle (p : WorkerPool) (worker : Nat) : WorkerPool := { p with idle := worker :: p.idle }

/-- Give one permit back. -/
def releasePermit (p : WorkerPool) : WorkerPool := { p with permits := p.permits.release 1 }

/-- Give a worker back: onto the idle stack, then its permit. -/
def checkIn (p : WorkerPool) (worker : Nat) : WorkerPool := (p.pushIdle worker).releasePermit

/-- Route a request on the next free worker; `none` while the call would wait for a permit. -/
def route (p : WorkerPool) (req : Wire.Request) :
    Option (Except PoolError Wire.Response × WorkerPool) :=
  match p.phase with
  | .warm workers =>
    match p.takePermit with
    | none => none
    | some (.error e) => some (.error e, p)
    | some (.ok holding) =>
      match holding.checkOut with
      | .error e => some (.error e, holding.releasePermit)
      | .ok (worker, busy) =>
        match workers[worker]? with
        | none => some (.error (.workerLost worker), busy.checkIn worker)
        | some svc =>
          let (answer, svc, served) := busy.serve svc req
          some ((answer.map Prod.fst).mapError .route,
            { served.checkIn worker with phase := .warm (workers.set worker svc) })
  | _ => some (.error .notWarm, p)

/-- Wait until every worker is idle, then keep all permits and close; nothing when closed.
`none` while some worker is busy. A pool with no worker, or with more than a 32-bit request for
permits can ask for, is closed at once without waiting. -/
def drain (p : WorkerPool) : Option WorkerPool :=
  if p.size = 0 then some { p with permits := p.permits.close }
  else if Nat.pow 2 32 ≤ p.size then some { p with permits := p.permits.close }
  else
    match p.permits.acquire p.size with
    | .granted s => some { p with permits := s.close }
    | .refused => some p
    | .blocked => none

end WorkerPool

end TransitRouting
