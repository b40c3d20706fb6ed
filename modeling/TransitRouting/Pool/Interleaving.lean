import TransitRouting.Pool.Server

/-!
# Concurrent calls on a routing server

Route calls and shutdown calls run concurrently against one server. Every call advances in
atomic steps, and the steps of different calls interleave in any order.

A route call first checks that the pool is warm, then takes a permit, or is refused when the
semaphore is closed. Holding a permit, it takes the worker on top of the idle stack and sends
it the job. The worker answers, leaving the profiling entry of an answered request, and sends
the reply: from then on the caller has its result. The worker then gives itself back in two
more steps, first onto the idle stack and then its permit. A route call's steps are exactly
those of `WorkerPool.route`, taken one at a time.

A shutdown call goes to the server's once-cell. The first call that finds the cell empty runs
its initializer: drain the pool, then write the profiling table and fill the cell. A call that
finds the initializer running waits for the cell, and a call that finds it filled reads it at
once. Every call answers with the cell's outcome.

Permits go to waiting callers in no particular order here. The semaphore serves its waiters
first come, first served, and that only picks some of the interleavings this model already
has. Workers never panic, since the engine is total. Draining asks the semaphore for all the
pool's permits at once; a pool of 2^32 workers or more cannot make that request and closes
without waiting (`WorkerPool.drain`).

## What this module delivers

- `CallStage`, `RouteCall`, `ShutdownStage`, `ServerState` with `ServerState.start`.
- The steps of a route call: `acquire`, `pop`, `send`, `serve`, `push`, `release`.
- The steps of a shutdown call: `enter`, `drain`, `flush`, `wake`.
- `ServerEvent`, `ServerState.step` and `ServerState.run`.
-/

set_option autoImplicit false

namespace TransitRouting

/-- Where a route call is, from the moment it is made until its worker and permit are back. -/
inductive CallStage where
  /-- Made; waiting for a permit. -/
  | waiting
  /-- Holds a permit and no worker yet. -/
  | permitted
  /-- Holds a permit and worker `worker`; the job is not sent yet. -/
  | checkedOut (worker : Nat)
  /-- The job is with worker `worker`. -/
  | sent (worker : Nat)
  /-- Worker `worker` has replied and still holds the checkout. -/
  | replied (worker : Nat)
  /-- Worker `worker` is back on the idle stack; the permit is not given back yet. -/
  | pushed (worker : Nat)
  /-- Over: the call holds nothing. -/
  | done
deriving Repr, DecidableEq

namespace CallStage

/-- The worker a call holds, from taking it off the idle stack until pushing it back. -/
def worker? : CallStage → Option Nat
  | .checkedOut w | .sent w | .replied w => some w
  | _ => none

/-- Whether the call holds a permit. -/
def holdsPermit : CallStage → Bool
  | .waiting | .done => false
  | _ => true

end CallStage

/-- A route call: its request, where it is, and what it returned once it has. A call that a
worker served remembers the worker and the worker's full answer, profiling entry included. -/
structure RouteCall where
  request : Wire.Request
  stage : CallStage := .waiting
  result : Option (Except PoolError Wire.Response) := none
  servedBy : Option Nat := none
  answer : Option (Except RouteError (Wire.Response × ProfilingEntry)) := none

/-- The outcome of writing the profiling table on shutdown: the table's lines, if any were
written, or the error. -/
abbrev FlushOutcome := Except ServerError (Option (List (List String)))

/-- What a shutdown call answers: the flushed table's lines, if any were written. -/
abbrev ShutdownAnswer := Except Status (Option (List (List String)))

/-- Where a shutdown call is. -/
inductive ShutdownStage where
  /-- Made; not at the once-cell yet. -/
  | calling
  /-- Runs the cell's initializer and waits for the pool to drain. -/
  | draining
  /-- Runs the cell's initializer; the pool is drained, the table not written yet. -/
  | flushing
  /-- Waits for another call's initializer to fill the cell. -/
  | awaiting
  /-- Has answered. -/
  | returned (answer : ShutdownAnswer)

/-- Whether a shutdown call is running the once-cell's initializer. -/
def ShutdownStage.initializes : ShutdownStage → Bool
  | .draining | .flushing => true
  | _ => false

/-- A server with the route calls and shutdown calls made on it, each numbered by the order it
was made in. -/
structure ServerState where
  server : RoutingServer
  calls : List RouteCall := []
  shutdowns : List ShutdownStage := []

/-- One atomic step of some call. -/
inductive ServerEvent where
  /-- A route call is made. -/
  | call (req : Wire.Request)
  /-- Route call `i` checks the pool and asks for a permit. -/
  | acquire (i : Nat)
  /-- Route call `i` takes the worker on top of the idle stack. -/
  | pop (i : Nat)
  /-- Route call `i` sends its job to its worker. -/
  | send (i : Nat)
  /-- The worker of route call `i` answers and replies. -/
  | serve (i : Nat)
  /-- The worker of route call `i` goes back onto the idle stack. -/
  | push (i : Nat)
  /-- The permit of route call `i` is given back. -/
  | release (i : Nat)
  /-- A shutdown call is made. -/
  | shutdown
  /-- Shutdown call `j` reaches the once-cell. -/
  | enter (j : Nat)
  /-- Shutdown call `j` drains the pool. -/
  | drain (j : Nat)
  /-- Shutdown call `j` writes the profiling table and fills the cell. -/
  | flush (j : Nat)
  /-- Shutdown call `j` reads the filled cell. -/
  | wake (j : Nat)

namespace ServerState

/-- A server no call has been made on yet. -/
def start (server : RoutingServer) : ServerState := { server }

/-- The server's worker pool. -/
def pool (s : ServerState) : WorkerPool := s.server.pool

/-- Replace route call `i`. -/
def setCall (s : ServerState) (i : Nat) (c : RouteCall) : ServerState :=
  { s with calls := s.calls.set i c }

/-- Replace the worker pool. -/
def withPool (s : ServerState) (p : WorkerPool) : ServerState :=
  { s with server := { s.server with pool := p } }

/-- Fill the server's once-cell. -/
def withOutcome (s : ServerState) (o : FlushOutcome) : ServerState :=
  { s with server := { s.server with outcome := some o } }

/-- Move shutdown call `j` on. -/
def setShutdown (s : ServerState) (j : Nat) (st : ShutdownStage) : ServerState :=
  { s with shutdowns := s.shutdowns.set j st }

/-! ## Route calls

Each step looks at one route call and at the pool, and does nothing (`none`) unless the call is
at the stage the step starts from. The steps follow `WorkerPool.route`. -/

/-- A waiting call checks that the pool is warm and asks for a permit: refused when closed,
`none` while every permit is taken. -/
def acquire (s : ServerState) (i : Nat) : Option ServerState :=
  match s.calls[i]? with
  | some c =>
    match c.stage with
    | .waiting =>
      if s.pool.isWarm then
        match s.pool.takePermit with
        | none => none
        | some (.error e) => some (s.setCall i { c with stage := .done, result := some (.error e) })
        | some (.ok p) => some ((s.setCall i { c with stage := .permitted }).withPool p)
      else some (s.setCall i { c with stage := .done, result := some (.error .notWarm) })
    | _ => none
  | none => none

/-- A call holding a permit takes the worker on top of the idle stack; with none there, it
fails and its permit is given back. -/
def pop (s : ServerState) (i : Nat) : Option ServerState :=
  match s.calls[i]? with
  | some c =>
    match c.stage with
    | .permitted =>
      match s.pool.checkOut with
      | .ok (w, p) => some ((s.setCall i { c with stage := .checkedOut w }).withPool p)
      | .error e =>
        some ((s.setCall i { c with stage := .done, result := some (.error e) }).withPool
          s.pool.releasePermit)
    | _ => none
  | none => none

/-- A call sends its job to its worker; a worker the pool does not have is lost, and the
checkout is given back. -/
def send (s : ServerState) (i : Nat) : Option ServerState :=
  match s.calls[i]? with
  | some c =>
    match c.stage, s.pool.phase with
    | .checkedOut w, .warm workers =>
      match workers[w]? with
      | some _ => some (s.setCall i { c with stage := .sent w })
      | none =>
        some ((s.setCall i { c with stage := .done, result := some (.error (.workerLost w)) }).withPool
          (s.pool.checkIn w))
    | _, _ => none
  | none => none

/-- The worker answers the job and replies; the call has its result. -/
def serve (s : ServerState) (i : Nat) : Option ServerState :=
  match s.calls[i]? with
  | some c =>
    match c.stage, s.pool.phase with
    | .sent w, .warm workers =>
      match workers[w]? with
      | some svc =>
        let (reply, svc, p) := s.pool.serve svc c.request
        let answered : RouteCall :=
          { c with stage := .replied w, result := some ((reply.map Prod.fst).mapError .route),
                   servedBy := some w, answer := some reply }
        some ((s.setCall i answered).withPool { p with phase := .warm (workers.set w svc) })
      | none => none
    | _, _ => none
  | none => none

/-- The worker goes back onto the idle stack. -/
def push (s : ServerState) (i : Nat) : Option ServerState :=
  match s.calls[i]? with
  | some c =>
    match c.stage with
    | .replied w => some ((s.setCall i { c with stage := .pushed w }).withPool (s.pool.pushIdle w))
    | _ => none
  | none => none

/-- The permit is given back, after the worker. -/
def release (s : ServerState) (i : Nat) : Option ServerState :=
  match s.calls[i]? with
  | some c =>
    match c.stage with
    | .pushed _ => some ((s.setCall i { c with stage := .done }).withPool s.pool.releasePermit)
    | _ => none
  | none => none

/-! ## Shutdown calls -/

/-- A shutdown call reaches the once-cell: reads it when filled, waits while another call's
initializer runs, and otherwise runs the initializer itself. -/
def enter (s : ServerState) (j : Nat) : Option ServerState :=
  match s.shutdowns[j]? with
  | some .calling =>
    some (s.setShutdown j
      (match s.server.outcome with
       | some o => .returned (RoutingServer.shutdownAnswer o)
       | none => if s.shutdowns.any ShutdownStage.initializes then .awaiting else .draining))
  | _ => none

/-- The initializer drains the pool; `none` while a worker is busy. -/
def drain (s : ServerState) (j : Nat) : Option ServerState :=
  match s.shutdowns[j]? with
  | some .draining => s.pool.drain.map fun p => (s.withPool p).setShutdown j .flushing
  | _ => none

/-- The initializer writes the profiling table, fills the cell and answers with it. -/
def flush (mkdirs : MakeDirs) (s : ServerState) (j : Nat) : Option ServerState :=
  match s.shutdowns[j]? with
  | some .flushing =>
    let o := (s.pool.profiling.flush s.server.output mkdirs).mapError ServerError.flush
    some ((s.withOutcome o).setShutdown j (.returned (RoutingServer.shutdownAnswer o)))
  | _ => none

/-- A waiting shutdown call reads the cell once it is filled. -/
def wake (s : ServerState) (j : Nat) : Option ServerState :=
  match s.shutdowns[j]? with
  | some .awaiting =>
    s.server.outcome.map fun o => s.setShutdown j (.returned (RoutingServer.shutdownAnswer o))
  | _ => none

/-! ## Interleavings -/

/-- One step; `none` when it cannot be taken. `mkdirs` answers the file system's side of
writing the table. -/
def step (mkdirs : MakeDirs) (s : ServerState) : ServerEvent → Option ServerState
  | .call req => some { s with calls := s.calls ++ [{ request := req }] }
  | .acquire i => s.acquire i
  | .pop i => s.pop i
  | .send i => s.send i
  | .serve i => s.serve i
  | .push i => s.push i
  | .release i => s.release i
  | .shutdown => some { s with shutdowns := s.shutdowns ++ [.calling] }
  | .enter j => s.enter j
  | .drain j => s.drain j
  | .flush j => s.flush mkdirs j
  | .wake j => s.wake j

/-- Take steps one after another; `none` as soon as one cannot be taken. -/
def run (mkdirs : MakeDirs) : ServerState → List ServerEvent → Option ServerState
  | s, [] => some s
  | s, e :: es => (s.step mkdirs e).bind fun t => run mkdirs t es

end ServerState

end TransitRouting
