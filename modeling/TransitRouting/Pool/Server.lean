import TransitRouting.Pool.Workers

/-!
# The routing server and its shutdown

The server answers route calls through the worker pool and shuts down on request. Shutting
down drains the pool, then writes the profiling table, once: every later shutdown call gets
the first one's outcome again. A failed write is reported to the caller, but the pool stays
drained.

The table goes to the directory `<output>/<build id>`, which is created first. With profiling
off nothing is written. Whether a directory can be created is a question for the file system,
so it is passed in (`MakeDirs`).

## What this module delivers

- `OutputSettings`, `MakeDirs`, `joinPath`.
- `ProfilingError`, `ServerError` with `message`.
- `ProfilingRegistry.flush`.
- `RoutingServer` with `RoutingServer.getRoute` and `RoutingServer.shutdown`.
-/

set_option autoImplicit false

namespace TransitRouting

/-- Where profiling tables go. -/
structure OutputSettings where
  outputDir : String
  buildId : String
deriving Repr, DecidableEq

/-- The file system's answer to creating a directory (with its parents): `none` when it
exists afterwards, else the reason it cannot. -/
abbrev MakeDirs := String → Option String

/-- A path followed by a relative name. -/
def joinPath (dir name : String) : String :=
  if dir.isEmpty then name
  else if dir.endsWith "/" then dir ++ name
  else dir ++ "/" ++ name

/-- Why the profiling table could not be written. -/
inductive ProfilingError where
  /-- A directory or file could not be created or written. -/
  | io (path reason : String)
deriving Repr, DecidableEq

/-- The error text. -/
def ProfilingError.message : ProfilingError → String
  | .io path reason => "failed to write profiling output " ++ path ++ ": " ++ reason

/-- Errors of the server. -/
inductive ServerError where
  /-- The profiling table could not be written on shutdown. -/
  | flush (e : ProfilingError)
deriving Repr, DecidableEq

/-- The error text. -/
def ServerError.message : ServerError → String
  | .flush e => "profiling flush failed: " ++ e.message

/-- Write the profiling table: nothing when profiling is off, else the lines written to a file
in `<output>/<build id>`, or the error of creating that directory. -/
def ProfilingRegistry.flush (r : ProfilingRegistry) (out : OutputSettings) (mkdirs : MakeDirs) :
    Except ProfilingError (Option (List (List String))) :=
  if !r.enabled then .ok none
  else
    let dir := joinPath out.outputDir out.buildId
    match mkdirs dir with
    | some reason => .error (.io dir reason)
    | none => .ok (some r.rows)

/-- A routing server: its pool, where profiling goes, and the outcome of the first shutdown. -/
structure RoutingServer where
  pool : WorkerPool
  output : OutputSettings
  outcome : Option (Except ServerError (Option (List (List String)))) := none

namespace RoutingServer

/-- Answer a route call; `none` while it would wait for a worker. -/
def getRoute (s : RoutingServer) (req : Wire.Request) :
    Option (Except Status Wire.Response × RoutingServer) :=
  (s.pool.route req).map fun (result, pool) => (result.mapError PoolError.toStatus, { s with pool })

/-- The answer to a shutdown call for a given outcome. -/
def shutdownAnswer (o : Except ServerError (Option (List (List String)))) :
    Except Status (Option (List (List String))) :=
  o.mapError fun e => ⟨"Internal", e.message⟩

/-- Shut down: drain the pool and write the profiling table, the first time; afterwards the
first outcome again. `none` while draining would wait. -/
def shutdown (s : RoutingServer) (mkdirs : MakeDirs) :
    Option (Except Status (Option (List (List String))) × RoutingServer) :=
  match s.outcome with
  | some o => some (shutdownAnswer o, s)
  | none =>
    (s.pool.drain).map fun pool =>
      let o := (pool.profiling.flush s.output mkdirs).mapError ServerError.flush
      (shutdownAnswer o, { s with pool, outcome := some o })

end RoutingServer

end TransitRouting
