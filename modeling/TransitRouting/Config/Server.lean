import TransitRouting.Config.Sample
import TransitRouting.Text.Quote

/-!
# Server configuration

What the routing server is started with: the scenario to load, an optional identifier store,
the directory for profiling output, the number of routing workers, the port, whether requests
are profiled, an optional sample rate and whether URL inputs are read from local copies.

Resolving a configuration checks it and rewrites the input paths. There must be at least one
worker (checked first). A sample rate must have the syntax of `Sample.isRate`; its tokens are
then substituted into the scenario and identifier-store paths. With local files, those two
paths are then cut down to their last segment. The output directory is never rewritten.

## What this module delivers

- `ServerConfig` with `ServerConfig.new` and the defaults of the command line.
- `ConfigError` with `variant` and `message`.
- `ServerConfig.resolve`.
-/

set_option autoImplicit false

namespace TransitRouting

/-- The port the server listens on unless told otherwise. -/
def defaultPort : Nat := 50051

/-- The configuration of the routing server. -/
structure ServerConfig where
  /-- The scenario every worker loads. -/
  scenario : String
  /-- The identifier store registered before the workers warm up. -/
  idStore : Option String := none
  /-- Where profiling tables are written. -/
  outputDir : String
  /-- The number of routing workers. -/
  threads : Nat := 1
  /-- The port to listen on. -/
  port : Nat := defaultPort
  /-- Whether requests are profiled. -/
  profiling : Bool := true
  /-- The sample rate substituted into the input paths. -/
  sample : Option String := none
  /-- Whether URL inputs are replaced by their file names. -/
  localFiles : Bool := false
deriving Repr, DecidableEq

/-- Why a configuration is refused. -/
inductive ConfigError where
  /-- No routing worker. -/
  | noThreads
  /-- A sample rate that is not a plain decimal number. -/
  | invalidSample (sample : String)
deriving Repr, DecidableEq

namespace ConfigError

/-- The name of the kind of error. -/
def variant : ConfigError → String
  | .noThreads => "NoThreads"
  | .invalidSample _ => "InvalidSample"

/-- The error as reported. -/
def message : ConfigError → String
  | .noThreads => "thread count must be at least 1"
  | .invalidSample s => "invalid sample rate " ++ Quote.debug s

end ConfigError

namespace ServerConfig

/-- A configuration with a scenario and an output directory, everything else by default. -/
def new (scenario outputDir : String) : ServerConfig := { scenario, outputDir }

/-- Check a configuration and rewrite its input paths for the sample rate and local files. -/
def resolve (c : ServerConfig) : Except ConfigError ServerConfig := do
  if c.threads = 0 then throw .noThreads
  let c ← match c.sample with
    | none => pure c
    | some s =>
      if Sample.isRate s then
        pure { c with scenario := Sample.adjust c.scenario s,
                      idStore := c.idStore.map (Sample.adjust · s) }
      else throw (.invalidSample s)
  if c.localFiles then
    return { c with scenario := Sample.fileName c.scenario,
                    idStore := c.idStore.map Sample.fileName }
  else return c

end ServerConfig

end TransitRouting
