import TransitRouting.Config.CommandLine
import TransitRouting.Pool.Session

/-!
# The server program

Reads the command line, resolves the configuration, loads the identifier store and the
scenario, warms the worker pool and then serves the request stream of `Pool.Session` on
standard input and output. At the end of the stream it shuts down: the pool is drained and,
with profiling on, the table is written to `<output>/unknown/routing-profiling.csv`.

Exit codes: 0 after a clean shutdown (or help and version), 2 for a command line that does
not parse, 1 for any other failure.
-/

open TransitRouting

/-- The build the binary reports in its output paths. -/
def buildId : String := "unknown"

/-- Report a failure on standard error and give the failing exit code. -/
def fail (message : String) : IO UInt32 := do
  IO.eprintln ("routing server failed: " ++ message)
  return 1

/-- Serve request lines until the input ends. -/
partial def serveLines (stdin stdout : IO.FS.Stream) (server : RoutingServer) :
    IO RoutingServer := do
  let line ← stdin.getLine
  if line.isEmpty then return server
  let text := line.trimAscii.copy
  if text.isEmpty then serveLines stdin stdout server
  else
    let (answer, server) := server.answerLine text
    stdout.putStrLn answer
    stdout.flush
    serveLines stdin stdout server

/-- Drain, write the profiling table and report the outcome. -/
def shutDown (server : RoutingServer) : IO UInt32 := do
  let dir := joinPath server.output.outputDir server.output.buildId
  let made ← (IO.FS.createDirAll dir).toBaseIO
  let mkdirs : MakeDirs := fun _ => match made with
    | .ok () => none
    | .error e => some (toString e)
  match server.shutdown mkdirs with
  | none => fail "the pool could not be drained"
  | some (.error st, _) => fail st.message
  | some (.ok none, _) => return 0
  | some (.ok (some rows), _) =>
    let path := joinPath dir "routing-profiling.csv"
    match ← (IO.FS.writeFile path (String.join (rows.map Profiling.line))).toBaseIO with
    | .ok () => return 0
    | .error e => fail (ProfilingError.io path (toString e)).message

/-- Run the server with a resolved configuration. -/
def run (config : ServerConfig) : IO UInt32 := do
  match ← (IO.FS.createDirAll config.outputDir).toBaseIO with
  | .error e => fail (toString e)
  | .ok () =>
  let storeBytes ← match config.idStore with
    | none => pure (.ok IdStore.empty)
    | some path => do
      let read ← (IO.FS.readBinFile path).toBaseIO
      pure (IdStore.load path (match read with
        | .ok bytes => .ok bytes.toList
        | .error e => .error (toString e)))
  match storeBytes with
  | .error e => fail e.message
  | .ok store =>
  let read ← (IO.FS.readFile config.scenario).toBaseIO
  let contents : Except String String := match read with
    | .ok text => .ok text
    | .error e => .error (toString e)
  let factory : EngineFactory :=
    { materialize := fun _ => Scenario.load config.scenario contents, params := WalkParams.default }
  let registry := ProfilingRegistry.create config.threads config.profiling
  match WorkerPool.new config.threads factory (IdRegistry.register store) registry with
  | .error e => fail e.message
  | .ok pool =>
  match pool.warmAll with
  | (.error e, _) => fail e.message
  | (.ok (), pool) =>
  IO.eprintln ("routing server ready: " ++ toString config.threads ++ " workers, scenario " ++
    config.scenario)
  let server ← serveLines (← IO.getStdin) (← IO.getStdout)
    { pool, output := { outputDir := config.outputDir, buildId } }
  shutDown server

/-- The entry point. -/
def main (args : List String) : IO UInt32 := do
  match CommandLine.parse args with
  | .error message =>
    IO.eprintln message
    return 2
  | .ok .help =>
    IO.println CommandLine.helpText
    return 0
  | .ok .version =>
    IO.println CommandLine.versionText
    return 0
  | .ok (.serve config) =>
    match config.resolve with
    | .error e => fail e.message
    | .ok config => run config
