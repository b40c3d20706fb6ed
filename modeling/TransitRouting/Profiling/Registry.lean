import TransitRouting.Profiling.RequestId

/-!
# Profiling

Every answered request leaves a profiling entry: which worker served it, the simulation clock
and departure time of the request, its two links, how long it took, the total travel time of
the answer and the request id. Entries are kept per worker, in the order they were recorded; a
disabled registry keeps nothing, and an entry for a worker the registry does not have is
dropped.

For output, the entries of all workers (worker by worker) are sorted by the simulation clock,
keeping that order among equal clocks, and written as a CSV table: a header line, then one line
per entry, fields separated by commas, a field quoted when it holds a comma, a quote, a
carriage return or a newline (quotes inside doubled), every line ended by a newline.

## What this module delivers

- `ProfilingEntry`, `ProfilingRegistry` with `create`, `record`, `len`, `isEmpty`,
  `entriesSorted`.
- `Profiling.header`, `Profiling.row`, `Profiling.quoteField`, `ProfilingRegistry.rows`,
  `ProfilingRegistry.csv`,
  `ProfilingRegistry.table`.
-/

set_option autoImplicit false

namespace TransitRouting

/-- What is recorded for one answered request. `duration` is in nanoseconds. -/
structure ProfilingEntry where
  workerId : Nat
  simulationNow : Nat
  departureTime : Nat
  fromLink : String
  toLink : String
  duration : Nat := 0
  travelTime : Nat
  requestId : List UInt8
deriving Repr, DecidableEq

/-- Entries by worker. -/
structure ProfilingRegistry where
  enabled : Bool
  shards : List (List ProfilingEntry)
deriving Repr, DecidableEq

namespace ProfilingRegistry

/-- A registry for `workers` workers with nothing recorded. -/
def create (workers : Nat) (enabled : Bool) : ProfilingRegistry :=
  { enabled, shards := List.replicate workers [] }

/-- Record an entry in its worker's shard; nothing when disabled or for an unknown worker. -/
def record (r : ProfilingRegistry) (e : ProfilingEntry) : ProfilingRegistry :=
  if r.enabled && e.workerId < r.shards.length then
    { r with shards := r.shards.modify e.workerId (· ++ [e]) }
  else r

/-- The number of entries recorded. -/
def len (r : ProfilingRegistry) : Nat := (r.shards.map List.length).foldr (· + ·) 0

/-- Whether nothing is recorded. -/
def isEmpty (r : ProfilingRegistry) : Bool := r.len == 0

/-- All entries, worker by worker, stably sorted by the simulation clock. -/
def entriesSorted (r : ProfilingRegistry) : List ProfilingEntry :=
  r.shards.flatten.mergeSort fun a b => a.simulationNow ≤ b.simulationNow

end ProfilingRegistry

namespace Profiling

/-- The column names. -/
def header : List String :=
  ["thread", "now", "departure_time", "from", "to", "duration_ns", "travel_time_s", "request_id"]

/-- The fields of an entry's line. -/
def row (e : ProfilingEntry) : List String :=
  [toString e.workerId, toString e.simulationNow, toString e.departureTime, e.fromLink, e.toLink,
    toString e.duration, toString e.travelTime, RequestId.decimal e.requestId]

/-- A field as written: quoted, with quotes doubled, when it holds a comma, a quote, a carriage
return or a newline. -/
def quoteField (f : String) : String :=
  if f.any fun c => c = ',' || c = '"' || c = '\r' || c = '\n' then
    "\"" ++ String.join (f.toList.map fun c => if c = '"' then "\"\"" else c.toString) ++ "\""
  else f

/-- A line of the table. -/
def line (fields : List String) : String :=
  ",".intercalate (fields.map quoteField) ++ "\n"

end Profiling

/-- The table as lines of fields: the header, then one line per sorted entry. -/
def ProfilingRegistry.rows (r : ProfilingRegistry) : List (List String) :=
  Profiling.header :: r.entriesSorted.map Profiling.row

/-- The CSV table of the sorted entries. -/
def ProfilingRegistry.csv (r : ProfilingRegistry) : String :=
  String.join (r.rows.map Profiling.line)

/-- The CSV table with the number of entry lines written under its header. -/
def ProfilingRegistry.table (r : ProfilingRegistry) : String × Nat :=
  (r.csv, r.entriesSorted.length)

end TransitRouting
