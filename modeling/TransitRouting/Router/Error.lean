/-!
# Engine errors

What can go wrong when a worker builds its scenario and engine, or when the engine answers a
query: the scenario file cannot be read or parsed, its data is inconsistent, or a query cannot
be routed.

## What this module delivers

- `EngineError` with `EngineError.variant` and `EngineError.message`.
-/

set_option autoImplicit false

namespace TransitRouting

/-- Errors from building or running a routing engine. -/
inductive EngineError where
  /-- The scenario file could not be read; `reason` is the system's message. -/
  | io (path reason : String)
  /-- The scenario file is not valid JSON for the scenario schema. -/
  | parse (path reason : String)
  /-- The scenario data is inconsistent, or not valid JSON when given as text. -/
  | invalidScenario (reason : String)
  /-- The engine could not answer a query. -/
  | routing (reason : String)
deriving Repr, DecidableEq

/-- The name of the kind of error. -/
def EngineError.variant : EngineError → String
  | .io .. => "Io"
  | .parse .. => "Parse"
  | .invalidScenario _ => "InvalidScenario"
  | .routing _ => "Routing"

/-- The error text. -/
def EngineError.message : EngineError → String
  | .io path reason => "failed to read scenario " ++ path ++ ": " ++ reason
  | .parse path reason => "failed to parse scenario " ++ path ++ ": " ++ reason
  | .invalidScenario reason => "invalid scenario: " ++ reason
  | .routing reason => "routing failed: " ++ reason

end TransitRouting
