import TransitRouting.Scenario.Schema
import TransitRouting.Router.Error
import TransitRouting.Text.Index

/-!
# Checked scenarios

A scenario file becomes a scenario once its cross references hold. The checks run in file
order and the first failure is reported:

1. the links are indexed by id in order, and a link whose id is already indexed is refused;
2. the stops are indexed the same way, each first checked to be on an indexed link;
3. for each line and each of its routes: at least two stops; for each route stop, the stop is
   looked up in the stop index, then its offsets must not go backwards (arrival not after
   departure, and not before the previous stop's departure, which starts at 0); then a
   headway, if any, must have a positive step and a first time not after its last.

A checked scenario keeps its link index, through which links are looked up by id; a checked
route knows the position of each of its stops and its full schedule.

## What this module delivers

- `Scenario` with `Scenario.link?` and `Scenario.routes`.
- `indexLinks`, `indexStops`, `resolveStops`, `resolveRoute`, `resolveLines`.
- `Scenario.ofFile file`, `Scenario.ofJson text`, `Scenario.load path contents`.
-/

set_option autoImplicit false

namespace TransitRouting

/-- A checked scenario, with the position of each of its links by id. -/
structure Scenario where
  name : String
  links : List Link
  linkIndex : TextIndex
  stops : List Stop
  lines : List TransitLine

namespace Scenario

/-- The link with an id, through the link index. -/
def link? (s : Scenario) (id : String) : Option Link := (s.linkIndex.get? id).bind (s.links[·]?)

/-- Every route with the id of its line, in file order. -/
def routes (s : Scenario) : List (String × TransitRoute) :=
  (s.lines.map fun line => line.routes.map fun r => (line.id, r)).flatten

end Scenario

/-- Index the links from position `idx` on, onto `index`; a link whose id is indexed already is
refused. -/
def indexLinks (index : TextIndex) : Nat → List Link → Except EngineError TextIndex
  | _, [] => .ok index
  | idx, l :: rest =>
    if index.contains l.id then .error (.invalidScenario ("duplicate link " ++ l.id))
    else indexLinks (index.insert l.id idx) (idx + 1) rest

/-- Index the stops from position `idx` on, onto `index`: a stop must be on a link of `links`,
and then its id must not be indexed already. -/
def indexStops (links index : TextIndex) : Nat → List Stop → Except EngineError TextIndex
  | _, [] => .ok index
  | idx, st :: rest =>
    if !links.contains st.link then
      .error (.invalidScenario ("stop " ++ st.id ++ " references unknown link " ++ st.link))
    else if index.contains st.id then .error (.invalidScenario ("duplicate stop " ++ st.id))
    else indexStops links (index.insert st.id idx) (idx + 1) rest

/-- Resolve the stops of a route: their positions from the stop index, checking offsets against
the previous departure. -/
def resolveStops (stopIndex : TextIndex) (fail : String → EngineError) :
    Nat → List RouteStop → Except EngineError (List Nat)
  | _, [] => .ok []
  | previous, rs :: rest =>
    match stopIndex.get? rs.stop with
    | none => .error (fail ("unknown stop " ++ rs.stop))
    | some i =>
      if rs.arrivalOffset > rs.departureOffset || rs.arrivalOffset < previous then
        .error (fail ("offsets at stop " ++ rs.stop ++ " go backwards"))
      else
        match resolveStops stopIndex fail rs.departureOffset rest with
        | .ok more => .ok (i :: more)
        | .error e => .error e

/-- Check a route and fill in its stop indices and schedule. -/
def resolveRoute (stopIndex : TextIndex) (lineId : String) (r : TransitRoute) :
    Except EngineError TransitRoute := do
  let fail := fun (reason : String) =>
    EngineError.invalidScenario ("route " ++ lineId ++ "/" ++ r.id ++ ": " ++ reason)
  if r.stops.length < 2 then throw (fail "needs at least two stops")
  let indices ← resolveStops stopIndex fail 0 r.stops
  if let some h := r.headway then
    if h.every = 0 || h.first > h.last then throw (fail "headway must be positive and ordered")
  return { r with stopIndices := indices, schedule := expandSchedule r.departures r.headway }

/-- Check the routes of every line in order. -/
def resolveLines (stopIndex : TextIndex) (lines : List TransitLine) :
    Except EngineError (List TransitLine) :=
  lines.mapM fun line => do
    let routes ← line.routes.mapM (resolveRoute stopIndex line.id)
    return { line with routes }

namespace Scenario

/-- Check a scenario file. -/
def ofFile (f : ScenarioFile) : Except EngineError Scenario := do
  let linkIndex ← indexLinks .empty 0 f.links
  let stopIndex ← indexStops linkIndex .empty 0 f.stops
  let lines ← resolveLines stopIndex f.lines
  return { name := f.name, links := f.links, linkIndex, stops := f.stops, lines }

/-- Read and check a scenario given as JSON text. -/
def ofJson (text : String) : Except EngineError Scenario :=
  match ScenarioFile.parse text with
  | .ok f => ofFile f
  | .error e => .error (.invalidScenario e.message)

/-- Read and check a scenario file from its contents, or from the error of reading it. A
document that does not parse is reported with the file's path. -/
def load (path : String) (contents : Except String String) : Except EngineError Scenario :=
  match contents with
  | .error reason => .error (.io path reason)
  | .ok text =>
    match ScenarioFile.parse text with
    | .ok f => ofFile f
    | .error e => .error (.parse path e.message)

end Scenario

end TransitRouting
