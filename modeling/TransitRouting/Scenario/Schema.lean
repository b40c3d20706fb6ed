import TransitRouting.Json.Decode
import TransitRouting.Scenario.Types

/-!
# The scenario file format

Scenario files are JSON. Every record may be written as an object or as an array of its field
values in the order below; fields marked optional may be left out (at the end of an array),
and unknown object keys are ignored.

- file: `name`, `links`, `stops` (optional, none), `lines` (optional, none);
- link: `id`, `from`, `to`, `length` (optional, may be `null`);
- point: `x`, `y`;
- stop: `id`, `link`, `coord`;
- line: `id`, `routes`;
- route: `id`, `mode` (optional, `"pt"`), `stops`, `departures` (optional, none), `headway`
  (optional, may be `null`);
- route stop: `stop`, `arrival_offset`, `departure_offset`;
- headway: `first`, `last`, `every`.

Offsets and times are unsigned 32-bit integers, coordinates and lengths doubles.

## What this module delivers

- One reader per record: `readPoint`, `readLink`, `readStop`, `readRouteStop`, `readHeadway`,
  `readTransitRoute`, `readTransitLine`, `readScenarioFile`.
- `ScenarioFile.parse text`: the whole document, with nothing but blanks after it.
-/

set_option autoImplicit false

namespace TransitRouting.Schema

open Json

/-- The expectation named when an array is too short for a record. -/
def arity (name : String) (n : Nat) : String :=
  "struct " ++ name ++ " with " ++ toString n ++ " elements"

/-! ## Points -/

/-- A point being read from an object. -/
structure PointDraft where
  x : Option Float := none
  y : Option Float := none

/-- One key of a point. -/
def pointStep (d : PointDraft) (k : String) : Reader PointDraft :=
  if k = "x" then do return { d with x := some (← setOnce "x" d.x readF64) }
  else if k = "y" then do return { d with y := some (← setOnce "y" d.y readF64) }
  else do ignoreField; return d

/-- A point. -/
def readPoint : Reader Coord :=
  readRecord "Coord"
    (do
      let x ← required 0 (arity "Coord" 2) (← element true readF64)
      let y ← required 1 (arity "Coord" 2) (← element false readF64)
      return ⟨x, y⟩)
    (do
      let d ← readDraft pointStep {}
      return ⟨← need "x" d.x, ← need "y" d.y⟩)

/-! ## Links -/

/-- A link being read from an object. -/
structure LinkDraft where
  id : Option String := none
  source : Option Coord := none
  target : Option Coord := none
  length : Option (Option Float) := none

/-- One key of a link. -/
def linkStep (d : LinkDraft) (k : String) : Reader LinkDraft :=
  if k = "id" then do return { d with id := some (← setOnce "id" d.id readStr) }
  else if k = "from" then do return { d with source := some (← setOnce "from" d.source readPoint) }
  else if k = "to" then do return { d with target := some (← setOnce "to" d.target readPoint) }
  else if k = "length" then do
    return { d with length := some (← setOnce "length" d.length (readOption readF64)) }
  else do ignoreField; return d

/-- A link. -/
def readLink : Reader Link :=
  readRecord "Link"
    (do
      let id ← required 0 (arity "Link" 4) (← element true readStr)
      let source ← required 1 (arity "Link" 4) (← element false readPoint)
      let target ← required 2 (arity "Link" 4) (← element false readPoint)
      let length := (← element false (readOption readF64)).getD none
      return { id, source, target, length })
    (do
      let d ← readDraft linkStep {}
      return { id := ← need "id" d.id, source := ← need "from" d.source,
               target := ← need "to" d.target, length := d.length.getD none })

/-! ## Stops -/

/-- A stop being read from an object. -/
structure StopDraft where
  id : Option String := none
  link : Option String := none
  coord : Option Coord := none

/-- One key of a stop. -/
def stopStep (d : StopDraft) (k : String) : Reader StopDraft :=
  if k = "id" then do return { d with id := some (← setOnce "id" d.id readStr) }
  else if k = "link" then do return { d with link := some (← setOnce "link" d.link readStr) }
  else if k = "coord" then do
    return { d with coord := some (← setOnce "coord" d.coord readPoint) }
  else do ignoreField; return d

/-- A stop. -/
def readStop : Reader Stop :=
  readRecord "Stop"
    (do
      let id ← required 0 (arity "Stop" 3) (← element true readStr)
      let link ← required 1 (arity "Stop" 3) (← element false readStr)
      let coord ← required 2 (arity "Stop" 3) (← element false readPoint)
      return { id, link, coord })
    (do
      let d ← readDraft stopStep {}
      return { id := ← need "id" d.id, link := ← need "link" d.link,
               coord := ← need "coord" d.coord })

/-! ## Route stops and headways -/

/-- A route stop being read from an object. -/
structure RouteStopDraft where
  stop : Option String := none
  arrival : Option Nat := none
  departure : Option Nat := none

/-- One key of a route stop. -/
def routeStopStep (d : RouteStopDraft) (k : String) : Reader RouteStopDraft :=
  if k = "stop" then do return { d with stop := some (← setOnce "stop" d.stop readStr) }
  else if k = "arrival_offset" then do
    return { d with arrival := some (← setOnce "arrival_offset" d.arrival readU32) }
  else if k = "departure_offset" then do
    return { d with departure := some (← setOnce "departure_offset" d.departure readU32) }
  else do ignoreField; return d

/-- A stop of a route. -/
def readRouteStop : Reader RouteStop :=
  readRecord "RouteStop"
    (do
      let stop ← required 0 (arity "RouteStop" 3) (← element true readStr)
      let arrivalOffset ← required 1 (arity "RouteStop" 3) (← element false readU32)
      let departureOffset ← required 2 (arity "RouteStop" 3) (← element false readU32)
      return { stop, arrivalOffset, departureOffset })
    (do
      let d ← readDraft routeStopStep {}
      return { stop := ← need "stop" d.stop, arrivalOffset := ← need "arrival_offset" d.arrival,
               departureOffset := ← need "departure_offset" d.departure })

/-- A headway being read from an object. -/
structure HeadwayDraft where
  first : Option Nat := none
  last : Option Nat := none
  every : Option Nat := none

/-- One key of a headway. -/
def headwayStep (d : HeadwayDraft) (k : String) : Reader HeadwayDraft :=
  if k = "first" then do return { d with first := some (← setOnce "first" d.first readU32) }
  else if k = "last" then do return { d with last := some (← setOnce "last" d.last readU32) }
  else if k = "every" then do return { d with every := some (← setOnce "every" d.every readU32) }
  else do ignoreField; return d

/-- A headway. -/
def readHeadway : Reader Headway :=
  readRecord "Headway"
    (do
      let first ← required 0 (arity "Headway" 3) (← element true readU32)
      let last ← required 1 (arity "Headway" 3) (← element false readU32)
      let every ← required 2 (arity "Headway" 3) (← element false readU32)
      return { first, last, every })
    (do
      let d ← readDraft headwayStep {}
      return { first := ← need "first" d.first, last := ← need "last" d.last,
               every := ← need "every" d.every })

/-! ## Routes and lines -/

/-- A route being read from an object. -/
structure RouteDraft where
  id : Option String := none
  mode : Option String := none
  stops : Option (List RouteStop) := none
  departures : Option (List Nat) := none
  headway : Option (Option Headway) := none

/-- One key of a route. -/
def routeStep (d : RouteDraft) (k : String) : Reader RouteDraft :=
  if k = "id" then do return { d with id := some (← setOnce "id" d.id readStr) }
  else if k = "mode" then do return { d with mode := some (← setOnce "mode" d.mode readStr) }
  else if k = "stops" then do
    return { d with stops := some (← setOnce "stops" d.stops (readSeq readRouteStop)) }
  else if k = "departures" then do
    return { d with departures := some (← setOnce "departures" d.departures (readSeq readU32)) }
  else if k = "headway" then do
    return { d with headway := some (← setOnce "headway" d.headway (readOption readHeadway)) }
  else do ignoreField; return d

/-- A route of a line. -/
def readTransitRoute : Reader TransitRoute :=
  readRecord "TransitRoute"
    (do
      let id ← required 0 (arity "TransitRoute" 5) (← element true readStr)
      let mode := (← element false readStr).getD "pt"
      let stops ← required 2 (arity "TransitRoute" 5) (← element false (readSeq readRouteStop))
      let departures := (← element false (readSeq readU32)).getD []
      let headway := (← element false (readOption readHeadway)).getD none
      return { id, mode, stops, departures, headway })
    (do
      let d ← readDraft routeStep {}
      let id ← need "id" d.id
      let stops ← need "stops" d.stops
      return { id, mode := d.mode.getD "pt", stops, departures := d.departures.getD [],
               headway := d.headway.getD none })

/-- A line being read from an object. -/
structure LineDraft where
  id : Option String := none
  routes : Option (List TransitRoute) := none

/-- One key of a line. -/
def lineStep (d : LineDraft) (k : String) : Reader LineDraft :=
  if k = "id" then do return { d with id := some (← setOnce "id" d.id readStr) }
  else if k = "routes" then do
    return { d with routes := some (← setOnce "routes" d.routes (readSeq readTransitRoute)) }
  else do ignoreField; return d

/-- A transit line. -/
def readTransitLine : Reader TransitLine :=
  readRecord "TransitLine"
    (do
      let id ← required 0 (arity "TransitLine" 2) (← element true readStr)
      let routes ← required 1 (arity "TransitLine" 2) (← element false (readSeq readTransitRoute))
      return { id, routes })
    (do
      let d ← readDraft lineStep {}
      return { id := ← need "id" d.id, routes := ← need "routes" d.routes })

/-! ## Files -/

/-- A scenario file being read from an object. -/
structure FileDraft where
  name : Option String := none
  links : Option (List Link) := none
  stops : Option (List Stop) := none
  lines : Option (List TransitLine) := none

/-- One key of a scenario file. -/
def fileStep (d : FileDraft) (k : String) : Reader FileDraft :=
  if k = "name" then do return { d with name := some (← setOnce "name" d.name readStr) }
  else if k = "links" then do
    return { d with links := some (← setOnce "links" d.links (readSeq readLink)) }
  else if k = "stops" then do
    return { d with stops := some (← setOnce "stops" d.stops (readSeq readStop)) }
  else if k = "lines" then do
    return { d with lines := some (← setOnce "lines" d.lines (readSeq readTransitLine)) }
  else do ignoreField; return d

/-- A scenario file. -/
def readScenarioFile : Reader ScenarioFile :=
  readRecord "ScenarioFile"
    (do
      let name ← required 0 (arity "ScenarioFile" 4) (← element true readStr)
      let links ← required 1 (arity "ScenarioFile" 4) (← element false (readSeq readLink))
      let stops := (← element false (readSeq readStop)).getD []
      let lines := (← element false (readSeq readTransitLine)).getD []
      return { name, links, stops, lines })
    (do
      let d ← readDraft fileStep {}
      let name ← need "name" d.name
      let links ← need "links" d.links
      return { name, links, stops := d.stops.getD [], lines := d.lines.getD [] })

end Schema

/-- Read a scenario document: one file record and nothing but blanks after it. -/
def ScenarioFile.parse (text : String) : Except Json.Error ScenarioFile :=
  Json.runOn (do
    let f ← Schema.readScenarioFile
    Json.endDocument
    return f) text

end TransitRouting
