import TransitRouting.Scenario.Check
import TransitRouting.Plan.Basic

/-!
# The single-ride timetable router

The router walks from the origin to a stop, rides one transit route, and walks from the stop
where it alights to the destination. When no ride arrives before walking the whole way, the
answer is a single walk.

Walking follows the straight line, lengthened by a detour factor, at a fixed speed. The stops
a traveller may walk to (or from) are those within a search radius; when there is none, the
single nearest stop (the first of equally near ones).

Rides are compared over every line, route, boarding stop and later alighting stop, in file
order. A ride boards the first vehicle that leaves the boarding stop no earlier than the
traveller gets there, and arrives when that vehicle reaches the alighting stop plus the walk
onward. The earliest arrival wins, then the least walking, then the first found.

## What this module delivers

- `WalkParams` with `walkDistance` and `walkTime`.
- `RoutingRequest`.
- `collectWalks`, `Ride`, `bestRide`, `rideItinerary`, `walkLeg`.
- `TimetableEngine` with `TimetableEngine.new` and `TimetableEngine.calcRoute engine scenario
  request`: the itinerary, or a routing error for non-finite input, and the engine with its
  buffers refilled.
-/

set_option autoImplicit false

namespace TransitRouting

/-- The walking model. -/
structure WalkParams where
  /-- Metres per second. -/
  speed : Float
  /-- Walked distance per metre of straight line. -/
  beelineFactor : Float
  /-- Stops within this straight-line distance (metres) are candidates. -/
  searchRadius : Float

namespace WalkParams

/-- The default model: 3 km/h, a detour factor of 1.3, a radius of one kilometre. -/
def default : WalkParams :=
  { speed := Binary64.ofNat 3 / Binary64.ofRatio false 18 5,
    beelineFactor := Binary64.ofRatio false 13 10,
    searchRadius := Binary64.ofNat 1000 }

/-- The walked distance for a straight-line distance. -/
def walkDistance (p : WalkParams) (beeline : Float) : Float := beeline * p.beelineFactor

/-- The walking time for a straight-line distance. -/
def walkTime (p : WalkParams) (beeline : Float) : Float := p.walkDistance beeline / p.speed

end WalkParams

/-- A query: two link ends with their points, a departure time and the routing mode. -/
structure RoutingRequest where
  fromLink : String
  fromCoord : Coord
  toLink : String
  toCoord : Coord
  departureTime : Float
  mode : String

/-- The first stop with the strictly smallest distance, if any. -/
def nearestStop : Nat → Option (Nat × Float) → List Float → Option (Nat × Float)
  | _, best, [] => best
  | i, best, d :: rest =>
    let best := match best with
      | none => some (i, d)
      | some (j, b) => if d < b then some (i, d) else some (j, b)
    nearestStop (i + 1) best rest

/-- Walking times from a point to the candidate stops, by stop index: the stops within the
radius, or else the nearest stop. The buffer of the previous query is emptied and sized anew
before the times are written into it. -/
def collectWalks (p : WalkParams) (stops : List Stop) (origin : Coord)
    (buffer : Array (Option Float)) : Array (Option Float) :=
  let blank := buffer.shrink 0 ++ Array.replicate stops.length none
  let beelines := stops.map fun s => origin.distance s.coord
  let within := beelines.map fun b => if b ≤ p.searchRadius then some (p.walkTime b) else none
  if within.any Option.isSome then
    within.zipIdx.foldl (fun buf (w, i) => if w.isSome then buf.set! i w else buf) blank
  else
    match nearestStop 0 none beelines with
    | some (i, b) => blank.set! i (some (p.walkTime b))
    | none => blank

/-- A candidate ride: where it is in the scenario, the vehicle's departure from the first
stop of the route, the arrival at the destination and the time spent walking. -/
structure Ride where
  line : Nat
  route : Nat
  board : Nat
  alight : Nat
  vehicleDeparture : Nat
  arrival : Float
  walked : Float

/-- Whether a ride beats another: earlier arrival, or as early with less walking. -/
def Ride.betterThan (a b : Ride) : Bool :=
  a.arrival < b.arrival || (a.arrival == b.arrival && a.walked < b.walked)

/-- Keep the better of a new ride and the best so far; the earlier one on a tie. -/
def keepBetter (best : Option Ride) (ride : Ride) : Option Ride :=
  if best.all ride.betterThan then some ride else best

/-- The walking time at the stop of a route position, if that stop is a candidate. -/
def walkAt (walks : Array (Option Float)) (indices : List Nat) (pos : Nat) : Option Float :=
  (indices[pos]?).bind fun i => (walks[i]?).join

/-- The best ride over one route. -/
def bestOnRoute (access egress : Array (Option Float)) (departure : Float) (li ri : Nat)
    (route : TransitRoute) (best : Option Ride) : Option Ride :=
  let n := route.stopIndices.length
  (List.range n).foldl (fun best board =>
    match walkAt access route.stopIndices board with
    | none => best
    | some acc =>
      let ready := departure + acc
      let offset := Float.ofNat ((route.stops[board]?).map (·.departureOffset) |>.getD 0)
      match route.nextDeparture (ready - offset) with
      | none => best
      | some vd =>
        ((List.range n).filter (board < ·)).foldl (fun best alight =>
          match walkAt egress route.stopIndices alight with
          | none => best
          | some eg =>
            let arrivalOffset := (route.stops[alight]?).map (·.arrivalOffset) |>.getD 0
            keepBetter best
              { line := li, route := ri, board, alight, vehicleDeparture := vd,
                arrival := Float.ofNat vd + Float.ofNat arrivalOffset + eg,
                walked := acc + eg }) best) best

/-- The best ride over every line and route. -/
def bestRide (s : Scenario) (access egress : Array (Option Float)) (departure : Float) :
    Option Ride :=
  (s.lines.zipIdx).foldl (fun best (line, li) =>
    (line.routes.zipIdx).foldl (fun best (route, ri) =>
      bestOnRoute access egress departure li ri route best) best) none

/-- A walk leg along the straight line between two points. -/
def walkLeg (p : WalkParams) (startLink endLink : String) (beeline departure : Float)
    (mode : String) : Leg :=
  let travelTime := p.walkTime beeline
  { mode := "walk", routingMode := some mode, departureTime := some departure,
    travelTime := some travelTime,
    route := .generic { startLink, endLink, distance := p.walkDistance beeline,
                        travelTime := some travelTime } }

/-- The straight-line length of a stop sequence, added up leg by leg from the first. -/
def pathLength (stops : List Stop) (acc : Float) : List Nat → Float
  | a :: b :: rest =>
    let d := match stops[a]?, stops[b]? with
      | some x, some y => x.coord.distance y.coord
      | _, _ => 0
    pathLength stops (acc + d) (b :: rest)
  | _ => acc

/-- The itinerary of a ride: walk, board, ride, alight, walk. -/
def rideItinerary (p : WalkParams) (s : Scenario) (req : RoutingRequest) (ride : Ride) :
    List PlanElement := Id.run do
  let some line := s.lines[ride.line]? | return []
  let some route := line.routes[ride.route]? | return []
  let indices := route.stopIndices
  let some boardStop := (indices[ride.board]?).bind (s.stops[·]?) | return []
  let some alightStop := (indices[ride.alight]?).bind (s.stops[·]?) | return []
  let boardOffset := (route.stops[ride.board]?).map (·.departureOffset) |>.getD 0
  let alightOffset := (route.stops[ride.alight]?).map (·.arrivalOffset) |>.getD 0
  let access := walkLeg p req.fromLink boardStop.link (req.fromCoord.distance boardStop.coord)
    req.departureTime req.mode
  let atStop := req.departureTime + access.travelTime.getD 0
  let boardingTime := Float.ofNat ride.vehicleDeparture + Float.ofNat boardOffset
  let alightingTime := Float.ofNat ride.vehicleDeparture + Float.ofNat alightOffset
  let rideTime := alightingTime - atStop
  let path := (indices.drop ride.board).take (ride.alight + 1 - ride.board)
  let transit : Leg :=
    { mode := route.mode, routingMode := some req.mode, departureTime := some atStop,
      travelTime := some rideTime,
      route := .pt { generic := { startLink := boardStop.link, endLink := alightStop.link,
                                  distance := pathLength s.stops 0 path,
                                  travelTime := some rideTime },
                     accessStopId := boardStop.id, egressStopId := alightStop.id,
                     boardingTime := some boardingTime, lineId := line.id, routeId := route.id } }
  let egress := walkLeg p alightStop.link req.toLink (alightStop.coord.distance req.toCoord)
    alightingTime req.mode
  return [.leg access, .activity (Activity.interaction boardStop.link boardStop.coord),
    .leg transit, .activity (Activity.interaction alightStop.link alightStop.coord), .leg egress]

/-- A router over one scenario: the walking model and the walking-time buffers, one slot per
stop, that every query fills anew. -/
structure TimetableEngine where
  params : WalkParams
  access : Array (Option Float)
  egress : Array (Option Float)

namespace TimetableEngine

/-- An engine for a scenario, with blank buffers. -/
def new (s : Scenario) (params : WalkParams) : TimetableEngine :=
  { params, access := Array.replicate s.stops.length none,
    egress := Array.replicate s.stops.length none }

/-- Route a query: the best ride if it arrives before walking the whole way would, else one
walk leg. Non-finite points or times are refused before the buffers are touched. -/
def calcRoute (e : TimetableEngine) (s : Scenario) (req : RoutingRequest) :
    Except EngineError (List PlanElement) × TimetableEngine :=
  let a := req.fromCoord
  let b := req.toCoord
  if !(a.isFinite && b.isFinite && Binary64.isFinite req.departureTime) then
    (.error (.routing ("non-finite input: from " ++ a.display ++ " to " ++ b.display ++ " at " ++
      Layout.display.render req.departureTime)), e)
  else
    let p := e.params
    let e := { e with access := collectWalks p s.stops a e.access,
                      egress := collectWalks p s.stops b e.egress }
    let direct := a.distance b
    let directArrival := req.departureTime + p.walkTime direct
    let walk := [PlanElement.leg (walkLeg p req.fromLink req.toLink direct req.departureTime req.mode)]
    match bestRide s e.access e.egress req.departureTime with
    | some ride => (.ok (if ride.arrival < directArrival then rideItinerary p s req ride else walk), e)
    | none => (.ok walk, e)

end TimetableEngine

end TransitRouting
