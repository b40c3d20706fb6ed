import TransitRouting.Router.Timetable
import TransitRouting.Service.Convert
import TransitRouting.Ids.Registry
import TransitRouting.Profiling.Registry

/-!
# Answering requests

A route service belongs to one worker: it holds the worker's scenario, its walking model and
the shared id registry. Answering a request resolves its two ends in order (`from`, then `to`):
the link named by id, or by the code the id store gave it; the link must be in the scenario;
the request's own point, when given, replaces the link's midpoint. The engine then routes, the
itinerary is put on the wire, and a profiling entry is made with the total travel time.

## What this module delivers

- `RouteService` with `RouteService.new`, `RouteService.facility`, `RouteService.query`,
  `RouteService.answer`, `RouteService.handle` and `RouteService.handleAll`.
-/

set_option autoImplicit false

namespace TransitRouting

/-- One worker's request handler: its scenario, its engine (whose buffers each query refills),
the shared id registry, and the last simulation hour it announced. -/
structure RouteService where
  workerId : Nat
  scenario : Scenario
  engine : TimetableEngine
  ids : IdRegistry
  lastLoggedHour : Option Nat := none

namespace RouteService

/-- A fresh service for a worker, with a new engine over its scenario. -/
def new (workerId : Nat) (scenario : Scenario) (params : WalkParams) (ids : IdRegistry) :
    RouteService :=
  { workerId, scenario, engine := TimetableEngine.new scenario params, ids }

/-- Worker 0 announces each later simulation hour it serves; only the hour is kept here, the
announcement goes to the log. -/
def logHour (svc : RouteService) (now : Nat) : RouteService :=
  if svc.workerId ≠ 0 then svc
  else
    let hour := now / 3600
    if svc.lastLoggedHour.all (hour > ·) then { svc with lastLoggedHour := some hour } else svc

/-- Resolve one end of a request to a link id and a point. -/
def facility (svc : RouteService) (link : Option Wire.LinkRef) (coord : Option Wire.Point)
    (which : String) : Except RouteError (String × Coord) := do
  let some ref := link | throw (.missingLink which)
  let linkId ← match ref with
    | .id s => pure s
    | .code c =>
      match svc.ids.resolve .link c with
      | some s => pure s
      | none => throw (.unknownLinkCode c)
  let some l := svc.scenario.link? linkId | throw (.unknownLink linkId)
  let point := match coord with
    | some p => ⟨p.x, p.y⟩
    | none => l.coord
  return (linkId, point)

/-- The engine's query for a request: both ends resolved, `from` first. -/
def query (svc : RouteService) (req : Wire.Request) : Except RouteError RoutingRequest := do
  let (fromLink, fromCoord) ← svc.facility req.fromLink req.fromCoord "from"
  let (toLink, toCoord) ← svc.facility req.toLink req.toCoord "to"
  return { fromLink, fromCoord, toLink, toCoord, departureTime := Float.ofNat req.departureTime,
           mode := req.mode }

/-- The response to a request and the profiling entry it leaves, from the itinerary. -/
def answer (svc : RouteService) (req : Wire.Request) (query : RoutingRequest)
    (plan : List PlanElement) : Except RouteError (Wire.Response × ProfilingEntry) := do
  let elements ← planToWire plan
  let entry : ProfilingEntry :=
    { workerId := svc.workerId, simulationNow := req.now, departureTime := req.departureTime,
      fromLink := query.fromLink, toLink := query.toLink, travelTime := totalTravelTime elements,
      requestId := req.requestId }
  return ({ requestId := req.requestId, elements }, entry)

/-- Answer a request: the response and the profiling entry it leaves, and the service after
it. The engine keeps the buffers the query filled, also when the answer fails later. -/
def handle (svc : RouteService) (req : Wire.Request) :
    Except RouteError (Wire.Response × ProfilingEntry) × RouteService :=
  let svc := svc.logHour req.now
  match svc.query req with
  | .error e => (.error e, svc)
  | .ok query =>
    let (plan, engine) := svc.engine.calcRoute svc.scenario query
    ((plan.mapError RouteError.engine).bind (svc.answer req query), { svc with engine })

/-- Answer requests one after another, each on the service the previous answer left: a
worker serving its jobs in order. -/
def handleAll : RouteService → List Wire.Request →
    List (Except RouteError (Wire.Response × ProfilingEntry))
  | _, [] => []
  | svc, req :: reqs =>
    let (result, svc) := svc.handle req
    result :: handleAll svc reqs

end RouteService

end TransitRouting
