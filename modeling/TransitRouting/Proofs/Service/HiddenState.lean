import TransitRouting.Service.Handle

/-!
# Answers do not depend on a worker's history

A route service keeps state between requests: the engine's walking-time buffers, refilled by
every query, and the last simulation hour worker 0 announced. None of it shows in an answer.
Each query empties the buffers before it writes them, and reads only what it wrote; the hour
only decides what goes to the log. So a worker that has served any requests, successfully or
not, answers the next one exactly as a freshly built worker over the same scenario, walking
model and id registry would.

## What this module delivers

- `RouteService.fresh`: the service a worker started as, rebuilt from its setup.
- `collectWalks_buffer`: the walking times of a query do not depend on the buffer they are
  written into.
- `TimetableEngine.calcRoute_fst_of_params`: the itinerary depends on the engine only through
  its walking model.
- `RouteService.handle_fst_fresh` and `RouteService.fresh_handle_snd`: one request is answered
  as on a fresh service, and leaves the setup as it was.
- `RouteService.handleAll_eq_map_fresh`: over any run of requests, each answer is the answer of
  a fresh service.
-/

set_option autoImplicit false

namespace TransitRouting

/-! ## The engine's buffers

Every query clears a buffer before sizing it for the scenario's stops, so what the previous
query left in it is never read. -/

/-- The walking times written for a query are the same whatever the buffer held before. -/
theorem collectWalks_buffer (p : WalkParams) (stops : List Stop) (origin : Coord)
    (buffer : Array (Option Float)) :
    collectWalks p stops origin buffer = collectWalks p stops origin #[] := by
  simp only [collectWalks, Array.shrink_eq_take, Array.extract_zero]

namespace TimetableEngine

/-- Routing never changes the engine's walking model. -/
@[simp]
theorem calcRoute_snd_params (e : TimetableEngine) (s : Scenario) (req : RoutingRequest) :
    (e.calcRoute s req).2.params = e.params := by
  simp only [calcRoute]
  split
  · rfl
  · split <;> rfl

/-- Two engines with the same walking model route every query alike, whatever their buffers
hold. -/
theorem calcRoute_fst_of_params {e e' : TimetableEngine} (h : e.params = e'.params)
    (s : Scenario) (req : RoutingRequest) :
    (e.calcRoute s req).1 = (e'.calcRoute s req).1 := by
  simp only [calcRoute, apply_ite Prod.fst]
  rw [collectWalks_buffer _ _ _ e.access, collectWalks_buffer _ _ _ e.egress,
    collectWalks_buffer _ _ _ e'.access, collectWalks_buffer _ _ _ e'.egress, h]

end TimetableEngine

/-! ## One request

A service is determined, as far as its answers go, by its worker id, scenario, walking model
and id registry. `fresh` rebuilds the service with exactly those. -/

namespace RouteService

/-- The service a worker would be right after it was built: same worker, scenario, walking
model and registry, blank buffers and no hour announced. -/
def fresh (svc : RouteService) : RouteService :=
  new svc.workerId svc.scenario svc.engine.params svc.ids

/-- A freshly built service is its own fresh copy. -/
@[simp]
theorem new_fresh (workerId : Nat) (scenario : Scenario) (params : WalkParams)
    (ids : IdRegistry) : (new workerId scenario params ids).fresh = new workerId scenario params ids :=
  rfl

/-- Rebuilding a rebuilt service changes nothing. -/
@[simp]
theorem fresh_fresh (svc : RouteService) : svc.fresh.fresh = svc.fresh :=
  rfl

/-- Announcing an hour touches nothing the answers depend on. -/
@[simp]
theorem logHour_fresh (svc : RouteService) (now : Nat) : (svc.logHour now).fresh = svc.fresh := by
  simp only [logHour]
  split
  · rfl
  · split <;> rfl

/-- Resolving the ends of a request reads only the scenario and the registry. -/
theorem query_fresh (svc : RouteService) (req : Wire.Request) :
    svc.fresh.query req = svc.query req :=
  rfl

/-- The response and the profiling entry read only the worker id. -/
theorem answer_fresh (svc : RouteService) (req : Wire.Request) :
    svc.fresh.answer req = svc.answer req :=
  rfl

/-- Putting back an engine with the same walking model keeps the setup. -/
theorem fresh_with_engine (svc : RouteService) {e : TimetableEngine}
    (h : e.params = svc.engine.params) : { svc with engine := e }.fresh = svc.fresh := by
  simp only [fresh, h]

/-- Handling a request leaves the setup of the service as it was. -/
@[simp]
theorem fresh_handle_snd (svc : RouteService) (req : Wire.Request) :
    (svc.handle req).2.fresh = svc.fresh := by
  simp only [handle]
  split
  · exact logHour_fresh svc req.now
  · rw [fresh_with_engine _ (TimetableEngine.calcRoute_snd_params _ _ _), logHour_fresh]

/-- Two services with the same setup answer every request alike. -/
theorem handle_fst_of_fresh {svc svc' : RouteService} (h : svc.fresh = svc'.fresh)
    (req : Wire.Request) : (svc.handle req).1 = (svc'.handle req).1 := by
  -- after the hour is noted, the two services still agree on their setup
  have hlog : (svc.logHour req.now).fresh = (svc'.logHour req.now).fresh := by
    rw [logHour_fresh, logHour_fresh, h]
  have hquery : (svc.logHour req.now).query req = (svc'.logHour req.now).query req := by
    rw [← query_fresh, hlog, query_fresh]
  have hanswer : (svc.logHour req.now).answer req = (svc'.logHour req.now).answer req := by
    rw [← answer_fresh, hlog, answer_fresh]
  have hparams : (svc.logHour req.now).engine.params = (svc'.logHour req.now).engine.params :=
    congrArg (fun s => s.engine.params) hlog
  have hscenario : (svc.logHour req.now).scenario = (svc'.logHour req.now).scenario :=
    congrArg (fun s => s.scenario) hlog
  simp only [handle]
  rw [hquery]
  split
  · rfl
  · rw [TimetableEngine.calcRoute_fst_of_params hparams, hscenario, hanswer]

/-- A request is answered as a fresh service over the same setup answers it. -/
theorem handle_fst_fresh (svc : RouteService) (req : Wire.Request) :
    (svc.handle req).1 = (svc.fresh.handle req).1 :=
  handle_fst_of_fresh (fresh_fresh svc).symm req

/-! ## Runs of requests

A run keeps the setup at every step (`fresh_handle_snd`), so each step answers as the fresh
service does (`handle_fst_of_fresh`). -/

/-- Over any run of requests on one service, whatever it served before, every answer (a
response with its profiling entry, or an error) is the answer a fresh service over the same
worker, scenario, walking model and registry gives to that request alone. -/
theorem handleAll_eq_map_fresh (svc : RouteService) (reqs : List Wire.Request) :
    svc.handleAll reqs = reqs.map fun req => (svc.fresh.handle req).1 := by
  induction reqs generalizing svc with
  | nil => rfl
  | cons req reqs ih =>
    simp only [handleAll, List.map_cons]
    rw [ih, fresh_handle_snd, handle_fst_fresh]

end RouteService

end TransitRouting
