import TransitRouting.Plan.Basic
import TransitRouting.Wire.Messages
import TransitRouting.Service.Error

/-!
# Itineraries on the wire

An itinerary is sent as wire plan elements. Times become whole seconds: truncated towards
zero, with negative times and NaN giving 0 and times past the 32-bit range giving its largest
value. A leg must have a travel time, its attributes must be strings, doubles, 32-bit integers
or booleans (checked in key order), and a transit route must have a boarding time; the first
element that fails these checks fails the whole itinerary.

## What this module delivers

- `seconds t`: whole seconds of a time.
- `activityToWire`, `legToWire`, `planToWire`.
- `totalTravelTime`: the sum of the legs' whole-second travel times, modulo 2^32.
-/

set_option autoImplicit false

namespace TransitRouting

/-- The largest unsigned 32-bit value. -/
def u32Max : Nat := 4294967295

/-- Whole seconds of a time: truncated towards zero, clamped to the unsigned 32-bit range,
and 0 for NaN. -/
def seconds (t : Float) : Nat :=
  let p := Binary64.parts t
  if Binary64.isNaN t || p.negative then 0
  else if p.field = 2047 then u32Max
  else
    let e := p.exponent
    let whole :=
      if e ≥ 0 then p.significand * Nat.pow 2 e.toNat else p.significand / Nat.pow 2 (-e).toNat
    min whole u32Max

/-- An activity on the wire. -/
def activityToWire (a : Activity) : Wire.Activity :=
  { actType := a.actType, linkId := a.linkId, x := a.coord.x, y := a.coord.y,
    startTime := a.startTime.map seconds, endTime := a.endTime.map seconds,
    maxDur := a.maxDuration.map seconds }

/-- A generic route on the wire. -/
def genericToWire (r : GenericRoute) : Wire.GenericRoute :=
  { startLink := r.startLink, endLink := r.endLink, distance := r.distance,
    travTime := r.travelTime.map seconds }

/-- A route on the wire: a transit route needs its boarding time. -/
def routeToWire : Route → Except RouteError Wire.LegRoute
  | .generic r => .ok (.generic (genericToWire r))
  | .network r => .ok (.network (genericToWire r.generic) r.linkIds)
  | .pt r =>
    match r.boardingTime with
    | none => .error (.missingBoardingTime r.accessStopId r.egressStopId)
    | some b =>
      .ok (.pt (genericToWire r.generic)
        { accessFacilityId := r.accessStopId, egressFacilityId := r.egressStopId,
          boardingTime := seconds b, transitLineId := r.lineId, transitRouteId := r.routeId })

/-- An attribute on the wire, if the wire can carry its type. -/
def attributeToWire (key : String) : AttributeValue → Except RouteError Wire.AttributeValue
  | .string s => .ok (.string s)
  | .double x => .ok (.double x)
  | .int i => .ok (.int i)
  | .bool b => .ok (.bool b)
  | v => .error (.unsupportedAttribute key v.typeName)

/-- A leg on the wire: travel time first, then the attributes in key order, then the route. -/
def legToWire (l : Leg) : Except RouteError Wire.Leg := do
  let some travelTime := l.travelTime | throw (.missingTravelTime l.mode)
  let attributes ← l.attributes.entries.mapM fun (k, v) => do return (k, ← attributeToWire k v)
  let route ← routeToWire l.route
  return { mode := l.mode, routingMode := l.routingMode, travTime := seconds travelTime,
           depTime := l.departureTime.map seconds, attributes, route }

/-- An itinerary on the wire; the first element that cannot be sent fails it. -/
def planToWire (plan : List PlanElement) : Except RouteError (List Wire.PlanElement) :=
  plan.mapM fun
    | .activity a => .ok (.activity (activityToWire a))
    | .leg l => (legToWire l).map .leg

/-- The sum of the legs' whole-second travel times, modulo 2^32. -/
def totalTravelTime (elements : List Wire.PlanElement) : Nat :=
  (elements.foldl (fun acc e => match e with
    | .leg l => acc + l.travTime
    | .activity _ => acc) 0) % Nat.pow 2 32

end TransitRouting
