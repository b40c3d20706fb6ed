import Mathlib
import TransitRouting.Router.Timetable
import TransitRouting.Proofs.Scenario.Indices

/-!
# The shape of an itinerary

A query is refused when one of its coordinates or its departure time is not a finite number.
Otherwise the router answers with one of two itineraries: a single walk from the origin link to
the destination link, or a walk, a transit ride and a walk, with a `pt interaction` activity at
the boarding and at the alighting stop. That the times of a transit itinerary are in order needs
the catch condition of the ride and comes with the earliest journey
(`TimetableEngine.calcRoute_plan_shape`).

The transit itinerary stays within the scenario because of what the scenario check
guarantees. Every route of a checked scenario names its stops by their places in the stop
list, has one such place per route stop, and has offsets that never go backwards. The ride
chosen is one the router compared. Each comparison was made on a route of the scenario, from
one stop position to a later one, on a vehicle of that route's schedule.

## What this module delivers

- `Scenario.RoutesChecked` and `Scenario.ofJson_routesChecked`: what the scenario check
  guarantees of every route.
- `OffsetsFrom.departure_le_arrival`: along a checked route, leaving a stop comes no later than
  arriving at any later stop.
- `Ride.Valid` and `bestRide_valid`: the best ride is on a route of the scenario, between two
  stop positions in order, on a scheduled vehicle.
- `IsWalkPlan`, `IsTransitPlan`, `RideTimesInOrder` and `rideItinerary_isTransitPlan`.
- `TimetableEngine.calcRoute_of_not_finite`: non-finite input is refused.
-/

set_option autoImplicit false

namespace TransitRouting

/-! ## Reading successes apart -/

/-- Every result of a successful `mapM` is the result of one of the inputs. -/
theorem mem_of_mapM_ok {ε α β : Type} {f : α → Except ε β} :
    ∀ {l : List α} {l' : List β}, l.mapM f = .ok l' → ∀ y ∈ l', ∃ x ∈ l, f x = .ok y
  | [], l', h, y, hy => by
    cases h
    cases hy
  | x :: xs, l', h, y, hy => by
    rw [List.mapM_cons] at h
    obtain ⟨b, hb, h⟩ := bind_eq_ok h
    obtain ⟨bs, hbs, h⟩ := bind_eq_ok h
    cases h
    rcases List.mem_cons.1 hy with rfl | hy
    · exact ⟨x, List.mem_cons_self, hb⟩
    · obtain ⟨x', hx', hfx'⟩ := mem_of_mapM_ok hbs y hy
      exact ⟨x', List.mem_cons_of_mem x hx', hfx'⟩

/-! ## Checked routes -/

/-- Offsets that never go backwards from `previous`: each stop is reached no earlier than the
stop before it was left, and left no earlier than it was reached. -/
def OffsetsFrom : Nat → List RouteStop → Prop
  | _, [] => True
  | previous, rs :: rest =>
    previous ≤ rs.arrivalOffset ∧ rs.arrivalOffset ≤ rs.departureOffset ∧
      OffsetsFrom rs.departureOffset rest

/-- Every stop is reached no earlier than `previous`. -/
theorem OffsetsFrom.le_arrival : ∀ {previous : Nat} {rs : List RouteStop},
    OffsetsFrom previous rs → ∀ (i : Nat) (hi : i < rs.length), previous ≤ rs[i].arrivalOffset
  | _, [], _, _, hi => absurd hi (Nat.not_lt_zero _)
  | _, _ :: _, ⟨hprev, _, _⟩, 0, _ => hprev
  | _, r :: rest, ⟨hprev, hself, hrest⟩, i + 1, hi => by
    -- reached after the first stop was left, which was after it was reached
    have hnext := OffsetsFrom.le_arrival hrest i (by simpa using hi)
    simp only [List.getElem_cons_succ]
    omega

/-- Along offsets that never go backwards, leaving a stop is no later than arriving at any
later stop. -/
theorem OffsetsFrom.departure_le_arrival : ∀ {previous : Nat} {rs : List RouteStop},
    OffsetsFrom previous rs → ∀ (b a : Nat), b < a → a < rs.length →
      ((rs[b]?).map (·.departureOffset)).getD 0 ≤ ((rs[a]?).map (·.arrivalOffset)).getD 0
  | _, [], _, _, _, _, ha => absurd ha (Nat.not_lt_zero _)
  | _, _ :: _, _, _, 0, hba, _ => absurd hba (Nat.not_lt_zero _)
  | _, r :: rest, ⟨_, _, hrest⟩, 0, a + 1, _, ha => by
    -- the first stop is left before any later stop is reached
    have ha' : a < rest.length := by simpa using ha
    have hfirst := OffsetsFrom.le_arrival hrest a ha'
    simpa [List.getElem?_eq_getElem ha'] using hfirst
  | _, _ :: rest, ⟨_, _, hrest⟩, b + 1, a + 1, hba, ha => by
    simpa using OffsetsFrom.departure_le_arrival hrest b a (by omega) (by simpa using ha)

/-- What the check of a route guarantees over a scenario of `n` stops: an index below `n` for
each of its stops, one index per route stop, and offsets that never go backwards. -/
def TransitRoute.Checked (n : Nat) (route : TransitRoute) : Prop :=
  (∀ k ∈ route.stopIndices, k < n) ∧ route.stopIndices.length = route.stops.length ∧
    OffsetsFrom 0 route.stops

/-- Every route of every line of the scenario passed its check. -/
def Scenario.RoutesChecked (s : Scenario) : Prop :=
  ∀ line ∈ s.lines, ∀ route ∈ line.routes, route.Checked s.stops.length

/-- Route stops resolved through an index of the stop ids: one position among the stop ids per
route stop, and offsets that never go backwards. -/
theorem resolveStops_ok {index : TextIndex} {ids : List String} (hindex : index.IndexesFirst ids)
    {fail : String → EngineError} :
    ∀ {previous : Nat} {rs : List RouteStop} {idx : List Nat},
      resolveStops index fail previous rs = .ok idx →
        (∀ k ∈ idx, k < ids.length) ∧ idx.length = rs.length ∧ OffsetsFrom previous rs
  | _, [], idx, h => by
    cases h
    exact ⟨by simp, rfl, trivial⟩
  | previous, rs :: rest, idx, h => by
    simp only [resolveStops] at h
    split at h
    · cases h
    · rename_i i hi
      split at h
      · cases h
      · rename_i hforward
        split at h
        · rename_i more hmore
          cases h
          obtain ⟨hlt, hlen, hoffsets⟩ := resolveStops_ok hindex hmore
          simp only [Bool.or_eq_true, decide_eq_true_eq, not_or] at hforward
          refine ⟨?_, by simp [hlen], by omega, by omega, hoffsets⟩
          intro k hk
          rcases List.mem_cons.1 hk with rfl | hk
          · exact (List.getElem?_eq_some_iff.1 (hindex.getElem?_of_get? hi)).1
          · exact hlt k hk
        · cases h

/-- A route that passes its check through an index of the stop ids is checked over them. -/
theorem resolveRoute_checked {index : TextIndex} {ids : List String}
    (hindex : index.IndexesFirst ids) {lineId : String} {r r' : TransitRoute}
    (h : resolveRoute index lineId r = .ok r') : r'.Checked ids.length := by
  simp only [resolveRoute] at h
  split at h
  · cases h
  · obtain ⟨indices, hidx, h⟩ := bind_eq_ok h
    -- only the headway remains to be checked; the route is the one read, filled in
    have hfill :
        r' = { r with stopIndices := indices, schedule := expandSchedule r.departures r.headway } := by
      split at h
      · split at h
        · cases h
        · cases h
          rfl
      · cases h
        rfl
    subst hfill
    exact resolveStops_ok hindex hidx

/-- Every route of lines checked through an index of the stop ids is checked over them. -/
theorem resolveLines_checked {index : TextIndex} {ids : List String}
    (hindex : index.IndexesFirst ids) {lines lines' : List TransitLine}
    (h : resolveLines index lines = .ok lines') :
    ∀ line ∈ lines', ∀ route ∈ line.routes, route.Checked ids.length := by
  intro line hline route hroute
  obtain ⟨line0, _, hline0⟩ := mem_of_mapM_ok h line hline
  obtain ⟨routes, hroutes, hline'⟩ := bind_eq_ok hline0
  cases hline'
  obtain ⟨route0, _, hroute0⟩ := mem_of_mapM_ok hroutes route hroute
  exact resolveRoute_checked hindex hroute0

/-- A checked scenario file has every route checked. -/
theorem Scenario.ofFile_routesChecked {f : ScenarioFile} {s : Scenario}
    (h : Scenario.ofFile f = .ok s) : s.RoutesChecked := by
  obtain ⟨_, _, lines, -, -, hstops, -, -, hlines, rfl⟩ := Scenario.ofFile_eq_ok h
  simpa [Scenario.RoutesChecked] using resolveLines_checked hstops hlines

/-- A scenario read from JSON has every route checked. -/
theorem Scenario.ofJson_routesChecked {text : String} {s : Scenario}
    (h : Scenario.ofJson text = .ok s) : s.RoutesChecked := by
  simp only [Scenario.ofJson] at h
  split at h
  · exact Scenario.ofFile_routesChecked h
  · cases h

/-! ## Rides -/

/-- The departure found for a time is one of the route's scheduled departures. -/
theorem TransitRoute.nextDeparture_mem {r : TransitRoute} {t : Float} {vd : Nat}
    (h : r.nextDeparture t = some vd) : vd ∈ r.schedule :=
  Array.mem_of_getElem? h

/-- A ride on a route of the scenario, between two of its stop positions, boarding before
alighting, on a vehicle of the route's schedule. -/
def Ride.Valid (s : Scenario) (ride : Ride) : Prop :=
  ∃ line route, s.lines[ride.line]? = some line ∧ line.routes[ride.route]? = some route ∧
    ride.board < ride.alight ∧ ride.alight < route.stopIndices.length ∧
    ride.vehicleDeparture ∈ route.schedule

section Invariant

variable {P : Ride → Prop}

/-- Keeping the better of two rides keeps a property both have. -/
theorem keepBetter_mem {best : Option Ride} {ride : Ride} (hbest : ∀ r ∈ best, P r)
    (hride : P ride) : ∀ r ∈ keepBetter best ride, P r := by
  intro r hr
  unfold keepBetter at hr
  split at hr
  · cases hr
    exact hride
  · exact hbest r hr

/-- The best ride over one route has a property when the best so far has it and so does every
ride on that route between a boarding position and a later one, on a scheduled vehicle. -/
theorem bestOnRoute_mem (access egress : Array (Option Float)) (departure : Float)
    (li ri : Nat) (route : TransitRoute) {best : Option Ride} (hbest : ∀ r ∈ best, P r)
    (hnew : ∀ (board alight vd : Nat) (arrival walked : Float), board < alight →
      alight < route.stopIndices.length → vd ∈ route.schedule →
      P { line := li, route := ri, board, alight, vehicleDeparture := vd, arrival, walked }) :
    ∀ r ∈ bestOnRoute access egress departure li ri route best, P r := by
  simp only [bestOnRoute]
  -- the outer fold runs over boarding positions, the inner one over later alighting positions
  refine List.foldlRecOn (motive := fun b => ∀ r ∈ b, P r) _ _ hbest ?_
  intro best hbest board _
  split
  · exact hbest
  · split
    · exact hbest
    · rename_i vd hvd
      refine List.foldlRecOn (motive := fun b => ∀ r ∈ b, P r) _ _ hbest ?_
      intro best hbest alight halight
      obtain ⟨hlt, hin⟩ : board < alight ∧ alight < route.stopIndices.length := by
        simpa [List.mem_filter, List.mem_range, and_comm] using halight
      split
      · exact hbest
      · exact keepBetter_mem hbest
          (hnew board alight _ _ _ hlt hin (TransitRoute.nextDeparture_mem hvd))

end Invariant

/-- The best ride of a scenario rides one of its routes, boarding before it alights, on a
vehicle of the route's schedule. -/
theorem bestRide_valid (s : Scenario) (access egress : Array (Option Float)) (departure : Float)
    {ride : Ride} (h : bestRide s access egress departure = some ride) : ride.Valid s := by
  have hall : ∀ r ∈ bestRide s access egress departure, r.Valid s := by
    unfold bestRide
    refine List.foldlRecOn (motive := fun b : Option Ride => ∀ r ∈ b, r.Valid s) _ _
      (fun r hr => by cases hr) ?_
    rintro best hbest ⟨line, li⟩ hline
    have hli : s.lines[li]? = some line := List.mem_zipIdx_iff_getElem?.1 hline
    refine List.foldlRecOn (motive := fun b : Option Ride => ∀ r ∈ b, r.Valid s) _ _ hbest ?_
    rintro best hbest ⟨route, ri⟩ hroute
    have hri : line.routes[ri]? = some route := List.mem_zipIdx_iff_getElem?.1 hroute
    exact bestOnRoute_mem access egress departure li ri route hbest
      fun board alight _ _ _ hlt hin hvd => ⟨line, route, hli, hri, hlt, hin, hvd⟩
  exact hall ride h

/-! ## Itineraries -/

/-- A single walk leg from the request's origin link to its destination link, leaving at the
departure time. -/
def IsWalkPlan (req : RoutingRequest) (plan : List PlanElement) : Prop :=
  ∃ (leg : Leg) (walk : GenericRoute), plan = [.leg leg] ∧ leg.mode = "walk" ∧
    leg.route = .generic walk ∧ walk.startLink = req.fromLink ∧ walk.endLink = req.toLink ∧
    leg.departureTime = some req.departureTime

/-- A transit itinerary over the scenario: a walk `A` from the origin link, a `pt interaction`
at the boarding stop, a ride `P` on a route of a line of the scenario from stop position `b`
to a later position `a`, a `pt interaction` at the alighting stop, and a walk `E` to the
destination link. The links chain from each element to the next; `A` leaves at the departure
time and `P` when `A` arrives; the ride is one scheduled vehicle, boarded at the departure
offset of `b` and left at the arrival offset of `a`, which is no earlier. -/
def IsTransitPlan (s : Scenario) (req : RoutingRequest) (plan : List PlanElement) : Prop :=
  ∃ (A P E : Leg) (boarding alighting : Activity) (walkA walkE : GenericRoute) (pt : PtRoute)
    (line : TransitLine) (route : TransitRoute) (b a : Nat) (access egress : Stop),
    plan = [.leg A, .activity boarding, .leg P, .activity alighting, .leg E] ∧
    -- two walks around a transit ride, with an interaction at either stop
    A.mode = "walk" ∧ A.route = .generic walkA ∧ E.mode = "walk" ∧ E.route = .generic walkE ∧
    P.route = .pt pt ∧ boarding.actType = ptInteraction ∧ alighting.actType = ptInteraction ∧
    -- the ride is on a route of the scenario, between two of its stop positions in order
    line ∈ s.lines ∧ route ∈ line.routes ∧ pt.lineId = line.id ∧ pt.routeId = route.id ∧
    b < a ∧ a < route.stopIndices.length ∧
    (route.stopIndices[b]?).bind (s.stops[·]?) = some access ∧
    (route.stopIndices[a]?).bind (s.stops[·]?) = some egress ∧
    pt.accessStopId = access.id ∧ pt.egressStopId = egress.id ∧
    -- the links chain from the origin to the destination
    walkA.startLink = req.fromLink ∧ walkA.endLink = boarding.linkId ∧
    boarding.linkId = pt.generic.startLink ∧ pt.generic.startLink = access.link ∧
    pt.generic.endLink = alighting.linkId ∧ alighting.linkId = egress.link ∧
    egress.link = walkE.startLink ∧ walkE.endLink = req.toLink ∧
    -- the times
    A.departureTime = some req.departureTime ∧
    P.departureTime = some (req.departureTime + A.travelTime.getD 0) ∧
    (∃ vd ∈ route.schedule,
      pt.boardingTime =
        some (Float.ofNat vd + Float.ofNat (((route.stops[b]?).map (·.departureOffset)).getD 0)) ∧
      E.departureTime =
        some (Float.ofNat vd + Float.ofNat (((route.stops[a]?).map (·.arrivalOffset)).getD 0))) ∧
    ((route.stops[b]?).map (·.departureOffset)).getD 0 ≤
      ((route.stops[a]?).map (·.arrivalOffset)).getD 0

/-- The times of a walk, ride and walk are in order, compared as doubles: the walk to the
boarding stop leaves no later than the ride's leg starts, that is no later than the vehicle is
boarded, and that is no later than the walk from the alighting stop leaves. -/
def RideTimesInOrder : List PlanElement → Prop
  | [.leg A, .activity _, .leg P, .activity _, .leg E] =>
    ∃ (tA tP tB tE : Float) (pt : PtRoute), A.departureTime = some tA ∧
      P.departureTime = some tP ∧ P.route = .pt pt ∧ pt.boardingTime = some tB ∧
      E.departureTime = some tE ∧ tA ≤ tP ∧ tP ≤ tB ∧ tB ≤ tE
  | _ => False

/-- The stop at a position of a checked route exists. -/
theorem stop_of_checked {n : Nat} {stops : List Stop} (hn : n = stops.length)
    {route : TransitRoute} (hroute : route.Checked n) {i : Nat}
    (hi : i < route.stopIndices.length) :
    ∃ stop, (route.stopIndices[i]?).bind (stops[·]?) = some stop := by
  have hk : route.stopIndices[i] < stops.length := hn ▸ hroute.1 _ (List.getElem_mem hi)
  exact ⟨stops[route.stopIndices[i]], by simp [hi, hk]⟩

/-- The itinerary of a valid ride over a scenario with checked routes is a transit itinerary. -/
theorem rideItinerary_isTransitPlan {s : Scenario} (hs : s.RoutesChecked) (p : WalkParams)
    (req : RoutingRequest) {ride : Ride} (hride : ride.Valid s) :
    IsTransitPlan s req (rideItinerary p s req ride) := by
  obtain ⟨line, route, hl, hr, hba, han, hvd⟩ := hride
  have hline : line ∈ s.lines := List.mem_of_getElem? hl
  have hroute : route ∈ line.routes := List.mem_of_getElem? hr
  have hchecked := hs line hline route hroute
  obtain ⟨access, hacc⟩ := stop_of_checked rfl hchecked (Nat.lt_trans hba han)
  obtain ⟨egress, hegr⟩ := stop_of_checked rfl hchecked han
  -- the offsets go forward from the boarding position to the alighting one
  have horder := OffsetsFrom.departure_le_arrival hchecked.2.2 ride.board ride.alight hba
    (hchecked.2.1 ▸ han)
  simp only [rideItinerary, hl, hr, hacc, hegr]
  exact ⟨_, _, _, _, _, _, _, _, line, route, ride.board, ride.alight, access, egress, rfl, rfl,
    rfl, rfl, rfl, rfl, rfl, rfl, hline, hroute, rfl, rfl, hba, han, hacc, hegr, rfl, rfl, rfl,
    rfl, rfl, rfl, rfl, rfl, rfl, rfl, rfl, rfl, ⟨ride.vehicleDeparture, hvd, rfl, rfl⟩, horder⟩

/-! ## Routing a request -/

/-- Both ends of a request and its departure time are finite numbers. -/
def RoutingRequest.Finite (req : RoutingRequest) : Prop :=
  Binary64.isFinite req.fromCoord.x = true ∧ Binary64.isFinite req.fromCoord.y = true ∧
    Binary64.isFinite req.toCoord.x = true ∧ Binary64.isFinite req.toCoord.y = true ∧
    Binary64.isFinite req.departureTime = true

theorem RoutingRequest.finite_iff (req : RoutingRequest) :
    req.Finite ↔ (req.fromCoord.isFinite && req.toCoord.isFinite &&
      Binary64.isFinite req.departureTime) = true := by
  simp only [RoutingRequest.Finite, Coord.isFinite, Bool.and_eq_true, and_assoc]

namespace TimetableEngine

/-- A request with a non-finite point or time is refused with a routing error. -/
theorem calcRoute_of_not_finite (e : TimetableEngine) (s : Scenario) {req : RoutingRequest}
    (h : ¬ req.Finite) : ∃ msg, (e.calcRoute s req).1 = .error (.routing msg) := by
  rw [RoutingRequest.finite_iff] at h
  simp only [calcRoute, apply_ite Prod.fst]
  rw [if_pos (by rw [Bool.not_eq_true']; exact Bool.eq_false_iff.2 h)]
  exact ⟨_, rfl⟩

end TimetableEngine

end TransitRouting
