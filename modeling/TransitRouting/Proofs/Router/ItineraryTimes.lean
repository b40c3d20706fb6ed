import TransitRouting.Proofs.Router.EarliestJourney

/-!
# The times of an itinerary are in order

The router's transit itinerary is a walk `A`, a ride `P` and a walk `E`. `A` leaves at the
departure time, `P` starts when `A` arrives, the vehicle is boarded at its departure from the
first stop plus the boarding stop's departure offset, and `E` leaves at the vehicle's departure
plus the alighting stop's arrival offset. All of these are doubles, and the router picks the
vehicle by a search over `ready - offset`, rounded; yet the four times come in order
(`Journey.rideTimesInOrder`). The walk takes a time that is a number not below zero, so `A`
leaves no later than `P` starts; the vehicle was caught (`Journey.caught`), so `P` starts no
later than the boarding; and the offsets never go backwards and fit in a word, so boarding comes
no later than alighting.

With that, a query over a scenario read from JSON and a walking model of finite, positive speed
and detour factor is refused exactly for non-finite input, and is otherwise answered with a
single walk or with a transit itinerary over the scenario whose times are in order
(`TimetableEngine.calcRoute_plan_shape`).

## What this module delivers

- `WalkParams.Positive`, with `walkTime_nonneg` and `numeric`.
- `Journey.rideTimesInOrder`: the itinerary of every journey keeps its times in order.
- `TimetableEngine.calcRoute_plan_shape`.
-/

set_option autoImplicit false

namespace TransitRouting

open Binary64

/-! ## Walking models of positive speed -/

/-- A walking model of finite, positive speed and detour factor. -/
structure WalkParams.Positive (p : WalkParams) : Prop where
  speed_finite : isFinite p.speed = true
  speed_pos : (0 : Float) < p.speed
  factor_finite : isFinite p.beelineFactor = true
  factor_pos : (0 : Float) < p.beelineFactor

namespace WalkParams.Positive

variable {p : WalkParams}

/-- A finite double above zero has a real value above zero. -/
theorem exists_pos_of_isFinite {x : Float} (hx : isFinite x = true) (hpos : (0 : Float) < x) :
    ∃ v : ℝ, toVal x = some (v : EReal) ∧ 0 < v := by
  obtain ⟨v, hv⟩ := exists_real_of_isFinite hx
  exact ⟨v, hv, EReal.coe_lt_coe_iff.1 ((lt_iff_of_toVal toVal_zero hv).1 hpos)⟩

/-- Every walking time of a model of finite, positive speed and detour factor is a value not
below zero, possibly infinite: a length not below zero, stretched and divided by a positive
speed. -/
theorem walkTime_nonneg (hp : p.Positive) {w : Float} (hw : p.IsWalkTime w) :
    ∃ x, toVal w = some x ∧ 0 ≤ x := by
  obtain ⟨b, d, hb, hd, rfl⟩ := hw
  obtain ⟨c, hc, hc0⟩ := exists_pos_of_isFinite hp.factor_finite hp.factor_pos
  obtain ⟨v, hv, hv0⟩ := exists_pos_of_isFinite hp.speed_finite hp.speed_pos
  obtain ⟨r, hr, hr0⟩ := toVal_mul_nonneg hb hd hc hc0
  obtain ⟨x, hx, hxpos, -⟩ := toVal_div_aligned hr hr0 hv hv0.ne'
  exact ⟨x, hx, hxpos hv0⟩

/-- The walking times of such a model are numbers of one sign. -/
theorem numeric (hp : p.Positive) : p.Numeric where
  toVal_ne_none hw := by
    obtain ⟨x, hx, -⟩ := hp.walkTime_nonneg hw
    simp [hx]
  add_ne_none hw hw' := by
    obtain ⟨x, hx, hx0⟩ := hp.walkTime_nonneg hw
    obtain ⟨x', hx', hx0'⟩ := hp.walkTime_nonneg hw'
    exact toVal_add_ne_none_of_sign hx hx' (.inl ⟨hx0, hx0'⟩)

end WalkParams.Positive

/-! ## The times of a journey's itinerary -/

/-- The itinerary of a journey keeps its times in order: the walk to the boarding stop leaves no
later than it arrives there, which is no later than the vehicle leaves that stop, which is no
later than the vehicle reaches the alighting stop, where the last walk leaves. -/
theorem Journey.rideTimesInOrder {text : String} {p : WalkParams} {s : Scenario}
    {req : RoutingRequest} (hs : Scenario.ofJson text = .ok s) (hreq : req.Finite)
    (hp : p.Positive) (J : Journey p s req) : RideTimesInOrder (rideItinerary p s req J.ride) := by
  -- the stops of the two walks, and the walk to the first as the walking time of its line
  obtain ⟨i, hi, hacc⟩ := Option.bind_eq_some_iff.1 J.access_eq
  obtain ⟨st, hst, haccess⟩ := candidateWalk_eq_some hacc
  obtain ⟨k, hk, heg⟩ := Option.bind_eq_some_iff.1 J.egress_eq
  obtain ⟨st', hst', -⟩ := candidateWalk_eq_some heg
  have hboard : (J.route.stopIndices[J.board]?).bind (s.stops[·]?) = some st := by simp [hi, hst]
  have halight : (J.route.stopIndices[J.alight]?).bind (s.stops[·]?) = some st' := by
    simp [hk, hst']
  -- the facts the three comparisons rest on
  obtain ⟨t, ht⟩ := hreq.exists_departureTime
  obtain ⟨x, hx, hx0⟩ := hp.walkTime_nonneg (J.access_isWalkTime hs hreq)
  have htimed := Scenario.timed_of_getElem? hs J.line_eq J.route_eq
  have hchecked := Scenario.ofJson_routesChecked hs J.line (List.mem_of_getElem? J.line_eq)
    J.route (List.mem_of_getElem? J.route_eq)
  have hoffsets := OffsetsFrom.departure_le_arrival hchecked.2.2 J.board J.alight J.board_lt
    (hchecked.2.1 ▸ J.alight_lt)
  have hvd := htimed.inWord.schedule _ J.scheduled
  simp only [rideItinerary, Journey.ride, candidateRide, J.line_eq, J.route_eq, hboard, halight,
    walkLeg, RideTimesInOrder, Option.getD_some]
  refine ⟨_, _, _, _, _, rfl, rfl, rfl, rfl, rfl, ?walk, ?caught, ?ride⟩
  case walk =>
    rw [← haccess]
    exact le_add_of_nonneg ht hx hx0
  case caught =>
    rw [← haccess]
    exact J.caught
  case ride =>
    rw [le_iff_of_toVal (toVal_vehicleArrival hvd (htimed.inWord.departureOffset_lt J.board))
      (toVal_vehicleArrival hvd (htimed.inWord.arrivalOffset_lt J.alight))]
    exact_mod_cast Nat.add_le_add_left hoffsets _

/-! ## The shape of the router's answer -/

/-- Over a scenario read from JSON, with a walking model of finite, positive speed and detour
factor, a request is refused with a routing error exactly when one of its coordinates or its
departure time is not finite. Otherwise it is answered with a single walk from the origin link
to the destination link leaving at the departure time, or with a transit itinerary over the
scenario: walk, boarding interaction, a ride on a route of one of its lines from a stop position
to a later one, alighting interaction, walk, with the links chained from origin to destination,
and its times in order, as doubles: the first walk leaves no later than the ride's leg starts,
that no later than the boarding time, and that no later than the last walk leaves. -/
theorem TimetableEngine.calcRoute_plan_shape (e : TimetableEngine) {text : String} {s : Scenario}
    (hs : Scenario.ofJson text = .ok s) (hp : e.params.Positive) (req : RoutingRequest) :
    ((∃ msg, (e.calcRoute s req).1 = .error (.routing msg)) ↔ ¬ req.Finite) ∧
    (req.Finite → ∃ plan, (e.calcRoute s req).1 = .ok plan ∧
      (IsWalkPlan req plan ∨ (IsTransitPlan s req plan ∧ RideTimesInOrder plan))) := by
  have hchecked := Scenario.ofJson_routesChecked hs
  have hwalk : ∀ d, IsWalkPlan req
      [.leg (walkLeg e.params req.fromLink req.toLink d req.departureTime req.mode)] :=
    fun _ => ⟨_, _, rfl, rfl, rfl, rfl, rfl, rfl⟩
  -- a finite request is answered with the direct walk, or with the best ride's itinerary
  have hfinite : req.Finite → ∃ plan, (e.calcRoute s req).1 = .ok plan ∧
      (IsWalkPlan req plan ∨ (IsTransitPlan s req plan ∧ RideTimesInOrder plan)) := by
    intro hreq
    have hb := HoldsCandidates.collectWalks hs e.params hreq e.access e.egress
    rw [e.calcRoute_fst_of_finite s hreq]
    refine ⟨_, rfl, ?_⟩
    cases hbest : bestRide s (collectWalks e.params s.stops req.fromCoord e.access)
        (collectWalks e.params s.stops req.toCoord e.egress) req.departureTime with
    | none => exact .inl (hwalk _)
    | some F =>
      -- the ride taken is the ride of a journey, whose itinerary keeps its times in order
      obtain ⟨J, rfl⟩ := Journey.ofCandidate hs hreq hb hp.numeric
        (mem_rideCandidates.1 (bestRide_mem hbest))
      simp only
      split
      · exact .inr ⟨rideItinerary_isTransitPlan hchecked _ req (bestRide_valid _ _ _ _ hbest),
          J.rideTimesInOrder hs hreq hp⟩
      · exact .inl (hwalk _)
  refine ⟨⟨fun ⟨msg, herr⟩ hfin => ?_, calcRoute_of_not_finite e s⟩, hfinite⟩
  -- a finite request is answered, so it is not refused
  obtain ⟨plan, hok, _⟩ := hfinite hfin
  rw [hok] at herr
  cases herr

/-- The default walking model has a finite, positive speed and detour factor, the ten-kilometre
scenario is read, and the trip across it is answered with a ride: an itinerary of five elements,
whose shape and times are as the router's answers are. -/
theorem TimetableEngine.calcRoute_plan_shape_ten_kilometres :
    WalkParams.default.Positive ∧
    (Scenario.ofJson tenKilometreRide).map (fun s =>
      (((TimetableEngine.new s WalkParams.default).calcRoute s tenKilometreRequest).1.toOption.map
        List.length)) = .ok (some 5) ∧
    match Scenario.ofJson tenKilometreRide with
    | .ok s =>
      let e := TimetableEngine.new s WalkParams.default
      ((∃ msg, (e.calcRoute s tenKilometreRequest).1 = .error (.routing msg)) ↔
          ¬ tenKilometreRequest.Finite) ∧
      (tenKilometreRequest.Finite → ∃ plan, (e.calcRoute s tenKilometreRequest).1 = .ok plan ∧
        (IsWalkPlan tenKilometreRequest plan ∨
          (IsTransitPlan s tenKilometreRequest plan ∧ RideTimesInOrder plan)))
    | .error _ => False := by
  have hp : WalkParams.default.Positive := ⟨by decide, by decide, by decide, by decide⟩
  have hride : (Scenario.ofJson tenKilometreRide).map (fun s =>
      (((TimetableEngine.new s WalkParams.default).calcRoute s tenKilometreRequest).1.toOption.map
        List.length)) = .ok (some 5) := by
    set_option maxRecDepth 100000 in decide +kernel
  refine ⟨hp, hride, ?_⟩
  split
  · next s hs =>
    exact TimetableEngine.calcRoute_plan_shape (TimetableEngine.new s WalkParams.default) hs hp
      tenKilometreRequest
  · next e hs => simp [hs, Except.map] at hride

end TransitRouting
