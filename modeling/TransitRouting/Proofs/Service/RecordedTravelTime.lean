import TransitRouting.Proofs.Service.RequestErrors

/-!
# The travel time a request leaves in the profiling table

The profiling entry of an answered request records the response's travel time: the legs'
whole-second travel times added up in 32-bit arithmetic. Each leg's time is clamped to the
32-bit range and an itinerary has at most three legs, so the exact sum is at most three times
`u32Max`. The recorded time is that sum modulo 2^32: it is the exact sum only while the sum fits
in 32 bits, and a transit itinerary whose legs take longer together is recorded 2^32 or 2^33
seconds short. This does happen: a walk of 2^31 seconds to a stop and a ride of 2^31 seconds
from it take 2^32 seconds, and are recorded as none.

## What this module delivers

- `legTravelTimes`: the exact sum of a response's leg times.
- `seconds_le_u32Max` and `planToWire_legTravelTimes_le`: each leg sent takes at most
  `u32Max` seconds.
- `TimetableEngine.calcRoute_legs_le`: an itinerary of the engine has at most three legs.
- `RouteService.handle_recorded_travelTime`: the recorded travel time of every answer.
-/

set_option autoImplicit false

namespace TransitRouting

/-- The whole-second travel time of a response element: a leg's own, none for an activity. -/
def Wire.PlanElement.travTime : Wire.PlanElement → Nat
  | .leg l => l.travTime
  | .activity _ => 0

/-- The exact sum of the legs' whole-second travel times. -/
def legTravelTimes (elements : List Wire.PlanElement) : Nat :=
  elements.foldr (fun e acc => e.travTime + acc) 0

@[simp]
theorem legTravelTimes_nil : legTravelTimes [] = 0 := rfl

@[simp]
theorem legTravelTimes_cons (e : Wire.PlanElement) (els : List Wire.PlanElement) :
    legTravelTimes (e :: els) = e.travTime + legTravelTimes els := rfl

/-- Whether an itinerary element is a leg. -/
def PlanElement.isLeg : PlanElement → Bool
  | .leg _ => true
  | .activity _ => false

/-! ## The recorded sum -/

/-- Adding the legs' times from the left onto a start value, by any step that adds one
element's time. -/
theorem foldl_travTime {f : Nat → Wire.PlanElement → Nat}
    (hf : ∀ acc e, f acc e = acc + e.travTime) (els : List Wire.PlanElement) (start : Nat) :
    els.foldl f start = start + legTravelTimes els := by
  induction els generalizing start with
  | nil => simp
  | cons e els ih => simp [hf, ih, Nat.add_assoc]

/-- The recorded travel time is the exact sum modulo 2^32. -/
theorem totalTravelTime_eq (els : List Wire.PlanElement) :
    totalTravelTime els = legTravelTimes els % Nat.pow 2 32 := by
  unfold totalTravelTime
  rw [foldl_travTime (fun acc e => by cases e <;> rfl), Nat.zero_add]

/-! ## Each leg sent -/

/-- Whole seconds never leave the 32-bit range. -/
theorem seconds_le_u32Max (t : Float) : seconds t ≤ u32Max := by
  unfold seconds
  dsimp only
  split
  · exact Nat.zero_le _
  · split
    · exact Nat.le_refl _
    · exact Nat.min_le_right _ _

/-- A leg on the wire takes at most `u32Max` seconds. -/
theorem legToWire_travTime_le {l : Leg} {w : Wire.Leg} (h : legToWire l = .ok w) :
    w.travTime ≤ u32Max := by
  cases ht : l.travelTime with
  | none =>
    simp only [legToWire, ht, Except.throw_eq_error] at h
    cases h
  | some t =>
    simp only [legToWire, ht] at h
    obtain ⟨_, _, h⟩ := bind_eq_ok h
    obtain ⟨_, _, h⟩ := bind_eq_ok h
    cases h
    exact seconds_le_u32Max t

/-- The legs of an itinerary on the wire take at most `u32Max` seconds each. -/
theorem planToWire_legTravelTimes_le :
    ∀ {plan : List PlanElement} {els : List Wire.PlanElement}, planToWire plan = .ok els →
      legTravelTimes els ≤ plan.countP PlanElement.isLeg * u32Max
  | [], els, h => by
    cases h
    simp
  | x :: xs, els, h => by
    simp only [planToWire, List.mapM_cons] at h
    obtain ⟨y, hy, h⟩ := bind_eq_ok h
    obtain ⟨ys, hys, h⟩ := bind_eq_ok h
    cases h
    have ih : legTravelTimes ys ≤ xs.countP PlanElement.isLeg * u32Max :=
      planToWire_legTravelTimes_le hys
    -- an activity adds nothing; a leg adds at most `u32Max`
    cases x with
    | activity a =>
      cases hy
      simpa [Wire.PlanElement.travTime, PlanElement.isLeg] using ih
    | leg l =>
      obtain ⟨w, hw, rfl⟩ : ∃ w, legToWire l = .ok w ∧ y = .leg w := by
        cases hl : legToWire l <;> simp_all [Except.map]
      have hle := legToWire_travTime_le hw
      simp only [legTravelTimes_cons, Wire.PlanElement.travTime, List.countP_cons,
        PlanElement.isLeg, if_true]
      rw [Nat.add_mul, Nat.one_mul]
      omega

/-! ## The engine's itineraries -/

/-- A ride's itinerary has at most three legs: two walks around the transit leg. -/
theorem rideItinerary_legs_le (p : WalkParams) (s : Scenario) (req : RoutingRequest)
    (ride : Ride) : (rideItinerary p s req ride).countP PlanElement.isLeg ≤ 3 := by
  -- the itinerary is empty unless the line, the route and both stops are found
  cases hline : s.lines[ride.line]? with
  | none => simp [rideItinerary, hline]
  | some line =>
    cases hroute : line.routes[ride.route]? with
    | none => simp [rideItinerary, hline, hroute]
    | some route =>
      cases hb : (route.stopIndices[ride.board]?).bind (s.stops[·]?) with
      | none => simp [rideItinerary, hline, hroute, hb]
      | some b =>
        cases ha : (route.stopIndices[ride.alight]?).bind (s.stops[·]?) with
        | none => simp [rideItinerary, hline, hroute, hb, ha]
        | some a => simp [rideItinerary, hline, hroute, hb, ha, List.countP_cons, PlanElement.isLeg]

namespace TimetableEngine

/-- An itinerary of the engine has at most three legs. -/
theorem calcRoute_legs_le (e : TimetableEngine) (s : Scenario) (req : RoutingRequest)
    {plan : List PlanElement} (h : (e.calcRoute s req).1 = .ok plan) :
    plan.countP PlanElement.isLeg ≤ 3 := by
  simp only [calcRoute, apply_ite Prod.fst] at h
  split at h
  · cases h
  · split at h
    · -- the ride's itinerary, or the walk when the ride is not faster
      cases h
      split
      · exact rideItinerary_legs_le _ _ _ _
      · simp [PlanElement.isLeg]
    · cases h
      simp [PlanElement.isLeg]

end TimetableEngine

/-! ## The recorded travel time -/

namespace RouteService

/-- An answered request: its query was routed to an itinerary, whose wire form is the
response, and its entry records the response's travel time. -/
theorem handle_eq_ok {svc : RouteService} {req : Wire.Request} {resp : Wire.Response}
    {entry : ProfilingEntry} (h : (svc.handle req).1 = .ok (resp, entry)) :
    ∃ q plan, (svc.engine.calcRoute svc.scenario q).1 = .ok plan ∧
      planToWire plan = .ok resp.elements ∧ entry.travelTime = totalTravelTime resp.elements := by
  rw [handle_fst] at h
  obtain ⟨q, -, h⟩ := bind_eq_ok h
  obtain ⟨plan, hplan, h⟩ := bind_eq_ok h
  have hc : (svc.engine.calcRoute svc.scenario q).1 = .ok plan := by
    cases hc : (svc.engine.calcRoute svc.scenario q).1 <;> simp_all [Except.mapError]
  simp only [answer] at h
  obtain ⟨els, hels, h⟩ := bind_eq_ok h
  cases h
  exact ⟨q, plan, hc, hels, rfl⟩

/-- Every answered request records, as its travel time, the sum of its response legs'
whole-second travel times modulo 2^32. That sum is at most three times `u32Max`, and the
recorded time is the exact sum exactly when the sum fits in 32 bits. -/
theorem handle_recorded_travelTime (svc : RouteService) (req : Wire.Request)
    {resp : Wire.Response} {entry : ProfilingEntry} (h : (svc.handle req).1 = .ok (resp, entry)) :
    entry.travelTime = legTravelTimes resp.elements % Nat.pow 2 32 ∧
    legTravelTimes resp.elements ≤ 3 * u32Max ∧
    (entry.travelTime = legTravelTimes resp.elements ↔ legTravelTimes resp.elements ≤ u32Max) := by
  obtain ⟨q, plan, hc, hels, htime⟩ := handle_eq_ok h
  rw [totalTravelTime_eq] at htime
  have hlegs := TimetableEngine.calcRoute_legs_le _ _ _ hc
  have hsum : legTravelTimes resp.elements ≤ 3 * u32Max :=
    calc legTravelTimes resp.elements
        ≤ plan.countP PlanElement.isLeg * u32Max := planToWire_legTravelTimes_le hels
      _ ≤ 3 * u32Max := Nat.mul_le_mul_right _ hlegs
  refine ⟨htime, hsum, ?_⟩
  -- a number is its own residue exactly when it is below the modulus
  have hmodulus : Nat.pow 2 32 = u32Max + 1 := rfl
  rw [htime, hmodulus]
  unfold u32Max
  omega

/-- A request from a link to itself, in place, over a scenario of that one link. -/
theorem handle_recorded_travelTime_in_place :
    ∃ resp entry, ((RouteService.new 0 ⟨"x", [⟨"l", ⟨0, 0⟩, ⟨0, 0⟩, none⟩], ⟨[("l", 0)]⟩, [], []⟩
        .default .empty).handle { fromLink := some (.id "l"), toLink := some (.id "l") }).1 =
        .ok (resp, entry) ∧
      entry.travelTime = legTravelTimes resp.elements % Nat.pow 2 32 ∧
      legTravelTimes resp.elements ≤ 3 * u32Max ∧
      (entry.travelTime = legTravelTimes resp.elements ↔ legTravelTimes resp.elements ≤ u32Max) := by
  refine ⟨?resp, ?entry, ?run, handle_recorded_travelTime _ _ ?run⟩
  case run => rfl

/-- The recorded time does wrap. Two links lie 2^34 metres apart on a line; a stop `B` on the
origin link lies 2^31 metres from its midpoint, and a stop `A` on the destination link at its
midpoint. A vehicle leaves `B` at 2^31 seconds and reaches `A` 2^31 seconds later. Walking a
metre a second with no search radius, the request is answered by a walk of 2^31 seconds to `B`,
the ride, and no walk after it: 2^32 seconds in all, recorded as none. -/
theorem handle_travelTime_wraps_far_ride :
    ((RouteService.new 0
        ⟨"far", [⟨"o", ⟨0, 0⟩, ⟨0, 0⟩, none⟩, ⟨"d", ⟨17179869184, 0⟩, ⟨17179869184, 0⟩, none⟩],
          ⟨[("d", 1), ("o", 0)]⟩, [⟨"B", "o", ⟨2147483648, 0⟩⟩, ⟨"A", "d", ⟨17179869184, 0⟩⟩],
          [⟨"L", [⟨"R", "pt", [⟨"B", 0, 0⟩, ⟨"A", 2147483648, 2147483648⟩], [2147483648], none,
            [0, 1], #[2147483648]⟩]⟩]⟩
        ⟨1, 1, 0⟩ .empty).handle
      { fromLink := some (.id "o"), toLink := some (.id "d"), mode := "pt" }).1.toOption.map
      (fun r => (legTravelTimes r.1.elements, r.2.travelTime)) = some (Nat.pow 2 32, 0) := by
  decide +kernel

end RouteService

end TransitRouting
