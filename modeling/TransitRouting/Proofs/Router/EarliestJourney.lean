import TransitRouting.Proofs.Router.Scan
import TransitRouting.Proofs.Router.Departures
import TransitRouting.Proofs.Router.CandidateStops
import TransitRouting.Proofs.Scenario.TimeBounds

/-!
# The router finds the earliest journey

A journey by one ride walks from the origin to a stop that is a candidate for it, catches a
vehicle of a route there, rides to a later stop of the route that is a candidate for the
destination and walks on (`Journey`). Its arrival and its walking are added up as doubles, in
the router's order. The router weighs only the first vehicle it can catch at each boarding
position and keeps a running best. Still, over a scenario read from JSON and a finite request,
it rides exactly when some journey arrives strictly before walking the whole way would; it then
rides a journey that arrives no later than any, walks least among those that arrive as early,
and comes first in the scan among those that also walk as much. Otherwise it walks, so ties go
to walking (`TimetableEngine.calcRoute_earliest_journey`).

Three facts carry this. Every ride the router weighs is a journey (`Journey.ofCandidate`): a
departure that is not before the rounded `ready - offset` has its vehicle reach the stop in
time (`not_lt_sub_iff`). Every journey is matched by a ride the router weighs at the same place,
on the same vehicle or an earlier one, that arrives no later (`exists_candidate_le`): the times
of a scenario fit in a word, so the vehicle's arrival is exact and adding the walk on keeps the
order. And the running best is the first ride that no ride beats (`foldl_keepBetter`).

The walking model needs only a finite speed and a positive detour factor. When the speed is not
zero and the factor finite, every walking time is a number of the speed's sign, and so is every
sum the router compares (`WalkParams.Numeric`). Otherwise every walking time is NaN or one
infinity, no journey beats the direct walk, and the router walks.

## What this module delivers

- `candidateWalk` and `walkAt_collectWalks_eq`: the buffers hold the candidate walking times.
- `WalkParams.IsWalkTime`, `WalkParams.Numeric` and `WalkParams.numeric_or_unbounded`.
- `Journey` with `arrival`, `walked`, `key`, `ride` and `IsFirstBest`; `planArrival`.
- `Journey.ofCandidate`, `Journey.exists_candidate_le` and `bestRide_isFirstBest`.
- `TimetableEngine.calcRoute_earliest_journey`.
-/

set_option autoImplicit false

namespace TransitRouting

open Binary64

/-! ## Candidate stops -/

/-- The walking time from a point to the stop at index `i`, when that stop is a candidate for the
point: within the search radius, or, when no stop is, the first of least distance. -/
def candidateWalk (p : WalkParams) (stops : List Stop) (origin : Coord) (i : Nat) :
    Option Float :=
  let ds := stops.map fun st => origin.distance st.coord
  (ds[i]?).bind fun d =>
    if d ≤ p.searchRadius ∨ ((∀ e ∈ ds, ¬ e ≤ p.searchRadius) ∧ IsFirstLeast ds i)
    then some (p.walkTime d) else none

/-- A candidate walking time is the time for the straight line from the point to its stop. -/
theorem candidateWalk_eq_some {p : WalkParams} {stops : List Stop} {origin : Coord} {i : Nat}
    {w : Float} (h : candidateWalk p stops origin i = some w) :
    ∃ st, stops[i]? = some st ∧ w = p.walkTime (origin.distance st.coord) := by
  simp only [candidateWalk, List.getElem?_map, Option.bind_eq_some_iff,
    Option.map_eq_some_iff] at h
  obtain ⟨d, ⟨st, hst, rfl⟩, hw⟩ := h
  split_ifs at hw
  exact ⟨st, hst, (Option.some.inj hw).symm⟩

/-- Over distances that are not NaN, the buffer the router fills holds, at every route position,
the candidate walking time of the stop there. -/
theorem walkAt_collectWalks_eq (p : WalkParams) {stops : List Stop} {origin : Coord}
    (buffer : Array (Option Float)) (indices : List Nat) (pos : Nat)
    (hnan : ∀ s ∈ stops, toVal (origin.distance s.coord) ≠ none) :
    walkAt (collectWalks p stops origin buffer) indices pos =
      (indices[pos]?).bind (candidateWalk p stops origin) := by
  simp only [walkAt]
  congr 1
  funext i
  rw [← Array.getElem?_toList, collectWalks_eq_mapIdx p stops origin buffer hnan,
    List.getElem?_mapIdx]
  simp only [candidateWalk]
  cases (stops.map fun st => origin.distance st.coord)[i]? <;> rfl

/-! ## Walking times -/

/-- A walking time of the model: the time for a straight line of non-negative length. -/
def WalkParams.IsWalkTime (p : WalkParams) (w : Float) : Prop :=
  ∃ (b : Float) (d : EReal), toVal b = some d ∧ 0 ≤ d ∧ w = p.walkTime b

theorem Coord.notNaN_of_isFinite {c : Coord} (h : c.isFinite = true) : c.NotNaN := by
  simp only [Coord.isFinite, Bool.and_eq_true] at h
  obtain ⟨x, hx⟩ := exists_real_of_isFinite h.1
  obtain ⟨y, hy⟩ := exists_real_of_isFinite h.2
  exact ⟨isNaN_eq_false (by simp [hx]), isNaN_eq_false (by simp [hy])⟩

/-- The walk from a finite point to a point with no NaN coordinate takes a walking time. -/
theorem WalkParams.isWalkTime_distance (p : WalkParams) {a b : Coord} (ha : a.isFinite = true)
    (hb : b.NotNaN) : p.IsWalkTime (p.walkTime (a.distance b)) := by
  obtain ⟨d, hd, hd0⟩ := Coord.distance_nonneg ha hb
  exact ⟨_, d, hd, hd0, rfl⟩

theorem Scenario.ofJson_eq_ok {text : String} {s : Scenario} (h : Scenario.ofJson text = .ok s) :
    ∃ f, ScenarioFile.parse text = .ok f ∧ Scenario.ofFile f = .ok s := by
  simp only [Scenario.ofJson] at h
  split at h
  · exact ⟨_, ‹_›, h⟩
  · cases h

/-- Over a scenario read from JSON, a candidate walking time from a finite point is a walking
time. -/
theorem Scenario.candidateWalk_isWalkTime {text : String} {s : Scenario}
    (hs : Scenario.ofJson text = .ok s) (p : WalkParams) {origin : Coord}
    (horigin : origin.isFinite = true) {i : Nat} {w : Float}
    (h : candidateWalk p s.stops origin i = some w) : p.IsWalkTime w := by
  obtain ⟨f, hf, hfile⟩ := Scenario.ofJson_eq_ok hs
  obtain ⟨st, hst, rfl⟩ := candidateWalk_eq_some h
  exact p.isWalkTime_distance horigin
    (Scenario.stops_notNaN_of_parse hf hfile st (List.mem_of_getElem? hst))

/-- Walking times that are numbers of one sign: each has a value, and so has the sum of two. -/
structure WalkParams.Numeric (p : WalkParams) : Prop where
  toVal_ne_none : ∀ {w}, p.IsWalkTime w → toVal w ≠ none
  add_ne_none : ∀ {w w'}, p.IsWalkTime w → p.IsWalkTime w' → toVal (w + w') ≠ none

/-- With a finite speed and a positive detour factor, the walking times are numbers of one sign,
or each is NaN or one and the same infinity. -/
theorem WalkParams.numeric_or_unbounded {p : WalkParams} (hspeed : isFinite p.speed = true)
    (hfactor : (0 : Float) < p.beelineFactor) :
    p.Numeric ∨ ∃ σ, ∀ {w}, p.IsWalkTime w → toVal w = none ∨ unpacked w = .infinity σ := by
  rcases walkTime_regimes hspeed hfactor with ⟨v, hv0, -, hsign⟩ | ⟨σ, hinf⟩
  · -- every time has a value of the speed's sign, and two of one sign add up to a value
    have hval : ∀ {w}, p.IsWalkTime w →
        ∃ x, toVal w = some x ∧ (0 < v → 0 ≤ x) ∧ (v < 0 → x ≤ 0) := by
      rintro w ⟨b, d, hb, hd, rfl⟩
      exact hsign hb hd
    refine .inl ⟨fun hw => ?_, fun hw hw' => ?_⟩
    · obtain ⟨x, hx, -⟩ := hval hw
      simp [hx]
    · obtain ⟨x, hx, hxpos, hxneg⟩ := hval hw
      obtain ⟨x', hx', hxpos', hxneg'⟩ := hval hw'
      rcases hv0.lt_or_gt with hneg | hpos
      · exact toVal_add_ne_none_of_sign hx hx' (.inr ⟨hxneg hneg, hxneg' hneg⟩)
      · exact toVal_add_ne_none_of_sign hx hx' (.inl ⟨hxpos hpos, hxpos' hpos⟩)
  · refine .inr ⟨σ, ?_⟩
    rintro w ⟨b, d, hb, hd, rfl⟩
    exact hinf hb hd

/-! ## Journeys -/

/-- The time a request would arrive by walking the whole way. -/
def RoutingRequest.directArrival (req : RoutingRequest) (p : WalkParams) : Float :=
  req.departureTime + p.walkTime (req.fromCoord.distance req.toCoord)

/-- A journey by one ride: walk from the origin to the stop at position `board` of a route of the
scenario, when that stop is a candidate for the origin; leave on the vehicle that left the first
stop of the route at `departure`, which reaches the stop no earlier than the walk does; ride to a
later position `alight`, whose stop is a candidate for the destination, and walk on. -/
structure Journey (p : WalkParams) (s : Scenario) (req : RoutingRequest) where
  lineIdx : Nat
  routeIdx : Nat
  board : Nat
  alight : Nat
  departure : Nat
  line : TransitLine
  route : TransitRoute
  access : Float
  egress : Float
  line_eq : s.lines[lineIdx]? = some line
  route_eq : line.routes[routeIdx]? = some route
  board_lt : board < alight
  alight_lt : alight < route.stopIndices.length
  scheduled : departure ∈ route.schedule
  access_eq : (route.stopIndices[board]?).bind (candidateWalk p s.stops req.fromCoord) = some access
  egress_eq : (route.stopIndices[alight]?).bind (candidateWalk p s.stops req.toCoord) = some egress
  caught : req.departureTime + access ≤
    Float.ofNat departure + Float.ofNat ((route.stops[board]?).map (·.departureOffset) |>.getD 0)

namespace Journey

variable {p : WalkParams} {s : Scenario} {req : RoutingRequest}

/-- When a journey reaches the destination: the vehicle's arrival at the alighting stop, then
the walk on, added as doubles. -/
def arrival (J : Journey p s req) : Float :=
  Float.ofNat J.departure + Float.ofNat ((J.route.stops[J.alight]?).map (·.arrivalOffset) |>.getD 0) +
    J.egress

/-- How long a journey walks: its walk to the boarding stop plus its walk from the alighting
stop. -/
def walked (J : Journey p s req) : Float := J.access + J.egress

/-- Where a journey comes in the router's scan: by line, then route, boarding and alighting
position. -/
def key (J : Journey p s req) : ℕ ×ₗ ℕ ×ₗ ℕ ×ₗ ℕ :=
  toLex (J.lineIdx, toLex (J.routeIdx, toLex (J.board, J.alight)))

/-- The ride of a journey, as the router records one. -/
def ride (J : Journey p s req) : Ride :=
  candidateRide J.lineIdx J.routeIdx J.board J.alight J.departure J.route J.access J.egress

@[simp] theorem ride_arrival (J : Journey p s req) : J.ride.arrival = J.arrival := rfl

@[simp] theorem ride_walked (J : Journey p s req) : J.ride.walked = J.walked := rfl

@[simp] theorem ride_key (J : Journey p s req) : J.ride.key = J.key := rfl

/-- A journey that arrives no later than any; that walks no more than any journey arriving as
early; and that comes no later in the scan than any journey that also walks as much. -/
def IsFirstBest (best : Journey p s req) : Prop :=
  ∀ J : Journey p s req, best.arrival ≤ J.arrival ∧
    ((J.arrival == best.arrival) = true → best.walked ≤ J.walked ∧
      ((J.walked == best.walked) = true → best.key ≤ J.key))

end Journey

/-- When a plan reaches its destination: the departure plus the travel time of its last leg. -/
def planArrival (plan : List PlanElement) : Option Float :=
  match plan.getLast? with
  | some (.leg E) => E.departureTime.bind fun t => E.travelTime.map (t + ·)
  | _ => none

/-! ## What the router relies on -/

namespace Binary64

theorem double_lt_of_le_of_lt {x y z : Float} (hxy : x ≤ y) (hyz : y < z) : x < z := by
  obtain ⟨a, b, ha, hb, hab⟩ := le_iff.1 hxy
  obtain ⟨b', c, hb', hc, hbc⟩ := lt_iff.1 hyz
  obtain rfl : b = b' := Option.some.inj (hb.symm.trans hb')
  exact (lt_iff_of_toVal ha hc).2 (hab.trans_lt hbc)

end Binary64

/-- What the router relies on of a route: a sorted schedule, and times that fit in a word. -/
structure TransitRoute.Timed (r : TransitRoute) : Prop where
  sorted : r.schedule.toList.Pairwise (· ≤ ·)
  inWord : r.RunsInWord

/-- Every route of a scenario read from JSON has a sorted schedule and times that fit in a
word. -/
theorem Scenario.ofJson_timed {text : String} {s : Scenario} (hs : Scenario.ofJson text = .ok s) :
    ∀ line ∈ s.lines, ∀ route ∈ line.routes, route.Timed := by
  intro line hline route hroute
  obtain ⟨f, -, hfile⟩ := Scenario.ofJson_eq_ok hs
  exact ⟨((Scenario.ofFile_schedule_exact hfile line hline route hroute).1).imp le_of_lt,
    Scenario.ofJson_runsInWord hs line hline route hroute⟩

/-- The route at a place of the scenario has a sorted schedule and times that fit in a word. -/
theorem Scenario.timed_of_getElem? {text : String} {s : Scenario}
    (hs : Scenario.ofJson text = .ok s) {li ri : Nat} {line : TransitLine} {route : TransitRoute}
    (hline : s.lines[li]? = some line) (hroute : line.routes[ri]? = some route) : route.Timed :=
  Scenario.ofJson_timed hs line (List.mem_of_getElem? hline) route (List.mem_of_getElem? hroute)

/-- Buffers that hold, at every route position, the candidate walking time from the request's
origin to the stop there, and from that stop to the request's destination. -/
structure HoldsCandidates (p : WalkParams) (s : Scenario) (req : RoutingRequest)
    (access egress : Array (Option Float)) : Prop where
  access : ∀ indices pos,
    walkAt access indices pos = (indices[pos]?).bind (candidateWalk p s.stops req.fromCoord)
  egress : ∀ indices pos,
    walkAt egress indices pos = (indices[pos]?).bind (candidateWalk p s.stops req.toCoord)

/-- Over a scenario read from JSON, the buffers the router fills for a finite request hold the
candidate walking times, whatever they held before. -/
theorem HoldsCandidates.collectWalks {text : String} {s : Scenario}
    (hs : Scenario.ofJson text = .ok s) (p : WalkParams) {req : RoutingRequest}
    (hreq : req.Finite) (bufA bufE : Array (Option Float)) :
    HoldsCandidates p s req (collectWalks p s.stops req.fromCoord bufA)
      (collectWalks p s.stops req.toCoord bufE) := by
  obtain ⟨f, hf, hfile⟩ := Scenario.ofJson_eq_ok hs
  rw [RoutingRequest.finite_iff] at hreq
  simp only [Bool.and_eq_true] at hreq
  exact ⟨fun indices pos => walkAt_collectWalks_eq p bufA indices pos
      (Scenario.distance_ne_nan hf hfile hreq.1.1),
    fun indices pos => walkAt_collectWalks_eq p bufE indices pos
      (Scenario.distance_ne_nan hf hfile hreq.1.2)⟩

/-- A candidate walking time read at a route position is a walking time. -/
theorem Scenario.bind_candidateWalk_isWalkTime {text : String} {s : Scenario}
    (hs : Scenario.ofJson text = .ok s) (p : WalkParams) {origin : Coord}
    (horigin : origin.isFinite = true) {indices : List Nat} {pos : Nat} {w : Float}
    (h : (indices[pos]?).bind (candidateWalk p s.stops origin) = some w) : p.IsWalkTime w := by
  obtain ⟨i, -, hi⟩ := Option.bind_eq_some_iff.1 h
  exact Scenario.candidateWalk_isWalkTime hs p horigin hi

theorem RoutingRequest.Finite.exists_departureTime {req : RoutingRequest} (hreq : req.Finite) :
    ∃ t : ℝ, toVal req.departureTime = some (t : EReal) :=
  exists_real_of_isFinite hreq.2.2.2.2

theorem RoutingRequest.Finite.from_isFinite {req : RoutingRequest} (hreq : req.Finite) :
    req.fromCoord.isFinite = true := by
  simp [Coord.isFinite, hreq.1, hreq.2.1]

theorem RoutingRequest.Finite.to_isFinite {req : RoutingRequest} (hreq : req.Finite) :
    req.toCoord.isFinite = true := by
  simp [Coord.isFinite, hreq.2.2.1, hreq.2.2.2.1]

/-- The time a finite request reaches a stop, after a walking time that is a number, is a
number. -/
theorem RoutingRequest.Finite.ready_ne_none {req : RoutingRequest} (hreq : req.Finite)
    {p : WalkParams} (hnum : p.Numeric) {w : Float} (hw : p.IsWalkTime w) :
    toVal (req.departureTime + w) ≠ none := by
  obtain ⟨t, ht⟩ := hreq.exists_departureTime
  exact toVal_add_ne_none_of_finite ht (hnum.toVal_ne_none hw)

/-- On a route whose times fit in a word, a departure is not before the rounded time left before
the vehicle must leave the first stop exactly when the vehicle reaches the boarding position no
earlier than the traveller. -/
theorem TransitRoute.Timed.caught_iff {r : TransitRoute} (h : r.Timed) {ready : Float}
    (hready : toVal ready ≠ none) {d : Nat} (hd : d ∈ r.schedule) (pos : Nat) :
    ¬ Float.ofNat d < ready - Float.ofNat ((r.stops[pos]?).map (·.departureOffset) |>.getD 0) ↔
      ready ≤ Float.ofNat d + Float.ofNat ((r.stops[pos]?).map (·.departureOffset) |>.getD 0) :=
  not_lt_sub_iff hready (lt_trans (h.inWord.schedule d hd) (by norm_num))
    (lt_trans (h.inWord.departureOffset_lt pos) (by norm_num))

/-- The vehicle's arrival at a stop, from a departure and an offset that fit in a word, is the
exact sum. -/
theorem toVal_vehicleArrival {d o : Nat} (hd : d < 2 ^ 32) (ho : o < 2 ^ 32) :
    toVal (Float.ofNat d + Float.ofNat o) = some (((d : ℝ) + o : ℝ) : EReal) :=
  toVal_ofNat_add_ofNat (by omega) (by omega)

/-! ## Rides and journeys -/

section Rides

variable {text : String} {p : WalkParams} {s : Scenario} {req : RoutingRequest}
  {access egress : Array (Option Float)}

namespace Journey

theorem access_isWalkTime (hs : Scenario.ofJson text = .ok s) (hreq : req.Finite)
    (J : Journey p s req) : p.IsWalkTime J.access :=
  Scenario.bind_candidateWalk_isWalkTime hs p hreq.from_isFinite J.access_eq

theorem egress_isWalkTime (hs : Scenario.ofJson text = .ok s) (hreq : req.Finite)
    (J : Journey p s req) : p.IsWalkTime J.egress :=
  Scenario.bind_candidateWalk_isWalkTime hs p hreq.to_isFinite J.egress_eq

/-- A journey arrives when its vehicle, exactly, reaches the alighting stop, plus a walking
time. -/
theorem arrival_form (hs : Scenario.ofJson text = .ok s) (hreq : req.Finite)
    (J : Journey p s req) :
    ∃ (x : Float) (a : ℝ), toVal x = some (a : EReal) ∧ p.IsWalkTime J.egress ∧
      J.arrival = x + J.egress := by
  have htimed := Scenario.timed_of_getElem? hs J.line_eq J.route_eq
  exact ⟨_, _, toVal_vehicleArrival (htimed.inWord.schedule _ J.scheduled)
    (htimed.inWord.arrivalOffset_lt J.alight), J.egress_isWalkTime hs hreq, rfl⟩

/-- Every ride the router weighs is a journey: the first vehicle not before the rounded time
left at the boarding stop reaches it no earlier than the walk. -/
theorem ofCandidate (hs : Scenario.ofJson text = .ok s) (hreq : req.Finite)
    (hb : HoldsCandidates p s req access egress) (hnum : p.Numeric) {c : Ride}
    (hc : IsCandidate s access egress req.departureTime c) : ∃ J : Journey p s req, J.ride = c := by
  obtain ⟨li, ri, board, alight, vd, hline, hroute, hacc, hcatch, hba, hlt, heg⟩ := hc
  rw [hb.access] at hacc
  rw [hb.egress] at heg
  have htimed := Scenario.timed_of_getElem? hs hline hroute
  have hready := hreq.ready_ne_none hnum
    (Scenario.bind_candidateWalk_isWalkTime hs p hreq.from_isFinite hacc)
  obtain ⟨hvd, hnot, -⟩ := (TransitRoute.nextDeparture_eq_some_iff htimed.sorted).1 hcatch
  have hcaught := (htimed.caught_iff hready hvd board).1 hnot
  exact ⟨⟨li, ri, board, alight, vd, _, _, _, _, hline, hroute, hba, hlt, hvd, hacc, heg, hcaught⟩,
    rfl⟩

/-- Every journey is matched by a ride the router weighs at the same place, with the same walks,
that arrives no later: at the boarding stop the router takes the first vehicle not before the
rounded time left, which is the journey's vehicle or an earlier one. -/
theorem exists_candidate_le (hs : Scenario.ofJson text = .ok s) (hreq : req.Finite)
    (hb : HoldsCandidates p s req access egress) (hnum : p.Numeric) (J : Journey p s req) :
    ∃ c ∈ rideCandidates s access egress req.departureTime,
      c.key = J.key ∧ c.walked = J.walked ∧ c.arrival ≤ J.arrival := by
  have htimed := Scenario.timed_of_getElem? hs J.line_eq J.route_eq
  have hready := hreq.ready_ne_none hnum (J.access_isWalkTime hs hreq)
  have hnot := (htimed.caught_iff hready J.scheduled J.board).2 J.caught
  -- the search finds a vehicle, and none later than the journey's
  obtain ⟨vd, hvd⟩ : ∃ vd, J.route.nextDeparture (req.departureTime + J.access -
      Float.ofNat ((J.route.stops[J.board]?).map (·.departureOffset) |>.getD 0)) = some vd := by
    rw [← Option.ne_none_iff_exists', Ne, TransitRoute.nextDeparture_eq_none_iff htimed.sorted]
    exact fun hall => hnot (hall _ J.scheduled)
  obtain ⟨hvdmem, -, hleast⟩ := (TransitRoute.nextDeparture_eq_some_iff htimed.sorted).1 hvd
  have hle := hleast _ J.scheduled hnot
  refine ⟨candidateRide J.lineIdx J.routeIdx J.board J.alight vd J.route J.access J.egress,
    mem_rideCandidates.2 (.mk _ _ _ _ _ J.line_eq J.route_eq ((hb.access _ _).trans J.access_eq)
      hvd J.board_lt J.alight_lt ((hb.egress _ _).trans J.egress_eq)), rfl, rfl, ?_⟩
  -- the earlier vehicle's arrival is exact and no later, and adding the walk on keeps the order
  have haoff := htimed.inWord.arrivalOffset_lt J.alight
  exact add_le_add_of_finite (toVal_vehicleArrival (htimed.inWord.schedule vd hvdmem) haoff)
    (toVal_vehicleArrival (htimed.inWord.schedule _ J.scheduled) haoff) (by exact_mod_cast Nat.add_le_add_right hle _)
    (hnum.toVal_ne_none (J.egress_isWalkTime hs hreq))

/-- A journey arrives at a number and walks for a number. -/
theorem exists_values (hs : Scenario.ofJson text = .ok s) (hreq : req.Finite) (hnum : p.Numeric)
    (J : Journey p s req) : ∃ A W, toVal J.arrival = some A ∧ toVal J.walked = some W := by
  obtain ⟨x, a, hx, heg, harr⟩ := J.arrival_form hs hreq
  obtain ⟨A, hA⟩ := Option.ne_none_iff_exists'.1
    (harr ▸ toVal_add_ne_none_of_finite hx (hnum.toVal_ne_none heg))
  obtain ⟨W, hW⟩ := Option.ne_none_iff_exists'.1
    (hnum.add_ne_none (J.access_isWalkTime hs hreq) heg)
  exact ⟨A, W, hA, hW⟩

theorem rank_isSome (hs : Scenario.ofJson text = .ok s) (hreq : req.Finite) (hnum : p.Numeric)
    (J : Journey p s req) : ∃ q, J.ride.rank = some q := by
  obtain ⟨A, W, hA, hW⟩ := J.exists_values hs hreq hnum
  exact ⟨_, Ride.rank_eq_some hA hW⟩

end Journey

/-- A ride the router weighs arrives when its vehicle, exactly, reaches the alighting stop, plus a
walking time. -/
theorem IsCandidate.arrival_form (hs : Scenario.ofJson text = .ok s) (hreq : req.Finite)
    (hb : HoldsCandidates p s req access egress) {c : Ride}
    (hc : IsCandidate s access egress req.departureTime c) :
    ∃ (x eg : Float) (a : ℝ), toVal x = some (a : EReal) ∧ p.IsWalkTime eg ∧ c.arrival = x + eg := by
  obtain ⟨li, ri, board, alight, vd, hline, hroute, -, hcatch, -, -, heg⟩ := hc
  rw [hb.egress] at heg
  have htimed := Scenario.timed_of_getElem? hs hline hroute
  exact ⟨_, _, _, toVal_vehicleArrival
    (htimed.inWord.schedule vd (TransitRoute.nextDeparture_mem hcatch))
    (htimed.inWord.arrivalOffset_lt alight),
    Scenario.bind_candidateWalk_isWalkTime hs p hreq.to_isFinite heg, rfl⟩

/-- The best ride is one of the rides weighed. -/
theorem mem_of_foldl_keepBetter : ∀ {l : List Ride} {best : Option Ride} {F : Ride},
    l.foldl keepBetter best = some F → best = some F ∨ F ∈ l
  | [], _, _, h => .inl h
  | x :: l, best, F, h => by
    rw [List.foldl_cons] at h
    rcases mem_of_foldl_keepBetter (l := l) h with h | h
    · -- the best after `x` is `x` or the best before it
      unfold keepBetter at h
      split at h
      · exact .inr (List.mem_cons.2 (.inl (Option.some.inj h).symm))
      · exact .inl h
    · exact .inr (List.mem_cons_of_mem x h)

theorem bestRide_mem {F : Ride} (h : bestRide s access egress req.departureTime = some F) :
    F ∈ rideCandidates s access egress req.departureTime := by
  rw [bestRide_eq_foldl] at h
  rcases mem_of_foldl_keepBetter h with h | h
  · cases h
  · exact h

/-- With walking times that are numbers of one sign, the best ride is the first ride weighed that
no ride beats. -/
theorem bestRide_scanBest (hs : Scenario.ofJson text = .ok s) (hreq : req.Finite)
    (hb : HoldsCandidates p s req access egress) (hnum : p.Numeric) :
    ScanBest (rideCandidates s access egress req.departureTime)
      (bestRide s access egress req.departureTime) := by
  rw [bestRide_eq_foldl]
  refine foldl_keepBetter (rideCandidates_sorted s access egress _) fun c hc => ?_
  obtain ⟨J, rfl⟩ := Journey.ofCandidate hs hreq hb hnum (mem_rideCandidates.1 hc)
  exact J.rank_isSome hs hreq hnum

/-- A pair of values at or below another in the lexicographic order, whose first value is at most
`A''`: the first value of the lower pair is at most `A''`; when that is equal, so is the upper
pair's, and the second value of the lower pair is at most the other's; when those are equal too,
the pairs are. -/
theorem lex_squeeze {A W A' W' A'' : EReal} (hlex : toLex (A, W) ≤ toLex (A', W'))
    (h : A' ≤ A'') :
    A ≤ A'' ∧ (A'' = A → W ≤ W' ∧ (W' = W → toLex (A', W') = toLex (A, W))) := by
  obtain ⟨hA, hW⟩ := Prod.Lex.toLex_le_toLex'.1 hlex
  refine ⟨hA.trans h, fun hA'' => ?_⟩
  have hA' : A' = A := le_antisymm (h.trans hA''.le) hA
  refine ⟨hW hA'.symm, fun hW' => ?_⟩
  rw [hA', hW']

/-- With walking times that are numbers of one sign, the best ride is the ride of a journey that
arrives no later than any, walks least among those as early, and comes first in the scan among
those that also walk as much. -/
theorem bestRide_isFirstBest (hs : Scenario.ofJson text = .ok s) (hreq : req.Finite)
    (hb : HoldsCandidates p s req access egress) (hnum : p.Numeric) {F : Ride}
    (hF : bestRide s access egress req.departureTime = some F) :
    ∃ best : Journey p s req, best.ride = F ∧ best.IsFirstBest := by
  obtain ⟨hFmem, hFbest⟩ := (bestRide_scanBest hs hreq hb hnum).spec F hF
  obtain ⟨best, rfl⟩ := Journey.ofCandidate hs hreq hb hnum (mem_rideCandidates.1 hFmem)
  refine ⟨best, rfl, fun J => ?_⟩
  obtain ⟨c, hc, hkey, hwalked, hcJ⟩ := J.exists_candidate_le hs hreq hb hnum
  obtain ⟨hcF, hFc⟩ := hFbest c hc
  -- read the comparisons as values: arrival first, walking second
  obtain ⟨AF, WF, hAF, hWF⟩ := best.exists_values hs hreq hnum
  obtain ⟨-, W, -, hW⟩ := J.exists_values hs hreq hnum
  obtain ⟨Ac, AJ, hAc, hAJ, hAcJ⟩ := le_iff.1 hcJ
  have hqF := Ride.rank_eq_some (r := best.ride) hAF hWF
  have hqc := Ride.rank_eq_some (r := c) hAc (hwalked ▸ hW)
  -- the matching ride does not beat the best, whose pair is then at or below the ride's
  have hlex : toLex (AF, WF) ≤ toLex (Ac, W) := not_lt.1 fun h => by
    simp [(Ride.betterThan_iff hqc hqF).2 h] at hcF
  obtain ⟨harr, htie⟩ := lex_squeeze hlex hAcJ
  rw [le_iff_of_toVal hAF hAJ, beq_iff_of_toVal hAJ hAF, le_iff_of_toVal hWF hW,
    beq_iff_of_toVal hW hWF, ← hkey]
  refine ⟨harr, fun hJF => ⟨(htie hJF).1, fun hWJ => hFc ?_⟩⟩
  -- tied on both counts, the best does not beat the matching ride, so it comes no later
  rw [Bool.eq_false_iff, Ne, Ride.betterThan_iff hqF hqc, (htie hJF).2 hWJ]
  exact lt_irrefl _

end Rides

/-! ## Plans -/

/-- The itinerary of a journey's ride arrives when the journey does: the egress walk leaves when
the vehicle reaches the alighting stop and takes the candidate walking time of that stop. -/
theorem planArrival_rideItinerary {p : WalkParams} {s : Scenario} {req : RoutingRequest}
    (J : Journey p s req) : planArrival (rideItinerary p s req J.ride) = some J.arrival := by
  obtain ⟨i, hi, hacc⟩ := Option.bind_eq_some_iff.1 J.access_eq
  obtain ⟨st, hst, -⟩ := candidateWalk_eq_some hacc
  obtain ⟨k, hk, heg⟩ := Option.bind_eq_some_iff.1 J.egress_eq
  obtain ⟨st', hst', heg⟩ := candidateWalk_eq_some heg
  have hboard : (J.route.stopIndices[J.board]?).bind (s.stops[·]?) = some st := by simp [hi, hst]
  have halight : (J.route.stopIndices[J.alight]?).bind (s.stops[·]?) = some st' := by
    simp [hk, hst']
  simp only [rideItinerary, Journey.ride, candidateRide, J.line_eq, J.route_eq, hboard, halight]
  simp [planArrival, walkLeg, Journey.arrival, heg, Coord.distance_comm req.toCoord]

/-! ## Routing a request -/

namespace TimetableEngine

/-- A finite request is answered from the best ride over freshly filled buffers: its itinerary
when it arrives strictly before the direct walk, else the direct walk. -/
theorem calcRoute_fst_of_finite (e : TimetableEngine) (s : Scenario) {req : RoutingRequest}
    (h : req.Finite) :
    (e.calcRoute s req).1 = .ok
      (match bestRide s (collectWalks e.params s.stops req.fromCoord e.access)
          (collectWalks e.params s.stops req.toCoord e.egress) req.departureTime with
        | some ride =>
          if ride.arrival < req.departureTime + e.params.walkTime (req.fromCoord.distance req.toCoord)
          then rideItinerary e.params s req ride
          else [.leg (walkLeg e.params req.fromLink req.toLink (req.fromCoord.distance req.toCoord)
            req.departureTime req.mode)]
        | none => [.leg (walkLeg e.params req.fromLink req.toLink
            (req.fromCoord.distance req.toCoord) req.departureTime req.mode)]) := by
  rw [RoutingRequest.finite_iff] at h
  -- the answer's match on the best ride is the one stated, over the refilled buffers
  cases hbest : bestRide s (collectWalks e.params s.stops req.fromCoord e.access)
      (collectWalks e.params s.stops req.toCoord e.egress) req.departureTime <;>
    simp [calcRoute, h, hbest]

end TimetableEngine

/-! ## The earliest journey -/

/-- With walking times that are each NaN or one infinity, neither a journey nor a ride the router
weighs arrives before the direct walk: each of these arrivals is a finite time plus a walking
time, so NaN or that infinity. -/
theorem not_lt_directArrival_of_unbounded {text : String} {p : WalkParams} {s : Scenario}
    {req : RoutingRequest} {access egress : Array (Option Float)}
    (hs : Scenario.ofJson text = .ok s) (hreq : req.Finite)
    (hb : HoldsCandidates p s req access egress) {σ : Float.Model.UnpackedFloat.Sign}
    (hinf : ∀ {w}, p.IsWalkTime w → toVal w = none ∨ unpacked w = .infinity σ) :
    (∀ J : Journey p s req, ¬ J.arrival < req.directArrival p) ∧
      ∀ c ∈ rideCandidates s access egress req.departureTime, ¬ c.arrival < req.directArrival p := by
  obtain ⟨t, ht⟩ := hreq.exists_departureTime
  have hdirect := add_nan_or_inf ht (hinf (p.isWalkTime_distance hreq.from_isFinite
    (Coord.notNaN_of_isFinite hreq.to_isFinite)))
  refine ⟨fun J => ?_, fun c hc => ?_⟩
  · obtain ⟨x, a, hx, heg, harr⟩ := J.arrival_form hs hreq
    rw [harr]
    exact not_lt_of_nan_or_inf (add_nan_or_inf hx (hinf heg)) hdirect
  · obtain ⟨x, eg, a, hx, heg, harr⟩ := (mem_rideCandidates.1 hc).arrival_form hs hreq hb
    rw [harr]
    exact not_lt_of_nan_or_inf (add_nan_or_inf hx (hinf heg)) hdirect

/-- Over a scenario read from JSON, with a walking model of finite speed and positive detour
factor, a finite request rides exactly when some journey arrives strictly before walking the
whole way would. It then rides a journey whose itinerary arrives when the journey does, no later
than any journey; that walks least among the journeys arriving as early; and that comes first in
the scan among those that also walk as much. Otherwise the answer is the direct walk, so a tie
goes to walking. -/
theorem TimetableEngine.calcRoute_earliest_journey (e : TimetableEngine) {text : String}
    {s : Scenario} (hs : Scenario.ofJson text = .ok s) (hspeed : isFinite e.params.speed = true)
    (hfactor : (0 : Float) < e.params.beelineFactor) {req : RoutingRequest} (hreq : req.Finite) :
    ((∃ J : Journey e.params s req, J.arrival < req.directArrival e.params) →
      ∃ best : Journey e.params s req,
        (e.calcRoute s req).1 = .ok (rideItinerary e.params s req best.ride) ∧
        planArrival (rideItinerary e.params s req best.ride) = some best.arrival ∧
        best.arrival < req.directArrival e.params ∧ best.IsFirstBest) ∧
    ((¬ ∃ J : Journey e.params s req, J.arrival < req.directArrival e.params) →
      (e.calcRoute s req).1 = .ok [.leg (walkLeg e.params req.fromLink req.toLink
        (req.fromCoord.distance req.toCoord) req.departureTime req.mode)]) := by
  have hb := HoldsCandidates.collectWalks hs e.params hreq e.access e.egress
  rw [e.calcRoute_fst_of_finite s hreq]
  rcases WalkParams.numeric_or_unbounded hspeed hfactor with hnum | ⟨σ, hinf⟩
  · have hscan := bestRide_scanBest hs hreq hb hnum
    constructor
    · rintro ⟨J, hJ⟩
      -- a ride matches the journey, so there is a best ride, the ride of a first best journey
      obtain ⟨c, hc, -, -, -⟩ := J.exists_candidate_le hs hreq hb hnum
      obtain ⟨F, hF⟩ := Option.ne_none_iff_exists'.1 fun hnone => by
        simp [hscan.none_iff.1 hnone] at hc
      obtain ⟨best, rfl, hbest⟩ := bestRide_isFirstBest hs hreq hb hnum hF
      have hlt : best.ride.arrival <
          req.departureTime + e.params.walkTime (req.fromCoord.distance req.toCoord) :=
        double_lt_of_le_of_lt (hbest J).1 hJ
      refine ⟨best, ?_, planArrival_rideItinerary best, hlt, hbest⟩
      simp only [hF, if_pos hlt]
    · intro hnone
      split
      · rename_i F hF
        obtain ⟨best, rfl, -⟩ := bestRide_isFirstBest hs hreq hb hnum hF
        rw [if_neg (show ¬ best.ride.arrival <
          req.departureTime + e.params.walkTime (req.fromCoord.distance req.toCoord) from
          fun h => hnone ⟨best, h⟩)]
      · rfl
  · -- no arrival is a number: nothing beats the direct walk
    obtain ⟨hjourneys, hrides⟩ := not_lt_directArrival_of_unbounded hs hreq hb hinf
    refine ⟨fun ⟨J, hJ⟩ => absurd hJ (hjourneys J), fun _ => ?_⟩
    split
    · rename_i F hF
      rw [if_neg (show ¬ F.arrival <
        req.departureTime + e.params.walkTime (req.fromCoord.distance req.toCoord) from
        hrides F (bestRide_mem hF))]
    · rfl

/-- A scenario of one link and two stops ten kilometres apart, and a line whose one route leaves
the first stop at 100 and reaches the second 600 seconds later. -/
def tenKilometreRide : String :=
  "\x7b\"name\": \"w\", \"links\": [[\"o\", [0, 0], [1, 0]]], " ++
    "\"stops\": [[\"A\", \"o\", [0, 0]], [\"B\", \"o\", [10000, 0]]], " ++
    "\"lines\": [[\"L\", [[\"R\", \"pt\", [[\"A\", 0, 0], [\"B\", 600, 600]], [100]]]]]\x7d"

/-- A trip from the first stop to the second, leaving at time zero. -/
def tenKilometreRequest : RoutingRequest := ⟨"o", ⟨0, 0⟩, "o", ⟨10000, 0⟩, 0, "pt"⟩

/-- The default walking model and the ten-kilometre trip meet the conditions, the scenario is
read, and the router answers as the earliest journey says. -/
theorem TimetableEngine.calcRoute_earliest_journey_ten_kilometres :
    isFinite WalkParams.default.speed = true ∧ (0 : Float) < WalkParams.default.beelineFactor ∧
    tenKilometreRequest.Finite ∧
    match Scenario.ofJson tenKilometreRide with
    | .ok s =>
      let e := TimetableEngine.new s WalkParams.default
      ((∃ J : Journey e.params s tenKilometreRequest,
          J.arrival < tenKilometreRequest.directArrival e.params) →
        ∃ best : Journey e.params s tenKilometreRequest,
          (e.calcRoute s tenKilometreRequest).1 =
            .ok (rideItinerary e.params s tenKilometreRequest best.ride) ∧
          planArrival (rideItinerary e.params s tenKilometreRequest best.ride) =
            some best.arrival ∧
          best.arrival < tenKilometreRequest.directArrival e.params ∧ best.IsFirstBest) ∧
      ((¬ ∃ J : Journey e.params s tenKilometreRequest,
          J.arrival < tenKilometreRequest.directArrival e.params) →
        (e.calcRoute s tenKilometreRequest).1 = .ok [.leg (walkLeg e.params
          tenKilometreRequest.fromLink tenKilometreRequest.toLink
          (tenKilometreRequest.fromCoord.distance tenKilometreRequest.toCoord)
          tenKilometreRequest.departureTime tenKilometreRequest.mode)])
    | .error _ => False := by
  have hspeed : isFinite WalkParams.default.speed = true := by decide
  have hfactor : (0 : Float) < WalkParams.default.beelineFactor := by decide
  have hreq : tenKilometreRequest.Finite := (RoutingRequest.finite_iff _).2 (by decide)
  have hread : (Scenario.ofJson tenKilometreRide).toBool = true := by
    set_option maxRecDepth 100000 in decide +kernel
  refine ⟨hspeed, hfactor, hreq, ?_⟩
  split
  · next s hs =>
    exact TimetableEngine.calcRoute_earliest_journey (TimetableEngine.new s WalkParams.default) hs
      hspeed hfactor hreq
  · next e hs => simp [hs, Except.toBool] at hread

end TransitRouting
