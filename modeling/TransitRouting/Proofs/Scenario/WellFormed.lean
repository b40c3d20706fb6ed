import Mathlib
import TransitRouting.Proofs.Router.PlanShape

/-!
# What a checked scenario guarantees

A scenario file that passes its check is well formed: a link is found by exactly its own id,
every stop's link is found, and every route has two stops or more, one stop index per route
stop, each index naming the stop the route stop gives, and offsets that never go backwards from
a stop to any later one.

The router relies on that and on nothing else: it looks stops up through route positions and
stop indices without checking them. Over a checked scenario every such lookup finds its element:
the walking-time buffers of a query have one slot per stop, and the ride the router picks lies
on a line and route of the scenario, between two positions of it, each with its index, its stop
and its offsets.

## What this module delivers

- `TransitRoute.WellFormed` and `Scenario.WellFormed`.
- `Scenario.ofFile_wellFormed`: every checked scenario file is well formed.
- `collectWalks_size`: the walking-time buffers have one slot per stop.
- `Scenario.ofFile_lookups_in_bounds`: the checked scenario is well formed, and every lookup of
  a query finds its element.
-/

set_option autoImplicit false

namespace TransitRouting

/-- What the check of a route guarantees over the scenario's stops. -/
structure TransitRoute.WellFormed (stops : List Stop) (route : TransitRoute) : Prop where
  two_stops : 2 ≤ route.stops.length
  indices_length : route.stopIndices.length = route.stops.length
  /-- The index of each route stop names the stop with its id. -/
  names : ∀ (k : Nat) (rs : RouteStop), route.stops[k]? = some rs →
    ∃ i st, route.stopIndices[k]? = some i ∧ stops[i]? = some st ∧ st.id = rs.stop
  /-- Leaving a stop comes no later than arriving at any later stop. -/
  offsets : ∀ (b a : Nat) (rb ra : RouteStop), b < a → route.stops[b]? = some rb →
    route.stops[a]? = some ra → rb.departureOffset ≤ ra.arrivalOffset

/-- A well-formed scenario: links found by their ids, stops on links that are found, and every
route well formed over the stops. -/
structure Scenario.WellFormed (s : Scenario) : Prop where
  /-- A link is found by exactly its own id. -/
  link?_iff : ∀ id l, s.link? id = some l ↔ l ∈ s.links ∧ l.id = id
  stop_link : ∀ st ∈ s.stops, ∃ l, s.link? st.link = some l
  routes : ∀ line ∈ s.lines, ∀ route ∈ line.routes, route.WellFormed s.stops

/-! ## Links -/

/-- Through an index of the link ids, with ids that do not repeat, a link is found by exactly its
own id. -/
theorem Scenario.link?_eq_some_iff {s : Scenario}
    (hidx : s.linkIndex.IndexesFirst (s.links.map Link.id)) (hnd : (s.links.map Link.id).Nodup)
    (id : String) (l : Link) : s.link? id = some l ↔ l ∈ s.links ∧ l.id = id := by
  unfold Scenario.link?
  constructor
  · intro h
    obtain ⟨i, hi, hl⟩ := Option.bind_eq_some_iff.1 h
    -- the position stored for the id holds a link with that id
    have hid := hidx.getElem?_of_get? hi
    rw [List.getElem?_map, hl] at hid
    exact ⟨List.mem_of_getElem? hl, by simpa using hid⟩
  · rintro ⟨hl, rfl⟩
    -- the id is stored, at the position of a link with that id, which is this one
    obtain ⟨j, hj⟩ := Option.ne_none_iff_exists'.1
      (mt (hidx.get?_eq_none_iff l.id).1 (not_not.2 (List.mem_map_of_mem hl)))
    have hid := hidx.getElem?_of_get? hj
    rw [List.getElem?_map, Option.map_eq_some_iff] at hid
    obtain ⟨l', hl', hid'⟩ := hid
    rw [hj, Option.bind_some, hl', List.inj_on_of_nodup_map hnd (List.mem_of_getElem? hl') hl hid']

/-! ## Routes -/

/-- Each route stop resolved through an index of the stop ids has the position of the stop it
names. -/
theorem resolveStops_names {index : TextIndex} {ids : List String}
    (hindex : index.IndexesFirst ids) {fail : String → EngineError} :
    ∀ {previous : Nat} {rs : List RouteStop} {idx : List Nat},
      resolveStops index fail previous rs = .ok idx →
        ∀ (k : Nat) (r : RouteStop), rs[k]? = some r → ∃ i, idx[k]? = some i ∧ ids[i]? = some r.stop
  | _, [], _, _, _, _, hk => by cases hk
  | previous, r₀ :: rest, idx, h, k, r, hk => by
    simp only [resolveStops] at h
    split at h
    · cases h
    · rename_i i hi
      split at h
      · cases h
      · split at h
        · rename_i more hmore
          cases h
          cases k with
          | zero =>
            cases hk
            exact ⟨i, rfl, hindex.getElem?_of_get? hi⟩
          | succ k => simpa using resolveStops_names hindex hmore k r (by simpa using hk)
        · cases h

/-- A route that passed its check is the route read, with at least two stops, the stop indices
resolved from its stops and its schedule filled in. -/
theorem resolveRoute_eq_ok {index : TextIndex} {lineId : String} {r r' : TransitRoute}
    (h : resolveRoute index lineId r = .ok r') :
    2 ≤ r.stops.length ∧ ∃ (fail : String → EngineError) (idx : List Nat),
      resolveStops index fail 0 r.stops = .ok idx ∧
      r' = { r with stopIndices := idx, schedule := expandSchedule r.departures r.headway } := by
  simp only [resolveRoute] at h
  split at h
  · cases h
  · rename_i hlen
    obtain ⟨idx, hidx, h⟩ := bind_eq_ok h
    refine ⟨by omega, _, idx, hidx, ?_⟩
    -- only the headway remains to be checked
    split at h
    · split at h
      · cases h
      · cases h
        rfl
    · cases h
      rfl

/-- A route that passed its check through an index of the stops' ids is well formed over the
stops. -/
theorem resolveRoute_wellFormed {stops : List Stop} {index : TextIndex}
    (hindex : index.IndexesFirst (stops.map Stop.id)) {lineId : String} {r r' : TransitRoute}
    (h : resolveRoute index lineId r = .ok r') : r'.WellFormed stops := by
  obtain ⟨htwo, fail, idx, hidx, rfl⟩ := resolveRoute_eq_ok h
  obtain ⟨_, hlen, hoffsets⟩ := resolveStops_ok hindex hidx
  refine ⟨htwo, hlen, ?_, ?_⟩
  · intro k rs hk
    obtain ⟨i, hi, hid⟩ := resolveStops_names hindex hidx k rs hk
    -- the id at the index is that of the stop there
    rw [List.getElem?_map, Option.map_eq_some_iff] at hid
    obtain ⟨st, hst, hid⟩ := hid
    exact ⟨i, st, hi, hst, hid⟩
  · intro b a rb ra hba hb ha
    have halen := (List.getElem?_eq_some_iff.1 ha).1
    simpa [hb, ha] using OffsetsFrom.departure_le_arrival hoffsets b a hba halen

/-- Every route of lines that passed their check is a checked route of the file. -/
theorem resolveLines_routes {index : TextIndex} {lines lines' : List TransitLine}
    (h : resolveLines index lines = .ok lines') :
    ∀ line ∈ lines', ∀ route ∈ line.routes, ∃ lineId r, resolveRoute index lineId r = .ok route := by
  intro line hline route hroute
  obtain ⟨line₀, _, hline₀⟩ := mem_of_mapM_ok h line hline
  obtain ⟨routes, hroutes, hline'⟩ := bind_eq_ok hline₀
  cases hline'
  obtain ⟨r, _, hr⟩ := mem_of_mapM_ok hroutes route hroute
  exact ⟨_, r, hr⟩

/-- Every checked scenario file is well formed. -/
theorem Scenario.ofFile_wellFormed {f : ScenarioFile} {s : Scenario}
    (h : Scenario.ofFile f = .ok s) : s.WellFormed := by
  obtain ⟨linkIndex, _, lines, hlinks, hnd, hstops, -, hon, hlines, rfl⟩ := Scenario.ofFile_eq_ok h
  refine ⟨Scenario.link?_eq_some_iff hlinks hnd, ?_, ?_⟩
  · -- the stop's link is indexed, so it is one of the links, and it is found
    intro st hst
    obtain ⟨l, hl, hid⟩ := List.mem_map.1 ((hlinks.contains_iff st.link).1 (hon st hst))
    exact ⟨l, (Scenario.link?_eq_some_iff hlinks hnd _ l).2 ⟨hl, hid⟩⟩
  · intro line hline route hroute
    obtain ⟨lineId, r, hr⟩ := resolveLines_routes hlines line hline route hroute
    exact resolveRoute_wellFormed hstops hr

/-- Every scenario read from JSON and checked is well formed. -/
theorem Scenario.ofJson_wellFormed {text : String} {s : Scenario}
    (h : Scenario.ofJson text = .ok s) : s.WellFormed := by
  simp only [Scenario.ofJson] at h
  split at h
  · exact Scenario.ofFile_wellFormed h
  · cases h

/-! ## Lookups of the router -/

namespace TransitRoute.WellFormed

variable {stops : List Stop} {route : TransitRoute}

/-- Every position of a well-formed route has its stop index, the stop at that index and its
route stop. -/
theorem lookup (h : route.WellFormed stops) {pos : Nat} (hpos : pos < route.stopIndices.length) :
    ∃ i st rs, route.stopIndices[pos]? = some i ∧ stops[i]? = some st ∧
      route.stops[pos]? = some rs := by
  have hlt : pos < route.stops.length := h.indices_length ▸ hpos
  obtain ⟨i, st, hi, hst, _⟩ := h.names pos _ (List.getElem?_eq_getElem hlt)
  exact ⟨i, st, _, hi, hst, List.getElem?_eq_getElem hlt⟩

/-- Every stop index of a well-formed route is the index of a stop. -/
theorem index_lt (h : route.WellFormed stops) {i : Nat} (hi : i ∈ route.stopIndices) :
    i < stops.length := by
  obtain ⟨pos, hpos⟩ := List.mem_iff_getElem?.1 hi
  obtain ⟨i', st, _, hi', hst, _⟩ := h.lookup (List.getElem?_eq_some_iff.1 hpos).1
  -- the position holds one index only
  rw [hpos, Option.some_inj] at hi'
  subst hi'
  exact (List.getElem?_eq_some_iff.1 hst).1

end TransitRoute.WellFormed

/-- Writing walking times into a buffer keeps its size. -/
theorem collectWalks_fold_size (l : List (Option Float × Nat)) (buf : Array (Option Float)) :
    (l.foldl (fun buf (w, i) => if w.isSome then buf.set! i w else buf) buf).size = buf.size := by
  induction l generalizing buf with
  | nil => rfl
  | cons x rest ih =>
    obtain ⟨w, i⟩ := x
    simp only [List.foldl_cons, ih]
    split
    · rw [Array.set!_eq_setIfInBounds, Array.size_setIfInBounds]
    · rfl

/-- The walking-time buffers have one slot per stop, whatever the buffer held before. -/
theorem collectWalks_size (p : WalkParams) (stops : List Stop) (origin : Coord)
    (buffer : Array (Option Float)) : (collectWalks p stops origin buffer).size = stops.length := by
  have hblank : (buffer.shrink 0 ++ Array.replicate stops.length none).size = stops.length := by
    simp
  simp only [collectWalks]
  split
  · rw [collectWalks_fold_size, hblank]
  · split
    · rw [Array.set!_eq_setIfInBounds, Array.size_setIfInBounds, hblank]
    · exact hblank

/-- A finite request refills both walking-time buffers of the engine. -/
theorem TimetableEngine.calcRoute_snd_of_finite (e : TimetableEngine) (s : Scenario)
    {req : RoutingRequest} (h : req.Finite) :
    (e.calcRoute s req).2 =
      { e with access := collectWalks e.params s.stops req.fromCoord e.access,
               egress := collectWalks e.params s.stops req.toCoord e.egress } := by
  rw [RoutingRequest.finite_iff] at h
  simp only [TimetableEngine.calcRoute]
  rw [if_neg (by simpa using h)]
  split <;> rfl

/-- Every lookup the router makes over a scenario finds its element: after a finite query the
walking-time buffers have a slot for every stop, every position of every route has its stop
index, the stop there and its route stop, and the ride picked lies on a line and route of the
scenario, between two of its positions, along stop indices that name stops. -/
structure Scenario.LookupsFound (s : Scenario) : Prop where
  buffers : ∀ (e : TimetableEngine) (req : RoutingRequest), req.Finite →
    (e.calcRoute s req).2.access.size = s.stops.length ∧
      (e.calcRoute s req).2.egress.size = s.stops.length
  positions : ∀ line ∈ s.lines, ∀ route ∈ line.routes, ∀ pos < route.stopIndices.length,
    ∃ i st rs, route.stopIndices[pos]? = some i ∧ s.stops[i]? = some st ∧
      route.stops[pos]? = some rs
  rides : ∀ (access egress : Array (Option Float)) (departure : Float) (ride : Ride),
    bestRide s access egress departure = some ride →
      ∃ line route, s.lines[ride.line]? = some line ∧ line.routes[ride.route]? = some route ∧
        ride.board < ride.alight ∧ ride.alight < route.stopIndices.length ∧
        ∀ i ∈ (route.stopIndices.drop ride.board).take (ride.alight + 1 - ride.board),
          i < s.stops.length

/-- The router's lookups over a well-formed scenario all find their elements. -/
theorem Scenario.WellFormed.lookupsFound {s : Scenario} (hs : s.WellFormed) : s.LookupsFound where
  buffers e req hfin := by
    rw [TimetableEngine.calcRoute_snd_of_finite e s hfin]
    exact ⟨collectWalks_size _ _ _ _, collectWalks_size _ _ _ _⟩
  positions line hline route hroute _ hpos := (hs.routes line hline route hroute).lookup hpos
  rides access egress departure ride hride := by
    obtain ⟨line, route, hline, hroute, hba, hlen, _⟩ :=
      bestRide_valid s access egress departure hride
    have hwf := hs.routes line (List.mem_of_getElem? hline) route (List.mem_of_getElem? hroute)
    -- the path is a slice of the route's stop indices
    refine ⟨line, route, hline, hroute, hba, hlen, fun i hi => hwf.index_lt ?_⟩
    exact List.mem_of_mem_drop (List.mem_of_mem_take hi)

/-- A checked scenario file is well formed, and every lookup the router makes over it finds its
element. -/
theorem Scenario.ofFile_lookups_in_bounds {f : ScenarioFile} {s : Scenario}
    (h : Scenario.ofFile f = .ok s) : s.WellFormed ∧ s.LookupsFound := by
  have hwf := Scenario.ofFile_wellFormed h
  exact ⟨hwf, hwf.lookupsFound⟩

/-- One link, two stops on it and a line whose one route runs from the first to the second; the
link is indexed at its position. -/
theorem Scenario.ofFile_lookups_in_bounds_one_route :
    Scenario.ofFile ⟨"x", [⟨"a", ⟨0, 0⟩, ⟨1, 0⟩, none⟩], [⟨"s", "a", ⟨0, 0⟩⟩, ⟨"t", "a", ⟨1, 0⟩⟩],
        [⟨"l", [{ id := "r", stops := [⟨"s", 0, 0⟩, ⟨"t", 5, 5⟩], departures := [0] }]⟩]⟩ =
      .ok ⟨"x", [⟨"a", ⟨0, 0⟩, ⟨1, 0⟩, none⟩], ⟨[("a", 0)]⟩,
        [⟨"s", "a", ⟨0, 0⟩⟩, ⟨"t", "a", ⟨1, 0⟩⟩],
        [⟨"l", [{ id := "r", stops := [⟨"s", 0, 0⟩, ⟨"t", 5, 5⟩], departures := [0],
                  stopIndices := [0, 1], schedule := expandSchedule [0] none }]⟩]⟩ ∧
    Scenario.WellFormed ⟨"x", [⟨"a", ⟨0, 0⟩, ⟨1, 0⟩, none⟩], ⟨[("a", 0)]⟩,
        [⟨"s", "a", ⟨0, 0⟩⟩, ⟨"t", "a", ⟨1, 0⟩⟩],
        [⟨"l", [{ id := "r", stops := [⟨"s", 0, 0⟩, ⟨"t", 5, 5⟩], departures := [0],
                  stopIndices := [0, 1], schedule := expandSchedule [0] none }]⟩]⟩ ∧
    Scenario.LookupsFound ⟨"x", [⟨"a", ⟨0, 0⟩, ⟨1, 0⟩, none⟩], ⟨[("a", 0)]⟩,
        [⟨"s", "a", ⟨0, 0⟩⟩, ⟨"t", "a", ⟨1, 0⟩⟩],
        [⟨"l", [{ id := "r", stops := [⟨"s", 0, 0⟩, ⟨"t", 5, 5⟩], departures := [0],
                  stopIndices := [0, 1], schedule := expandSchedule [0] none }]⟩]⟩ := by
  refine ⟨?checked, Scenario.ofFile_lookups_in_bounds ?checked⟩
  rfl

end TransitRouting
