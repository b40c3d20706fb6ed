import TransitRouting.Proofs.Router.PlanShape
import TransitRouting.Proofs.Service.HiddenState
import TransitRouting.Proofs.Number.ExactNaturals

/-!
# Which requests fail, and how

A request fails in one of two ways. One of its ends does not resolve: it names no link, names
a link by a code the id store never registered, or names a link the scenario does not have;
the `from` end is resolved first, so a request with two bad ends reports the `from` end. These
are the caller's errors, answered as invalid arguments. Otherwise the engine refuses the query
because one of the two points is not a finite number; the points are the request's own, or else
the midpoints of the links, which overflow for large finite coordinates. The departure time is
a 32-bit count of seconds and always a finite double. That is the only internal error: every
itinerary the engine returns can be put on the wire, since each of its legs has a travel time,
no attribute and, when it is a transit leg, a boarding time.

## What this module delivers

- `RouteService.EndError` and `RouteService.EndResolves`, with `facility_eq_error_iff` and
  `facility_eq_ok_iff`: how one end of a request resolves or fails.
- `Leg.Sendable` with `legToWire_of_sendable` and `planToWire_of_sendable`: the legs the wire
  can carry.
- `TimetableEngine.calcRoute_sendable`: every itinerary of the engine can be sent.
- `RouteService.handle_errors`: the errors of a request, exactly.
-/

set_option autoImplicit false

namespace TransitRouting

/-- Throwing in the error monad is an error. -/
@[simp]
theorem Except.throw_eq_error {ε α : Type} (e : ε) : (throw e : Except ε α) = .error e := rfl

/-- Returning in the error monad is a success. -/
@[simp]
theorem Except.pure_eq_ok {ε α : Type} (a : α) : (pure a : Except ε α) = .ok a := rfl

/-- Binding a success passes its value on. -/
@[simp]
theorem Except.ok_bind {ε α β : Type} (a : α) (f : α → Except ε β) :
    (Except.ok a >>= f) = f a := rfl

/-- Binding an error passes it on. -/
@[simp]
theorem Except.error_bind {ε α β : Type} (e : ε) (f : α → Except ε β) :
    (Except.error e >>= f) = .error e := rfl

namespace RouteService

/-! ## The ends of a request -/

/-- The link id a link reference names: an id as given, or the id registered for a code. -/
def RefersTo (svc : RouteService) : Option Wire.LinkRef → String → Prop
  | some (.id s), id => s = id
  | some (.code c), id => svc.ids.resolve .link c = some id
  | none, _ => False

/-- How an end of a request fails: it names no link; it names a link by a code the registry
lacks; or the link it names is not in the scenario. -/
def EndError (svc : RouteService) (link : Option Wire.LinkRef) (which : String) :
    RouteError → Prop
  | .missingLink w => link = none ∧ w = which
  | .unknownLinkCode c => link = some (.code c) ∧ svc.ids.resolve .link c = none
  | .unknownLink id => svc.RefersTo link id ∧ svc.scenario.link? id = none
  | _ => False

/-- An end of a request resolves to a link of the scenario and a point: the request's own
point when it gives one, else the link's midpoint. -/
def EndResolves (svc : RouteService) (link : Option Wire.LinkRef) (coord : Option Wire.Point)
    (resolved : String × Coord) : Prop :=
  svc.RefersTo link resolved.1 ∧ ∃ l, svc.scenario.link? resolved.1 = some l ∧
    resolved.2 = match coord with
      | some p => ⟨p.x, p.y⟩
      | none => l.coord

/-- An end fails exactly as `EndError` says. -/
theorem facility_eq_error_iff (svc : RouteService) (link : Option Wire.LinkRef)
    (coord : Option Wire.Point) (which : String) (e : RouteError) :
    svc.facility link coord which = .error e ↔ svc.EndError link which e := by
  rcases link with _ | ⟨s⟩ | ⟨c⟩
  · cases e <;> simp [facility, EndError, RefersTo, eq_comm]
  · cases hl : svc.scenario.link? s <;> cases e <;>
      simp [facility, EndError, RefersTo, hl] <;> grind
  · cases hr : svc.ids.resolve .link c with
    | none =>
      cases e <;> simp [facility, EndError, RefersTo, hr]
      -- only the unregistered code is left
      rintro rfl
      exact hr
    | some s =>
      cases hl : svc.scenario.link? s <;> cases e <;>
        simp [facility, EndError, RefersTo, hr, hl] <;> grind

/-- An end resolves exactly as `EndResolves` says. -/
theorem facility_eq_ok_iff (svc : RouteService) (link : Option Wire.LinkRef)
    (coord : Option Wire.Point) (which : String) (resolved : String × Coord) :
    svc.facility link coord which = .ok resolved ↔ svc.EndResolves link coord resolved := by
  obtain ⟨id, point⟩ := resolved
  rcases link with _ | ⟨s⟩ | ⟨c⟩
  · simp [facility, EndResolves, RefersTo]
  · cases hl : svc.scenario.link? s <;> cases coord <;>
      simp [facility, EndResolves, RefersTo, hl] <;> grind
  · cases hr : svc.ids.resolve .link c with
    | none => simp [facility, EndResolves, RefersTo, hr]
    | some s =>
      cases hl : svc.scenario.link? s <;> cases coord <;>
        simp [facility, EndResolves, RefersTo, hr, hl] <;> grind

/-- A failing end is the caller's error. -/
theorem status_of_endError {svc : RouteService} {link : Option Wire.LinkRef} {which : String}
    {e : RouteError} (h : svc.EndError link which e) : e.status = "InvalidArgument" := by
  cases e <;> first | rfl | exact h.elim

end RouteService

/-! ## Legs the wire can carry -/

/-- A leg the wire can carry: it has a travel time, every attribute has a type the wire knows,
and a transit route has a boarding time. -/
def Leg.Sendable (l : Leg) : Prop :=
  l.travelTime.isSome ∧ (∀ kv ∈ l.attributes.entries, ∃ w, attributeToWire kv.1 kv.2 = .ok w) ∧
    ∀ r, l.route = .pt r → r.boardingTime.isSome

/-- A `mapM` in the error monad succeeds when the function succeeds on every element. -/
theorem mapM_ok_of_forall {ε α β : Type} {f : α → Except ε β} :
    ∀ {l : List α}, (∀ x ∈ l, ∃ y, f x = .ok y) → ∃ ys, l.mapM f = .ok ys
  | [], _ => ⟨[], rfl⟩
  | x :: xs, h => by
    obtain ⟨y, hy⟩ := h x List.mem_cons_self
    obtain ⟨ys, hys⟩ := mapM_ok_of_forall fun x' hx' => h x' (List.mem_cons_of_mem x hx')
    exact ⟨y :: ys, by simp [List.mapM_cons, hy, hys]⟩

/-- A route goes on the wire when a transit route has its boarding time. -/
theorem routeToWire_of_boarding {r : Route} (h : ∀ p, r = .pt p → p.boardingTime.isSome) :
    ∃ w, routeToWire r = .ok w := by
  cases r with
  | generic g => exact ⟨_, rfl⟩
  | network n => exact ⟨_, rfl⟩
  | pt p =>
    obtain ⟨b, hb⟩ := Option.isSome_iff_exists.1 (h p rfl)
    simp [routeToWire, hb]

/-- A sendable leg goes on the wire. -/
theorem legToWire_of_sendable {l : Leg} (h : l.Sendable) : ∃ w, legToWire l = .ok w := by
  obtain ⟨htime, hattrs, hroute⟩ := h
  obtain ⟨t, ht⟩ := Option.isSome_iff_exists.1 htime
  obtain ⟨r, hr⟩ := routeToWire_of_boarding hroute
  simp only [legToWire, ht]
  obtain ⟨ws, hws⟩ := mapM_ok_of_forall (l := l.attributes.entries)
    (f := fun kv => attributeToWire kv.1 kv.2 >>= fun w => Except.ok (kv.1, w)) fun kv hkv => by
      obtain ⟨w, hw⟩ := hattrs kv hkv
      exact ⟨(kv.1, w), by simp [hw]⟩
  simp [hws, hr]

/-- An itinerary whose legs are all sendable goes on the wire. -/
theorem planToWire_of_sendable {plan : List PlanElement}
    (h : ∀ l, .leg l ∈ plan → l.Sendable) : ∃ els, planToWire plan = .ok els :=
  mapM_ok_of_forall fun x hx => by
    cases x with
    | activity a => exact ⟨_, rfl⟩
    | leg l =>
      obtain ⟨w, hw⟩ := legToWire_of_sendable (h l hx)
      exact ⟨.leg w, by simp [hw, Except.map]⟩

/-! ## The engine's itineraries -/

/-- A walk leg can be sent. -/
theorem walkLeg_sendable (p : WalkParams) (startLink endLink : String) (beeline departure : Float)
    (mode : String) : (walkLeg p startLink endLink beeline departure mode).Sendable :=
  ⟨rfl, by simp [walkLeg], by simp [walkLeg]⟩

/-- Every leg of a ride's itinerary can be sent: two walks and a transit leg with its boarding
time. -/
theorem rideItinerary_sendable (p : WalkParams) (s : Scenario) (req : RoutingRequest)
    (ride : Ride) : ∀ l, .leg l ∈ rideItinerary p s req ride → l.Sendable := by
  intro l h
  -- the itinerary is empty unless the line, the route and both stops are found
  cases hline : s.lines[ride.line]? with
  | none => simp [rideItinerary, hline] at h
  | some line =>
    cases hroute : line.routes[ride.route]? with
    | none => simp [rideItinerary, hline, hroute] at h
    | some route =>
      cases hb : (route.stopIndices[ride.board]?).bind (s.stops[·]?) with
      | none => simp [rideItinerary, hline, hroute, hb] at h
      | some b =>
        cases ha : (route.stopIndices[ride.alight]?).bind (s.stops[·]?) with
        | none => simp [rideItinerary, hline, hroute, hb, ha] at h
        | some a =>
          simp only [rideItinerary, hline, hroute, hb, ha] at h
          simp at h
          rcases h with rfl | rfl | rfl
          · exact walkLeg_sendable ..
          · exact ⟨rfl, by simp, by simp⟩
          · exact walkLeg_sendable ..

namespace TimetableEngine

/-- Every itinerary the engine answers with can be sent. -/
theorem calcRoute_sendable (e : TimetableEngine) (s : Scenario) (req : RoutingRequest)
    {plan : List PlanElement} (h : (e.calcRoute s req).1 = .ok plan) :
    ∀ l, .leg l ∈ plan → l.Sendable := by
  have hwalk : ∀ d l, PlanElement.leg l ∈
      [PlanElement.leg (walkLeg e.params req.fromLink req.toLink d req.departureTime req.mode)] →
        l.Sendable := by
    intro d l hl
    simp only [List.mem_singleton, PlanElement.leg.injEq] at hl
    exact hl ▸ walkLeg_sendable ..
  simp only [calcRoute, apply_ite Prod.fst] at h
  split at h
  · cases h
  · split at h
    · -- the ride's itinerary, or the walk when the ride is not faster
      cases h
      split
      · exact rideItinerary_sendable _ _ _ _
      · exact hwalk _
    · cases h
      exact hwalk _

/-- The engine refuses a query with a routing error exactly when it is not finite, and answers
it otherwise, over any scenario. -/
theorem calcRoute_fst_cases (e : TimetableEngine) (s : Scenario) (req : RoutingRequest) :
    (¬ req.Finite ∧ ∃ msg, (e.calcRoute s req).1 = .error (.routing msg)) ∨
      (req.Finite ∧ ∃ plan, (e.calcRoute s req).1 = .ok plan) := by
  by_cases hfin : req.Finite
  · refine .inr ⟨hfin, ?_⟩
    rw [RoutingRequest.finite_iff] at hfin
    simp only [calcRoute, apply_ite Prod.fst]
    rw [if_neg (by simpa using hfin)]
    split <;> exact ⟨_, rfl⟩
  · exact .inl ⟨hfin, calcRoute_of_not_finite e s hfin⟩

end TimetableEngine

/-! ## Answering a request -/

namespace RouteService

/-- Noting the simulation hour changes nothing but the hour noted. -/
theorem logHour_eq (svc : RouteService) (now : Nat) :
    ∃ hour, svc.logHour now = { svc with lastLoggedHour := hour } := by
  unfold logHour
  split
  · exact ⟨svc.lastLoggedHour, rfl⟩
  · dsimp only
    split
    · exact ⟨_, rfl⟩
    · exact ⟨svc.lastLoggedHour, rfl⟩

/-- The answer to a request: both ends resolved, the query routed, the itinerary sent. -/
theorem handle_fst (svc : RouteService) (req : Wire.Request) :
    (svc.handle req).1 = svc.query req >>= fun q =>
      (svc.engine.calcRoute svc.scenario q).1.mapError .engine >>= svc.answer req q := by
  obtain ⟨hour, hlog⟩ := logHour_eq svc req.now
  -- the hour is read by neither the query, the routing nor the answer
  have hquery : ({ svc with lastLoggedHour := hour } : RouteService).query req = svc.query req :=
    rfl
  have hanswer : ({ svc with lastLoggedHour := hour } : RouteService).answer req = svc.answer req :=
    rfl
  simp only [handle, hlog, hquery, hanswer]
  cases svc.query req <;> rfl

/-- A failing end fails the request with its own error, which is never the engine's. -/
theorem not_engine_of_endError {svc : RouteService} {link : Option Wire.LinkRef}
    {which : String} {e : RouteError} (h : svc.EndError link which e) (msg : String) :
    e ≠ .engine (.routing msg) := by
  rintro rfl
  exact h.elim

/-- The query of two resolved ends is finite exactly when both points are, the departure time
being finite. -/
theorem query_finite_iff {a b : String × Coord} {t : Nat} {mode : String}
    (ht : Binary64.isFinite (Float.ofNat t) = true) :
    RoutingRequest.Finite
        { fromLink := a.1, fromCoord := a.2, toLink := b.1, toCoord := b.2,
          departureTime := Float.ofNat t, mode := mode } ↔
      a.2.isFinite = true ∧ b.2.isFinite = true := by
  simp [RoutingRequest.Finite, Coord.isFinite, ht, and_assoc]

/-- The answer to a routed itinerary that can be sent is a success. -/
theorem answer_of_sendable (svc : RouteService) (req : Wire.Request) (q : RoutingRequest)
    {plan : List PlanElement} (h : ∀ l, .leg l ∈ plan → l.Sendable) :
    ∃ r, svc.answer req q plan = .ok r := by
  obtain ⟨els, hels⟩ := planToWire_of_sendable h
  simp [answer, hels]

/-- Over any scenario, walking model and id registry, a request with a 32-bit departure time
fails only in these ways: an error of its `from` end (no link, an unregistered link code, or a
link the scenario lacks), then one of its `to` end, or a routing error of the engine, which
happens exactly when both ends resolve and one of their points (the request's own, else the
link's midpoint) is not finite. Only the routing error is an internal error; the others are
the caller's. No itinerary fails to go on the wire. -/
theorem handle_errors (svc : RouteService) (req : Wire.Request)
    (hdep : req.departureTime ≤ u32Max) :
    (∀ e, (∀ msg, e ≠ .engine (.routing msg)) →
      ((svc.handle req).1 = .error e ↔
        svc.EndError req.fromLink "from" e ∨
          ∃ a, svc.EndResolves req.fromLink req.fromCoord a ∧ svc.EndError req.toLink "to" e)) ∧
    ((∃ msg, (svc.handle req).1 = .error (.engine (.routing msg))) ↔
      ∃ a b, svc.EndResolves req.fromLink req.fromCoord a ∧
        svc.EndResolves req.toLink req.toCoord b ∧
        ¬ (a.2.isFinite = true ∧ b.2.isFinite = true)) ∧
    (∀ e, (svc.handle req).1 = .error e →
      (e.status = "Internal" ↔ ∃ msg, e = .engine (.routing msg))) := by
  have hdepFinite : Binary64.isFinite (Float.ofNat req.departureTime) = true :=
    Binary64.isFinite_ofNat (by unfold u32Max at hdep; omega)
  simp only [← facility_eq_error_iff svc req.fromLink req.fromCoord,
    ← facility_eq_error_iff svc req.toLink req.toCoord,
    ← facility_eq_ok_iff svc req.fromLink req.fromCoord "from",
    ← facility_eq_ok_iff svc req.toLink req.toCoord "to", handle_fst, query]
  cases hF : svc.facility req.fromLink req.fromCoord "from" with
  | error e0 =>
    have hend := (facility_eq_error_iff _ _ _ _ _).1 hF
    simp only [Except.error_bind, Except.error.injEq, reduceCtorEq, false_and, exists_false,
      iff_false, not_exists]
    refine ⟨fun e _ => by simp, fun msg h => not_engine_of_endError hend msg h, ?_⟩
    rintro e rfl
    simp [status_of_endError hend, not_engine_of_endError hend]
  | ok a =>
    cases hT : svc.facility req.toLink req.toCoord "to" with
    | error e0 =>
      have hend := (facility_eq_error_iff _ _ _ _ _).1 hT
      simp only [Except.ok_bind, Except.error_bind, Except.error.injEq, reduceCtorEq, false_and,
        and_false, exists_false, iff_false, not_exists]
      refine ⟨fun e _ => by simp, fun msg h => not_engine_of_endError hend msg h, ?_⟩
      rintro e rfl
      simp [status_of_endError hend, not_engine_of_endError hend]
    | ok b =>
      simp only [Except.ok_bind, Except.pure_eq_ok]
      -- both ends resolve: the engine decides, and its itineraries always go on the wire
      set q : RoutingRequest :=
        { fromLink := a.1, fromCoord := a.2, toLink := b.1, toCoord := b.2,
          departureTime := Float.ofNat req.departureTime, mode := req.mode }
      have hfinite_iff : q.Finite ↔ a.2.isFinite = true ∧ b.2.isFinite = true :=
        query_finite_iff hdepFinite
      rcases TimetableEngine.calcRoute_fst_cases svc.engine svc.scenario q
        with ⟨hrefused, msg, hc⟩ | ⟨hfinite, plan, hc⟩
      · rw [hfinite_iff] at hrefused
        rw [hc]
        refine ⟨fun e he => ?_, ⟨fun _ => ⟨a, b, rfl, rfl, hrefused⟩, fun _ => ⟨msg, rfl⟩⟩, ?_⟩
        · simp [Except.mapError, (he msg).symm]
        · rintro e h
          simp only [Except.mapError, Except.error_bind, Except.error.injEq] at h
          subst h
          simp [RouteError.status]
      · rw [hfinite_iff] at hfinite
        obtain ⟨r, hr⟩ := answer_of_sendable svc req q (TimetableEngine.calcRoute_sendable _ _ _ hc)
        rw [hc]
        simp only [Except.mapError, Except.ok_bind, hr]
        refine ⟨fun e _ => by simp, ?_, fun e h => by cases h⟩
        simp [hfinite]

/-- Over a scenario of one link, a request from that link to itself whose own starting point is
infinitely far: both ends resolve, and the engine refuses the query, the one internal error. -/
theorem handle_errors_infinite_start :
    let svc := RouteService.new 0 ⟨"w", [⟨"o", ⟨0, 0⟩, ⟨1, 0⟩, none⟩], ⟨[("o", 0)]⟩, [], []⟩
      .default .empty
    let req : Wire.Request :=
      { fromLink := some (.id "o"), toLink := some (.id "o"),
        fromCoord := some ⟨Binary64.infinity false, 0⟩, mode := "pt" }
    req.departureTime ≤ u32Max ∧
    (match (svc.handle req).1 with
     | .error e => e.status
     | .ok _ => "OK") = "Internal" ∧
    (∀ e, (∀ msg, e ≠ .engine (.routing msg)) →
      ((svc.handle req).1 = .error e ↔
        svc.EndError req.fromLink "from" e ∨
          ∃ a, svc.EndResolves req.fromLink req.fromCoord a ∧ svc.EndError req.toLink "to" e)) ∧
    ((∃ msg, (svc.handle req).1 = .error (.engine (.routing msg))) ↔
      ∃ a b, svc.EndResolves req.fromLink req.fromCoord a ∧
        svc.EndResolves req.toLink req.toCoord b ∧
        ¬ (a.2.isFinite = true ∧ b.2.isFinite = true)) ∧
    (∀ e, (svc.handle req).1 = .error e →
      (e.status = "Internal" ↔ ∃ msg, e = .engine (.routing msg))) := by
  intro svc req
  have hdep : req.departureTime ≤ u32Max := by decide
  have hinternal : (match (svc.handle req).1 with
      | .error e => e.status
      | .ok _ => "OK") = "Internal" := by
    decide +kernel
  exact ⟨hdep, hinternal, handle_errors svc req hdep⟩

end RouteService

end TransitRouting
