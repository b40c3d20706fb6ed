import TransitRouting.Proofs.Service.RequestErrors

/-!
# Links named by code

A request may name each of its links by the link's id or by the integer code the id store gave
that id. A code is only a shorter name: when the registry knows it, answering the request is
the same as answering it with the id in its place, response, profiling entry and the worker's
state after it alike. A code the registry does not know fails the request with that code, as
soon as the ends before it have resolved.

## What this module delivers

- `RouteService.facility_registered_code`, `RouteService.facility_unregistered_code`: one end
  named by a code.
- `RouteService.handle_congr`: a request is answered alike whenever its query and the fields
  its answer reads agree.
- `RouteService.handle_link_code`: both ends, for a registered and for an unregistered code.
-/

set_option autoImplicit false

namespace TransitRouting

namespace RouteService

variable (svc : RouteService) (req : Wire.Request)

/-! ## One end -/

/-- An end named by a registered code resolves as the end named by the id under the code. -/
theorem facility_registered_code {c : Nat} {id : String} (h : svc.ids.resolve .link c = some id)
    (coord : Option Wire.Point) (which : String) :
    svc.facility (some (.code c)) coord which = svc.facility (some (.id id)) coord which := by
  simp [facility, h]

/-- An end named by an unregistered code fails with that code. -/
theorem facility_unregistered_code {c : Nat} (h : svc.ids.resolve .link c = none)
    (coord : Option Wire.Point) (which : String) :
    svc.facility (some (.code c)) coord which = .error (.unknownLinkCode c) := by
  simp [facility, h]

/-! ## The whole request -/

/-- Two requests with the same query, clock, departure time and request id are answered alike,
and leave the service alike. -/
theorem handle_congr {r r' : Wire.Request} (hquery : svc.query r = svc.query r')
    (hnow : r.now = r'.now) (hdep : r.departureTime = r'.departureTime)
    (hid : r.requestId = r'.requestId) : svc.handle r = svc.handle r' := by
  obtain ⟨hour, hlog⟩ := logHour_eq svc r.now
  -- the answer reads the request only through its clock, departure time and id
  have hanswer : svc.answer r = svc.answer r' := by
    funext q plan
    unfold answer
    rw [hnow, hdep, hid]
  have hquery' : ({ svc with lastLoggedHour := hour } : RouteService).query r =
      ({ svc with lastLoggedHour := hour } : RouteService).query r' :=
    hquery
  have hanswer' : ({ svc with lastLoggedHour := hour } : RouteService).answer r =
      ({ svc with lastLoggedHour := hour } : RouteService).answer r' :=
    hanswer
  simp only [handle, ← hnow, hlog, hquery', hanswer']

/-- The query of a request whose `from` end is named by a registered code is the query with the
id in its place. -/
theorem query_from_registered_code {c : Nat} {id : String}
    (h : svc.ids.resolve .link c = some id) :
    svc.query { req with fromLink := some (.code c) } =
      svc.query { req with fromLink := some (.id id) } := by
  simp only [query, facility_registered_code svc h]

/-- The query of a request whose `to` end is named by a registered code is the query with the id
in its place. -/
theorem query_to_registered_code {c : Nat} {id : String}
    (h : svc.ids.resolve .link c = some id) :
    svc.query { req with toLink := some (.code c) } =
      svc.query { req with toLink := some (.id id) } := by
  simp only [query, facility_registered_code svc h]

/-- Over any id registry, naming either end of a request by a registered code is answered
exactly as naming it by the id under the code: the same response or error, the same profiling
entry, and the same service afterwards. An unregistered code fails the request with that code:
at once at the `from` end, and at the `to` end once the `from` end has resolved. -/
theorem handle_link_code (c : Nat) :
    (∀ id, svc.ids.resolve .link c = some id →
      svc.handle { req with fromLink := some (.code c) } =
          svc.handle { req with fromLink := some (.id id) } ∧
        svc.handle { req with toLink := some (.code c) } =
          svc.handle { req with toLink := some (.id id) }) ∧
    (svc.ids.resolve .link c = none →
      (svc.handle { req with fromLink := some (.code c) }).1 = .error (.unknownLinkCode c) ∧
        ((∃ a, svc.facility req.fromLink req.fromCoord "from" = .ok a) →
          (svc.handle { req with toLink := some (.code c) }).1 = .error (.unknownLinkCode c))) := by
  refine ⟨fun id h => ⟨?_, ?_⟩, fun h => ⟨?_, ?_⟩⟩
  · exact handle_congr svc (query_from_registered_code svc req h) rfl rfl rfl
  · exact handle_congr svc (query_to_registered_code svc req h) rfl rfl rfl
  · rw [handle_fst]
    simp [query, facility_unregistered_code svc h]
  · rintro ⟨a, hfrom⟩
    rw [handle_fst]
    simp [query, hfrom, facility_unregistered_code svc h]

end RouteService

end TransitRouting
