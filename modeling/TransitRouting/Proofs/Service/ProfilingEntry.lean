import TransitRouting.Proofs.Service.RequestErrors
import TransitRouting.Proofs.Pool.Shutdown

/-!
# What an answered request records

A worker serving a request either fails it and leaves the pool exactly as it was, or answers
it, echoing the request id, and records one profiling entry. The entry describes the request:
the simulation clock and departure time it carried, the ids of its two links (the registered
ids when it named them by code), the travel time of the response and the request id. It goes
at the end of the serving worker's shard, if profiling is on and the registry has a shard for
that worker; otherwise nothing is recorded. Nothing else in the pool changes.

## What this module delivers

- `ProfilingRegistry.record_shard`: the registry after recording, shard by shard.
- `RouteService.query_refersTo`: the query of a request names the links its ends refer to.
- `RouteService.handle_answered`: the response and the entry of an answered request.
- `WorkerPool.serve_profiling_entry`: what serving a request does to the pool's registry.
-/

set_option autoImplicit false

namespace TransitRouting

/-- Recording appends the entry to its own worker's shard, when profiling is on, and leaves
every other shard as it was. -/
theorem ProfilingRegistry.record_shard (r : ProfilingRegistry) (e : ProfilingEntry) (i : Nat) :
    (r.record e).shards[i]? =
      r.shards[i]?.map fun shard =>
        if r.enabled = true ∧ i = e.workerId then shard ++ [e] else shard := by
  unfold ProfilingRegistry.record
  split
  · rename_i hon
    simp only [Bool.and_eq_true, decide_eq_true_eq] at hon
    rw [List.getElem?_modify]
    by_cases hi : i = e.workerId
    · subst hi
      simp [hon.1]
    · simp [hi, Ne.symm hi]
  · rename_i hoff
    simp only [Bool.and_eq_true, decide_eq_true_eq] at hoff
    -- nothing is recorded: profiling is off, or the worker has no shard
    cases hget : r.shards[i]? with
    | none => rfl
    | some shard =>
      have hshard : ¬ (r.enabled = true ∧ i = e.workerId) := by
        rintro ⟨hon, rfl⟩
        exact hoff ⟨hon, (List.getElem?_eq_some_iff.1 hget).1⟩
      simp [hshard]

namespace RouteService

/-- A resolved query names, at each end, the link that end refers to. -/
theorem query_refersTo {svc : RouteService} {req : Wire.Request} {q : RoutingRequest}
    (h : svc.query req = .ok q) :
    svc.RefersTo req.fromLink q.fromLink ∧ svc.RefersTo req.toLink q.toLink := by
  unfold query at h
  obtain ⟨a, ha, h⟩ := bind_eq_ok h
  obtain ⟨b, hb, h⟩ := bind_eq_ok h
  cases h
  exact ⟨((facility_eq_ok_iff _ _ _ _ _).1 ha).1, ((facility_eq_ok_iff _ _ _ _ _).1 hb).1⟩

/-- An answered request echoes its id, and its entry is made from the request, its resolved
query and the response. -/
theorem handle_answered {svc : RouteService} {req : Wire.Request} {resp : Wire.Response}
    {entry : ProfilingEntry} (h : (svc.handle req).1 = .ok (resp, entry)) :
    ∃ q, svc.query req = .ok q ∧ resp.requestId = req.requestId ∧
      entry = { workerId := svc.workerId, simulationNow := req.now,
                departureTime := req.departureTime, fromLink := q.fromLink, toLink := q.toLink,
                travelTime := totalTravelTime resp.elements, requestId := req.requestId } := by
  rw [handle_fst] at h
  obtain ⟨q, hq, h⟩ := bind_eq_ok h
  obtain ⟨plan, -, h⟩ := bind_eq_ok h
  unfold answer at h
  obtain ⟨els, -, h⟩ := bind_eq_ok h
  cases h
  exact ⟨q, hq, rfl, rfl⟩

end RouteService

/-- Serving a request on any worker and any pool: a failed request leaves the pool as it was.
An answered request echoes the request id and records exactly one entry, at the end of the
serving worker's shard when profiling is on and that shard exists, and nowhere otherwise,
with nothing else in the pool changed. The entry carries the worker, the request's clock and
departure time, the ids its two ends refer to (by id, or through the registry for a code), the
response's travel time and the request id. -/
theorem WorkerPool.serve_profiling_entry (p : WorkerPool) (svc : RouteService)
    (req : Wire.Request) :
    (∀ e, (p.serve svc req).1 = .error e → (p.serve svc req).2.2 = p) ∧
    (∀ resp entry, (p.serve svc req).1 = .ok (resp, entry) →
      resp.requestId = req.requestId ∧
      (p.serve svc req).2.2 = { p with profiling := p.profiling.record entry } ∧
      (∀ i, (p.serve svc req).2.2.profiling.shards[i]? =
        p.profiling.shards[i]?.map fun shard =>
          if p.profiling.enabled = true ∧ i = svc.workerId then shard ++ [entry] else shard) ∧
      entry.workerId = svc.workerId ∧ entry.simulationNow = req.now ∧
      entry.departureTime = req.departureTime ∧
      svc.RefersTo req.fromLink entry.fromLink ∧ svc.RefersTo req.toLink entry.toLink ∧
      entry.travelTime = totalTravelTime resp.elements ∧ entry.requestId = req.requestId) := by
  rw [serve_eq]
  refine ⟨fun e h => ?_, fun resp entry h => ?_⟩
  · -- a failure records nothing
    dsimp only at h ⊢
    simp only [h]
  · dsimp only at h ⊢
    obtain ⟨q, hq, hid, rfl⟩ := RouteService.handle_answered h
    obtain ⟨hfrom, hto⟩ := RouteService.query_refersTo hq
    rw [h]
    exact ⟨hid, rfl, fun i => ProfilingRegistry.record_shard _ _ i, rfl, rfl, rfl, hfrom, hto,
      rfl, rfl⟩

end TransitRouting
