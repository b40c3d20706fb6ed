import Mathlib
import TransitRouting.Proofs.Pool.Bookkeeping
import TransitRouting.Proofs.Service.HiddenState

/-!
# Shutting down while calls are in flight

Shutdown calls and route calls interleave in any order. The first shutdown call to reach the
once-cell drains the pool and writes the profiling table; every shutdown call answers with
that one outcome. Draining needs every permit free, and a route call holds its permit from
before its worker answers until after the worker is back. So when the pool is drained, every
call that got a permit has been answered, and its profiling entry recorded. After that the
pool is closed, nothing more is served, and every call still waiting, or made later, is
refused with `Closed` and records nothing.

All of this needs a pool of fewer than `2^32` workers. A larger pool cannot ask for all its
permits at once and is closed without waiting, with its calls still in flight; the books of
`ServerState.Balanced` hold for it too, but the table can then miss entries.

## What this module delivers

- `RouteService.handle_entry_workerId`: an answer's profiling entry names its worker.
- `ServerState.Served` (what route calls and the registry keep) and `ServerState.OnceCell`
  (what the shutdown sequence keeps), each with its `start`, `step` and `run` lemmas.
- `ServerState.flushes_run`: the table is written at most once, exactly when the cell is
  filled.
- `ServerState.refused_after_closed`: once the pool is closed, every later call is refused.
- `ServerState.shutdown_flushes_once`: the whole shutdown law over every interleaving.
-/

set_option autoImplicit false

namespace TransitRouting

/-! ## Entries name their worker -/

namespace RouteService

/-- Handling a request keeps the worker's id. -/
@[simp]
theorem handle_workerId (svc : RouteService) (req : Wire.Request) :
    (svc.handle req).2.workerId = svc.workerId := by
  have h := congrArg RouteService.workerId (fresh_handle_snd svc req)
  exact h

/-- The profiling entry of a response names the worker that gave it. -/
theorem answer_workerId {svc : RouteService} {req : Wire.Request} {query : RoutingRequest}
    {plan : List PlanElement} {resp : Wire.Response} {e : ProfilingEntry}
    (h : svc.answer req query plan = .ok (resp, e)) : e.workerId = svc.workerId := by
  unfold answer at h
  cases hw : planToWire plan with
  | error err =>
    rw [hw] at h
    cases h
  | ok elements =>
    rw [hw] at h
    cases h
    rfl

/-- The profiling entry of an answered request names the worker that answered it. -/
theorem handle_entry_workerId {svc : RouteService} {req : Wire.Request} {resp : Wire.Response}
    {e : ProfilingEntry} (h : (svc.handle req).1 = .ok (resp, e)) : e.workerId = svc.workerId := by
  -- noting the hour keeps the worker id, and the entry is made by the service after it
  have hlog : (svc.logHour req.now).workerId = svc.workerId := by
    have h := congrArg RouteService.workerId (logHour_fresh svc req.now)
    exact h
  simp only [handle] at h
  split at h
  · cases h
  · rename_i query _
    cases hplan : ((svc.logHour req.now).engine.calcRoute (svc.logHour req.now).scenario query).1
      with
    | error err =>
      simp only [hplan, Except.mapError, Except.bind] at h
      cases h
    | ok plan =>
      simp only [hplan, Except.mapError, Except.bind] at h
      rw [answer_workerId h, hlog]

end RouteService

/-! ## The registry -/

namespace ProfilingRegistry

@[simp] theorem record_enabled (r : ProfilingRegistry) (e : ProfilingEntry) :
    (r.record e).enabled = r.enabled := by
  unfold record
  split <;> rfl

@[simp] theorem record_shards_length (r : ProfilingRegistry) (e : ProfilingEntry) :
    (r.record e).shards.length = r.shards.length := by
  unfold record
  split
  · simp
  · rfl

/-- Appending to one shard keeps every entry and adds the new one when the shard exists. -/
theorem mem_flatten_modify {e e' : ProfilingEntry} :
    ∀ {shards : List (List ProfilingEntry)} {i : Nat},
      e' ∈ (shards.modify i (· ++ [e])).flatten ↔
        e' ∈ shards.flatten ∨ (e' = e ∧ i < shards.length)
  | [], _ => by simp
  | shard :: rest, 0 => by
    simp only [List.modify_zero_cons, List.flatten_cons, List.mem_append, List.mem_singleton,
      List.length_cons]
    constructor
    · rintro ((h | h) | h)
      · exact .inl (.inl h)
      · exact .inr ⟨h, by omega⟩
      · exact .inl (.inr h)
    · rintro ((h | h) | ⟨h, _⟩)
      · exact .inl (.inl h)
      · exact .inr h
      · exact .inl (.inr h)
  | shard :: rest, i + 1 => by
    simp only [List.modify_succ_cons, List.flatten_cons, List.mem_append, List.length_cons]
    rw [mem_flatten_modify]
    constructor
    · rintro (h | h | ⟨h, hi⟩)
      · exact .inl (.inl h)
      · exact .inl (.inr h)
      · exact .inr ⟨h, by omega⟩
    · rintro ((h | h) | ⟨h, hi⟩)
      · exact .inl h
      · exact .inr (.inl h)
      · exact .inr (.inr ⟨h, by omega⟩)

/-- Recording keeps every entry and adds the new one, when profiling is on and the registry
has a shard for its worker. -/
theorem mem_record {r : ProfilingRegistry} {e e' : ProfilingEntry} :
    e' ∈ (r.record e).shards.flatten ↔
      e' ∈ r.shards.flatten ∨ (e' = e ∧ r.enabled = true ∧ e.workerId < r.shards.length) := by
  unfold record
  split
  · rename_i hon
    simp only [Bool.and_eq_true, decide_eq_true_eq] at hon
    rw [mem_flatten_modify]
    simp [hon]
  · rename_i hoff
    simp only [Bool.and_eq_true, decide_eq_true_eq] at hoff
    constructor
    · exact .inl
    · rintro (h | ⟨_, hon, hlt⟩)
      · exact h
      · exact absurd ⟨hon, hlt⟩ hoff

end ProfilingRegistry

/-- The services `materializeFrom` builds carry the ids of their workers. -/
theorem WorkerPool.materializeFrom_workerId {f : EngineFactory} {ids : IdRegistry} :
    ∀ {start n : Nat} {workers : List RouteService},
      materializeFrom f ids start n = .ok workers →
        ∀ k (hk : k < workers.length), workers[k].workerId = start + k
  | _, 0, _, h => by
    cases h
    intro k hk
    simp at hk
  | start, n + 1, workers, h => by
    simp only [materializeFrom] at h
    split at h
    · cases h
    · split at h
      · cases h
      · rename_i rest hrest
        cases h
        intro k hk
        cases k with
        | zero => rfl
        | succ k =>
          simp only [List.getElem_cons_succ]
          rw [materializeFrom_workerId hrest k (by simpa using hk)]
          omega

/-- What was in a list is still there after one position is replaced, unless it was the element
replaced. -/
theorem mem_set_or_eq {α : Type} {l : List α} {i : Nat} {a b : α} (hb : l[i]? = some b)
    (ha : a ∈ l) (c : α) : a ∈ l.set i c ∨ a = b := by
  obtain ⟨j, hj⟩ := List.mem_iff_getElem?.1 ha
  by_cases hij : i = j
  · subst hij
    rw [hb] at hj
    exact .inr (Option.some.inj hj).symm
  · exact .inl (List.mem_iff_getElem?.2 ⟨j, by rw [List.getElem?_set_ne hij]; exact hj⟩)

/-- The element put in is in the list. -/
theorem mem_set_of_getElem? {α : Type} {l : List α} {i : Nat} {b : α} (hb : l[i]? = some b)
    (c : α) : c ∈ l.set i c :=
  List.mem_set (List.getElem?_eq_some_iff.1 hb).1 c

namespace WorkerPool

/-! ## Serving and draining leave the pool alone -/

section Serve

variable (p : WorkerPool) (svc : RouteService) (req : Wire.Request)

@[simp] theorem serve_answer : (p.serve svc req).1 = (svc.handle req).1 := by
  unfold serve
  split <;> rename_i h <;> rw [h]

@[simp] theorem serve_service : (p.serve svc req).2.1 = (svc.handle req).2 := by
  unfold serve
  split <;> rename_i h <;> rw [h]

@[simp] theorem serve_size : (p.serve svc req).2.2.size = p.size := by
  unfold serve
  split <;> rfl

@[simp] theorem serve_permits : (p.serve svc req).2.2.permits = p.permits := by
  unfold serve
  split <;> rfl

@[simp] theorem serve_idle : (p.serve svc req).2.2.idle = p.idle := by
  unfold serve
  split <;> rfl

@[simp] theorem serve_profiling_enabled :
    (p.serve svc req).2.2.profiling.enabled = p.profiling.enabled := by
  unfold serve
  split <;> simp

@[simp] theorem serve_profiling_shards_length :
    (p.serve svc req).2.2.profiling.shards.length = p.profiling.shards.length := by
  unfold serve
  split <;> simp

/-- Serving records the entry of a successful answer, and nothing else. -/
theorem mem_serve_profiling {e : ProfilingEntry} :
    e ∈ (p.serve svc req).2.2.profiling.shards.flatten ↔
      e ∈ p.profiling.shards.flatten ∨ ((∃ resp, (svc.handle req).1 = .ok (resp, e)) ∧
        p.profiling.enabled = true ∧ e.workerId < p.profiling.shards.length) := by
  unfold serve
  split
  · rename_i resp entry _ h
    rw [ProfilingRegistry.mem_record, h]
    constructor
    · rintro (he | ⟨rfl, hon, hlt⟩)
      · exact .inl he
      · exact .inr ⟨⟨resp, rfl⟩, hon, hlt⟩
    · rintro (he | ⟨⟨_, hok⟩, hon, hlt⟩)
      · exact .inl he
      · cases hok
        exact .inr ⟨rfl, hon, hlt⟩
  · rename_i h
    rw [h]
    simp

end Serve

/-- Draining changes nothing but the semaphore. -/
theorem drain_keeps {p q : WorkerPool} (h : p.drain = some q) :
    q.profiling = p.profiling ∧ q.phase = p.phase ∧ q.size = p.size := by
  rcases drain_some h with ⟨_, rfl⟩ | ⟨_, _, _, rfl⟩ | ⟨_, rfl⟩ <;> exact ⟨rfl, rfl, rfl⟩

/-- A drain that goes through leaves the pool closed. -/
theorem drain_closed {p q : WorkerPool} (h : p.drain = some q) : q.permits.closed = true := by
  rcases drain_some h with ⟨_, rfl⟩ | ⟨_, _, _, rfl⟩ | ⟨hcl, rfl⟩
  · rfl
  · rfl
  · exact hcl

end WorkerPool

/-- Whether an event writes the profiling table. -/
def ServerEvent.isFlush : ServerEvent → Bool
  | .flush _ => true
  | _ => false

/-! ## What route calls and the registry keep -/

/-- Whether a call is still to be answered. -/
def CallStage.unanswered : CallStage → Bool
  | .waiting | .permitted | .checkedOut _ | .sent _ => true
  | _ => false

/-- What a route call keeps, in a pool of `size` workers. -/
structure RouteCall.Sound (size : Nat) (c : RouteCall) : Prop where
  /-- A call still to be answered has no result, no worker that served it and no answer. -/
  unanswered : c.stage.unanswered = true → c.result = none ∧ c.servedBy = none ∧ c.answer = none
  /-- A call that returned was served by a worker and returns the worker's answer, or was
  refused by a closed pool and recorded nothing. -/
  returned : ∀ r, c.result = some r →
    (∃ w a, c.servedBy = some w ∧ c.answer = some a ∧ r = (a.map Prod.fst).mapError .route) ∨
    (r = .error .closed ∧ c.servedBy = none ∧ c.answer = none)
  /-- A call with an answer was served by a worker, one of the pool's. -/
  served_of_answer : ∀ a, c.answer = some a → ∃ w, c.servedBy = some w
  served_lt : ∀ w, c.servedBy = some w → w < size
  /-- The entry of an answer names the worker that served it. -/
  entry_worker : ∀ w resp e, c.servedBy = some w → c.answer = some (.ok (resp, e)) →
    e.workerId = w

/-- A call just made keeps what a route call keeps. -/
theorem RouteCall.sound_new (size : Nat) (req : Wire.Request) :
    RouteCall.Sound size { request := req } where
  unanswered _ := ⟨rfl, rfl, rfl⟩
  returned _ h := by cases h
  served_of_answer _ h := by cases h
  served_lt _ h := by cases h
  entry_worker _ _ _ h := by cases h

namespace ServerState

/-- What route calls and the profiling registry keep, for a pool whose registry started as
`prof`. -/
structure Served (prof : ProfilingRegistry) (s : ServerState) : Prop where
  /-- Each worker's service knows its own id. -/
  worker_ids : ∃ workers, s.pool.phase = .warm workers ∧
    ∀ k (hk : k < workers.length), workers[k].workerId = k
  enabled_eq : s.pool.profiling.enabled = prof.enabled
  shards_length : s.pool.profiling.shards.length = prof.shards.length
  sound : ∀ c ∈ s.calls, c.Sound s.pool.size
  /-- The entry of every answer is in the registry, when the registry keeps entries of that
  worker. -/
  recorded : ∀ c ∈ s.calls, ∀ resp e, c.answer = some (.ok (resp, e)) → prof.enabled = true →
    e.workerId < prof.shards.length → e ∈ s.pool.profiling.shards.flatten
  /-- The registry holds what it started with and the entries of answers, nothing else. -/
  only_served : ∀ e ∈ s.pool.profiling.shards.flatten,
    e ∈ prof.shards.flatten ∨ ∃ c ∈ s.calls, ∃ resp, c.answer = some (.ok (resp, e))

section Served

variable {n : Nat} {prof : ProfilingRegistry} {s : ServerState}

/-- A route call's step keeps what calls and the registry keep when the call after it keeps
what a call keeps, the registry loses nothing and gains at most the call's own entry, and the
call does not lose an answer it had. -/
theorem Served.update (hs : s.Served prof) {i : Nat} {c c' : RouteCall} {p : WorkerPool}
    (hc : s.calls[i]? = some c) (hsound : c'.Sound p.size)
    (hworkers : ∃ workers, p.phase = .warm workers ∧
      ∀ k (hk : k < workers.length), workers[k].workerId = k)
    (henabled : p.profiling.enabled = s.pool.profiling.enabled)
    (hshards : p.profiling.shards.length = s.pool.profiling.shards.length)
    (hsize : p.size = s.pool.size)
    (hkeep : ∀ e ∈ s.pool.profiling.shards.flatten, e ∈ p.profiling.shards.flatten)
    (hrec : ∀ resp e, c'.answer = some (.ok (resp, e)) → prof.enabled = true →
      e.workerId < prof.shards.length → e ∈ p.profiling.shards.flatten)
    (hgain : ∀ e ∈ p.profiling.shards.flatten,
      e ∈ s.pool.profiling.shards.flatten ∨ ∃ resp, c'.answer = some (.ok (resp, e)))
    (hans : c.answer = none ∨ c'.answer = c.answer) :
    ((s.setCall i c').withPool p).Served prof where
  worker_ids := hworkers
  enabled_eq := henabled.trans hs.enabled_eq
  shards_length := hshards.trans hs.shards_length
  sound d hd := by
    simp only [withPool_calls, setCall_calls] at hd
    rcases List.mem_or_eq_of_mem_set hd with hd | rfl
    · simpa [hsize] using hs.sound d hd
    · exact hsound
  recorded d hd resp e hde hon hlt := by
    simp only [withPool_calls, setCall_calls] at hd
    rcases List.mem_or_eq_of_mem_set hd with hd | rfl
    · exact hkeep e (hs.recorded d hd resp e hde hon hlt)
    · exact hrec resp e hde hon hlt
  only_served e he := by
    simp only [withPool_calls, setCall_calls]
    rcases hgain e he with he | ⟨resp, hde⟩
    · rcases hs.only_served e he with he | ⟨d, hd, resp, hde⟩
      · exact .inl he
      · -- the call that answered is still there, or is the one replaced, which keeps its answer
        rcases mem_set_or_eq hc hd c' with hd | rfl
        · exact .inr ⟨d, hd, resp, hde⟩
        · rcases hans with hnone | hsame
          · rw [hnone] at hde
            cases hde
          · exact .inr ⟨c', mem_set_of_getElem? hc c', resp, hsame.trans hde⟩
    · exact .inr ⟨c', mem_set_of_getElem? hc c', resp, hde⟩

/-- A step that moves a call on without answering it, and leaves the registry, the workers and
the pool size alone, keeps what calls and the registry keep. -/
theorem Served.restage (hs : s.Served prof) {i : Nat} {c : RouteCall} {stage : CallStage}
    {p : WorkerPool} (hc : s.calls[i]? = some c)
    (hun : stage.unanswered = true → c.stage.unanswered = true)
    (hprof : p.profiling = s.pool.profiling) (hphase : p.phase = s.pool.phase)
    (hsize : p.size = s.pool.size) :
    ((s.setCall i { c with stage }).withPool p).Served prof := by
  have hsc := hs.sound c (List.mem_of_getElem? hc)
  refine hs.update hc ?_ (hphase ▸ hs.worker_ids) (by rw [hprof]) (by rw [hprof]) hsize
    (fun e he => hprof ▸ he) (fun resp e hde => hprof ▸ hs.recorded c (List.mem_of_getElem? hc)
      resp e hde) (fun e he => .inl (hprof ▸ he)) (.inr rfl)
  exact
    { unanswered := fun h => hsc.unanswered (hun h),
      returned := hsc.returned,
      served_of_answer := hsc.served_of_answer,
      served_lt := hsize ▸ hsc.served_lt,
      entry_worker := hsc.entry_worker }

/-- A waiting call refused by a closed pool keeps what calls and the registry keep. -/
theorem Served.refuse (hs : s.Served prof) {i : Nat} {c : RouteCall} (hc : s.calls[i]? = some c)
    (hst : c.stage = .waiting) :
    (s.setCall i { c with stage := .done, result := some (.error .closed) }).Served prof := by
  obtain ⟨_, hsb, hans⟩ := (hs.sound c (List.mem_of_getElem? hc)).unanswered (by simp [hst,
    CallStage.unanswered])
  rw [← setCall_withPool_pool]
  refine hs.update hc ?_ hs.worker_ids rfl rfl rfl (fun e he => he) ?_ (fun e he => .inl he)
    (.inr rfl)
  · exact
      { unanswered := fun h => by simp [CallStage.unanswered] at h,
        returned := fun r hr => .inr ⟨(Option.some.inj hr).symm, hsb, hans⟩,
        served_of_answer := fun a ha => by simp [hans] at ha,
        served_lt := fun w hw => by simp [hsb] at hw,
        entry_worker := fun w _ _ hw => by simp [hsb] at hw }
  · intro resp e hde
    simp [hans] at hde

/-- A step that leaves the calls, the registry, the workers and the pool size alone keeps what
calls and the registry keep. -/
theorem Served.of_eq (hs : s.Served prof) {t : ServerState} (hcalls : t.calls = s.calls)
    (hprof : t.pool.profiling = s.pool.profiling) (hphase : t.pool.phase = s.pool.phase)
    (hsize : t.pool.size = s.pool.size) : t.Served prof where
  worker_ids := hphase ▸ hs.worker_ids
  enabled_eq := hprof ▸ hs.enabled_eq
  shards_length := hprof ▸ hs.shards_length
  sound := hcalls ▸ hsize ▸ hs.sound
  recorded := hcalls ▸ hprof ▸ hs.recorded
  only_served := hcalls ▸ hprof ▸ hs.only_served

/-- A new call keeps what calls and the registry keep. -/
theorem Served.call (hs : s.Served prof) (req : Wire.Request) :
    ({ s with calls := s.calls ++ [{ request := req }] } : ServerState).Served prof where
  worker_ids := hs.worker_ids
  enabled_eq := hs.enabled_eq
  shards_length := hs.shards_length
  sound d hd := by
    rcases List.mem_append.1 hd with hd | hd
    · exact hs.sound d hd
    · rw [List.mem_singleton.1 hd]
      exact RouteCall.sound_new _ req
  recorded d hd resp e hde := by
    rcases List.mem_append.1 hd with hd | hd
    · exact hs.recorded d hd resp e hde
    · rw [List.mem_singleton.1 hd] at hde
      cases hde
  only_served e he := by
    rcases hs.only_served e he with he | ⟨d, hd, resp, hde⟩
    · exact .inl he
    · exact .inr ⟨d, List.mem_append_left _ hd, resp, hde⟩

/-- A worker that answers its call keeps what calls and the registry keep: the call returns the
worker's answer, and the registry gains the answer's entry. -/
theorem Served.serve (hb : s.Balanced n) (hs : s.Served prof) {i : Nat} {t : ServerState}
    (h : s.serve i = some t) : t.Served prof := by
  obtain ⟨c, w, workers, svc, hc, hst, hphase, hsvc, rfl⟩ := serve_eq_some h
  have hws : ∀ k (hk : k < workers.length), workers[k].workerId = k := by
    obtain ⟨workers', hphase', hws⟩ := hs.worker_ids
    rw [hphase] at hphase'
    cases hphase'
    exact hws
  obtain ⟨hw, rfl⟩ := List.getElem?_eq_some_iff.1 hsvc
  have hlt : w < s.pool.size :=
    hb.size_eq ▸ hb.lt_of_worker (List.mem_of_getElem? hc) (by simp [hst, CallStage.worker?])
  have hnone := ((hs.sound c (List.mem_of_getElem? hc)).unanswered
    (by simp [hst, CallStage.unanswered])).2.2
  refine hs.update hc ?sound ⟨_, rfl, fun k hk => ?_⟩ (by simp) (by simp) (by simp)
    (fun e he => WorkerPool.mem_serve_profiling _ _ _ |>.2 (.inl he)) ?recorded ?gained
    (.inl hnone)
  case sound =>
    exact
      { unanswered := fun h => by simp [CallStage.unanswered] at h,
        returned := fun r hr => .inl ⟨w, _, rfl, rfl, (Option.some.inj hr).symm⟩,
        served_of_answer := fun _ _ => ⟨w, rfl⟩,
        served_lt := fun w' hw' => by
          cases hw'
          simpa using hlt,
        entry_worker := fun w' resp e hw' he => by
          cases hw'
          rw [RouteService.handle_entry_workerId (by simpa using he), hws w hw] }
  case recorded =>
    intro resp e he hon hshards
    refine WorkerPool.mem_serve_profiling _ _ _ |>.2 (.inr ⟨⟨resp, by simpa using he⟩, ?_, ?_⟩)
    · rw [hs.enabled_eq, hon]
    · rw [hs.shards_length]
      exact hshards
  case gained =>
    intro e he
    rcases WorkerPool.mem_serve_profiling _ _ _ |>.1 he with he | ⟨⟨resp, hok⟩, _⟩
    · exact .inl he
    · exact .inr ⟨resp, by simpa using hok⟩
  -- the worker's service keeps its id, so every service still knows its own
  rw [List.getElem_set]
  split
  · rename_i hwk
    subst hwk
    simp [hws w hw]
  · exact hws k (by simpa using hk)

/-- Every step keeps what calls and the registry keep. -/
theorem Served.step (hb : s.Balanced n) (hs : s.Served prof) {mkdirs : MakeDirs}
    {e : ServerEvent} {t : ServerState} (h : s.step mkdirs e = some t) : t.Served prof := by
  cases e with
  | call req =>
    cases h
    exact hs.call req
  | acquire i =>
    obtain ⟨c, hc, hst, ⟨p, hp, rfl⟩ | ⟨err, he, rfl⟩⟩ := hb.acquire_eq_some h
    · obtain ⟨_, _, rfl⟩ := WorkerPool.takePermit_ok hp
      exact hs.restage hc (fun _ => by simp [hst, CallStage.unanswered]) rfl rfl rfl
    · obtain ⟨_, rfl⟩ := WorkerPool.takePermit_error he
      exact hs.refuse hc hst
  | pop i =>
    obtain ⟨c, w, p, hc, hst, hp, rfl⟩ := hb.pop_eq_some h
    obtain ⟨rest, _, rfl⟩ := WorkerPool.checkOut_ok hp
    exact hs.restage hc (fun _ => by simp [hst, CallStage.unanswered]) rfl rfl rfl
  | send i =>
    obtain ⟨c, w, workers, hc, hst, _, _, rfl⟩ := hb.send_eq_some h
    rw [← setCall_withPool_pool]
    exact hs.restage hc (fun _ => by simp [hst, CallStage.unanswered]) rfl rfl rfl
  | serve i => exact hs.serve hb h
  | push i =>
    obtain ⟨c, w, hc, hst, rfl⟩ := push_eq_some h
    exact hs.restage hc (fun h => by simp [CallStage.unanswered] at h) rfl rfl rfl
  | release i =>
    obtain ⟨c, w, hc, hst, rfl⟩ := release_eq_some h
    exact hs.restage hc (fun h => by simp [CallStage.unanswered] at h) rfl rfl rfl
  | shutdown =>
    cases h
    exact hs.of_eq rfl rfl rfl rfl
  | enter j =>
    obtain ⟨_, rfl⟩ := enter_eq_some h
    exact hs.of_eq rfl rfl rfl rfl
  | drain j =>
    obtain ⟨p, _, hp, rfl⟩ := drain_eq_some h
    obtain ⟨hprof, hphase, hsize⟩ := WorkerPool.drain_keeps hp
    exact hs.of_eq rfl hprof hphase hsize
  | flush j =>
    obtain ⟨_, rfl⟩ := flush_eq_some h
    exact hs.of_eq rfl rfl rfl rfl
  | wake j =>
    obtain ⟨o, _, _, rfl⟩ := wake_eq_some h
    exact hs.of_eq rfl rfl rfl rfl

end Served

/-- Before any call, a warm pool's services know their ids and its registry is the one given. -/
theorem Served.start {n : Nat} {f : EngineFactory} {ids : IdRegistry} {prof : ProfilingRegistry}
    {cold warm : WorkerPool} (hnew : WorkerPool.new n f ids prof = .ok cold)
    (hwarm : cold.warmAll = (.ok (), warm)) (out : OutputSettings) :
    (start { pool := warm, output := out }).Served prof := by
  obtain ⟨_, _, _, _, hprof, workers, hphase, hworkers⟩ := WorkerPool.warm_facts hnew hwarm
  exact
    { worker_ids := ⟨workers, hphase, fun k hk => by
        simpa using WorkerPool.materializeFrom_workerId hworkers k hk⟩,
      enabled_eq := by simp [hprof],
      shards_length := by simp [hprof],
      sound := fun c hc => by simp at hc,
      recorded := fun c hc => by simp at hc,
      only_served := fun e he => .inl (by simpa [hprof] using he) }

/-- Every run keeps what calls and the registry keep. -/
theorem Served.run {n : Nat} {prof : ProfilingRegistry} {mkdirs : MakeDirs} {s t : ServerState}
    {evs : List ServerEvent} (hb : s.Balanced n) (hs : s.Served prof)
    (h : ServerState.run mkdirs s evs = some t) : t.Served prof :=
  (run_preserves (P := fun s => s.Balanced n ∧ s.Served prof)
    (fun ⟨hb, hs⟩ hstep => ⟨hb.step hstep, hs.step hb hstep⟩) ⟨hb, hs⟩ h).2

/-! ## What the shutdown calls keep -/

/-- A call that holds a permit is in an open pool, when the pool is small enough to be drained:
a larger one is closed with its calls in flight. -/
theorem Balanced.open_of_holds {n : Nat} {s : ServerState} (hb : s.Balanced n)
    (hn : n < Nat.pow 2 32) {c : RouteCall} (hc : c ∈ s.calls) (hholds : c.stage.holdsPermit = true) :
    s.pool.permits.closed = false := by
  cases hcl : s.pool.permits.closed with
  | false => rfl
  | true =>
    have hpos : 0 < s.permitHolders := List.countP_pos_iff.2 ⟨c, hc, hholds⟩
    have := (hb.closed_permits hcl hn).2
    omega

/-- What the once-cell and the shutdown calls keep, writing tables with `mkdirs`. -/
structure OnceCell (mkdirs : MakeDirs) (s : ServerState) : Prop where
  /-- At most one call runs the initializer. -/
  initializers_le : s.shutdowns.countP ShutdownStage.initializes ≤ 1
  /-- Once the cell is filled, none runs it. -/
  filled_no_initializer : s.server.outcome.isSome = true →
    s.shutdowns.countP ShutdownStage.initializes = 0
  /-- The pool is closed exactly when the initializer has drained it. -/
  closed_iff : s.pool.permits.closed = true ↔
    (ShutdownStage.flushing ∈ s.shutdowns ∨ s.server.outcome.isSome = true)
  /-- The cell holds the outcome of writing the registry as it is. -/
  outcome_eq : ∀ o, s.server.outcome = some o →
    o = (s.pool.profiling.flush s.server.output mkdirs).mapError ServerError.flush
  /-- A shutdown call that answered gave the cell's outcome. -/
  answered : ∀ a, ShutdownStage.returned a ∈ s.shutdowns →
    ∃ o, s.server.outcome = some o ∧ a = RoutingServer.shutdownAnswer o

/-- Replacing one element by another keeps the membership of a third. -/
theorem mem_set_iff_of_ne {α : Type} {l : List α} {i : Nat} {a b c : α} (hb : l[i]? = some b)
    (hab : a ≠ b) (hac : a ≠ c) : a ∈ l.set i c ↔ a ∈ l := by
  constructor
  · intro h
    rcases List.mem_or_eq_of_mem_set h with h | h
    · exact h
    · exact absurd h hac
  · intro h
    rcases mem_set_or_eq hb h c with h | h
    · exact h
    · exact absurd h hab

section OnceCell

variable {n : Nat} {mkdirs : MakeDirs} {s : ServerState}

/-- An initializer is the only call running it. -/
theorem OnceCell.countP_eq_one (ho : s.OnceCell mkdirs) {j : Nat} {st : ShutdownStage}
    (hj : s.shutdowns[j]? = some st) (hinit : st.initializes = true) :
    s.shutdowns.countP ShutdownStage.initializes = 1 := by
  have hpos := List.countP_pos_iff.2 ⟨st, List.mem_of_getElem? hj, hinit⟩
  have := ho.initializers_le
  omega

/-- While a call runs the initializer, the cell is empty. -/
theorem OnceCell.outcome_none (ho : s.OnceCell mkdirs) {j : Nat} {st : ShutdownStage}
    (hj : s.shutdowns[j]? = some st) (hinit : st.initializes = true) : s.server.outcome = none := by
  cases hout : s.server.outcome with
  | none => rfl
  | some o =>
    have := ho.filled_no_initializer (by simp [hout])
    have := ho.countP_eq_one hj hinit
    omega

/-- A step that moves a shutdown call on, neither into nor out of flushing, keeps the cell's
facts when the new stage runs the initializer only if nobody does and the cell is empty, and
answers only with the cell's outcome. -/
theorem OnceCell.setShutdown (ho : s.OnceCell mkdirs) {j : Nat} {old st : ShutdownStage}
    (hj : s.shutdowns[j]? = some old) (hold : old.initializes = false)
    (hold_ne : old ≠ .flushing) (hst_ne : st ≠ .flushing)
    (hinit : st.initializes = true →
      s.shutdowns.countP ShutdownStage.initializes = 0 ∧ s.server.outcome = none)
    (hret : ∀ a, st = .returned a → ∃ o, s.server.outcome = some o ∧
      a = RoutingServer.shutdownAnswer o) :
    (s.setShutdown j st).OnceCell mkdirs := by
  have hset := countP_set_add (p := ShutdownStage.initializes) (b := st) hj
  rw [hold, Bool.toNat_false, Nat.add_zero] at hset
  refine
    { initializers_le := ?_, filled_no_initializer := ?_,
      closed_iff := ?_, outcome_eq := ho.outcome_eq, answered := ?_ }
  · cases hsi : st.initializes with
    | false =>
      simp only [hsi, Bool.toNat_false, Nat.add_zero, setShutdown_shutdowns] at hset ⊢
      exact hset ▸ ho.initializers_le
    | true =>
      have := (hinit hsi).1
      simp only [hsi, Bool.toNat_true, setShutdown_shutdowns] at hset ⊢
      omega
  · intro hfilled
    have hzero := ho.filled_no_initializer hfilled
    cases hsi : st.initializes with
    | false =>
      simp only [hsi, Bool.toNat_false, Nat.add_zero, setShutdown_shutdowns] at hset ⊢
      omega
    | true => simp [(hinit hsi).2] at hfilled
  · simp only [setShutdown_pool, setShutdown_shutdowns, setShutdown_server_outcome]
    rw [mem_set_iff_of_ne hj (Ne.symm hold_ne) (Ne.symm hst_ne)]
    exact ho.closed_iff
  · intro a ha
    rcases List.mem_or_eq_of_mem_set ha with ha | ha
    · exact ho.answered a ha
    · exact hret a ha.symm

/-- Moving a call that runs no initializer to a stage that runs none either keeps the cell's
facts, as long as a call that answers answers with the filled cell. -/
theorem OnceCell.setShutdown_passive (ho : s.OnceCell mkdirs) {j : Nat} {old st : ShutdownStage}
    (hj : s.shutdowns[j]? = some old) (hold : old.initializes = false)
    (hold_ne : old ≠ .flushing) (hst : st.initializes = false)
    (hret : ∀ a, st = .returned a → ∃ o, s.server.outcome = some o ∧
      a = RoutingServer.shutdownAnswer o) :
    (s.setShutdown j st).OnceCell mkdirs := by
  have hst_ne : st ≠ .flushing := by
    rintro rfl
    cases hst
  exact ho.setShutdown hj hold hold_ne hst_ne (fun h => by simp [hst] at h) hret

/-- A step that leaves the shutdown calls, the cell, the output settings and the pool's being
closed alone, and the registry too once the cell is filled, keeps the cell's facts. -/
theorem OnceCell.of_eq (ho : s.OnceCell mkdirs) {t : ServerState}
    (hsh : t.shutdowns = s.shutdowns) (hout : t.server.outcome = s.server.outcome)
    (houtput : t.server.output = s.server.output)
    (hclosed : t.pool.permits.closed = s.pool.permits.closed)
    (hprof : s.server.outcome.isSome = true → t.pool.profiling = s.pool.profiling) :
    t.OnceCell mkdirs where
  initializers_le := hsh ▸ ho.initializers_le
  filled_no_initializer := hsh ▸ hout ▸ ho.filled_no_initializer
  closed_iff := hsh ▸ hout ▸ hclosed ▸ ho.closed_iff
  outcome_eq o h := by
    rw [hout] at h
    rw [hprof (by simp [h]), houtput]
    exact ho.outcome_eq o h
  answered := hsh ▸ hout ▸ ho.answered

/-- The initializer drains the pool: the pool is closed and the call goes on to flush. -/
theorem OnceCell.drain (ho : s.OnceCell mkdirs) {j : Nat} {t : ServerState}
    (h : s.drain j = some t) : t.OnceCell mkdirs := by
  obtain ⟨p, hj, hp, rfl⟩ := drain_eq_some h
  have hnone := ho.outcome_none hj rfl
  have hset := countP_set_add (p := ShutdownStage.initializes) (b := .flushing) hj
  simp only [ShutdownStage.initializes, Bool.toNat_true] at hset
  refine
    { initializers_le := ?_, filled_no_initializer := fun h => by simp [hnone] at h,
      closed_iff := iff_of_true (WorkerPool.drain_closed hp) (.inl (mem_set_of_getElem? hj _)),
      outcome_eq := fun o h => by simp [hnone] at h, answered := ?_ }
  · have := ho.initializers_le
    simp only [setShutdown_shutdowns, withPool_shutdowns]
    omega
  · intro a ha
    rcases List.mem_or_eq_of_mem_set ha with ha | ha
    · exact ho.answered a ha
    · cases ha

/-- The initializer writes the registry's table and fills the cell: nobody runs the initializer
any more, and the call answers with the cell's outcome. -/
theorem OnceCell.flush (ho : s.OnceCell mkdirs) {j : Nat} {t : ServerState}
    (h : s.flush mkdirs j = some t) : t.OnceCell mkdirs := by
  obtain ⟨hj, rfl⟩ := flush_eq_some h
  have hnone := ho.outcome_none hj rfl
  have hone := ho.countP_eq_one hj rfl
  have hclosed := ho.closed_iff.2 (.inl (List.mem_of_getElem? hj))
  have hset := countP_set_add (p := ShutdownStage.initializes)
    (b := .returned (RoutingServer.shutdownAnswer
      ((s.pool.profiling.flush s.server.output mkdirs).mapError ServerError.flush))) hj
  simp only [ShutdownStage.initializes, Bool.toNat_true, Bool.toNat_false] at hset
  refine
    { initializers_le := ?_, filled_no_initializer := fun _ => ?_,
      closed_iff := iff_of_true hclosed (.inr (by simp)),
      outcome_eq := fun o h => by simp at h; exact h.symm, answered := ?_ }
  · simp only [setShutdown_shutdowns, withOutcome_shutdowns]
    omega
  · simp only [setShutdown_shutdowns, withOutcome_shutdowns]
    omega
  · intro a ha
    rcases List.mem_or_eq_of_mem_set ha with ha | ha
    · -- no call answered before the cell was filled
      obtain ⟨o, ho', _⟩ := ho.answered a ha
      rw [hnone] at ho'
      cases ho'
    · cases ha
      exact ⟨_, rfl, rfl⟩

/-- Every step keeps the cell's facts, on a pool small enough to be drained. -/
theorem OnceCell.step (hb : s.Balanced n) (hn : n < Nat.pow 2 32) (ho : s.OnceCell mkdirs)
    {e : ServerEvent}
    {t : ServerState} (h : s.step mkdirs e = some t) : t.OnceCell mkdirs := by
  cases e with
  | call req =>
    cases h
    exact ho.of_eq rfl rfl rfl rfl fun _ => rfl
  | acquire i =>
    obtain ⟨c, hc, hst, ⟨p, hp, rfl⟩ | ⟨err, he, rfl⟩⟩ := hb.acquire_eq_some h
    · obtain ⟨_, _, rfl⟩ := WorkerPool.takePermit_ok hp
      exact ho.of_eq rfl rfl rfl rfl fun _ => rfl
    · exact ho.of_eq rfl rfl rfl rfl fun _ => rfl
  | pop i =>
    obtain ⟨c, w, p, hc, hst, hp, rfl⟩ := hb.pop_eq_some h
    obtain ⟨rest, _, rfl⟩ := WorkerPool.checkOut_ok hp
    exact ho.of_eq rfl rfl rfl rfl fun _ => rfl
  | send i =>
    obtain ⟨c, w, workers, hc, hst, _, _, rfl⟩ := hb.send_eq_some h
    exact ho.of_eq rfl rfl rfl rfl fun _ => rfl
  | serve i =>
    obtain ⟨c, w, workers, svc, hc, hst, hphase, hsvc, rfl⟩ := serve_eq_some h
    -- the call holds a permit, so the pool is open and the cell still empty
    have hopen :=
      hb.open_of_holds hn (List.mem_of_getElem? hc) (by simp [hst, CallStage.holdsPermit])
    refine ho.of_eq rfl rfl rfl (by simp) fun hfilled => ?_
    have := ho.closed_iff.2 (.inr hfilled)
    rw [hopen] at this
    cases this
  | push i =>
    obtain ⟨c, w, hc, hst, rfl⟩ := push_eq_some h
    exact ho.of_eq rfl rfl rfl rfl fun _ => rfl
  | release i =>
    obtain ⟨c, w, hc, hst, rfl⟩ := release_eq_some h
    exact ho.of_eq rfl rfl rfl rfl fun _ => rfl
  | shutdown =>
    cases h
    exact
      { initializers_le := by simpa [ShutdownStage.initializes] using ho.initializers_le,
        filled_no_initializer := by
          simpa [ShutdownStage.initializes] using ho.filled_no_initializer,
        closed_iff := by simpa [pool] using ho.closed_iff,
        outcome_eq := ho.outcome_eq,
        answered := by simpa using ho.answered }
  | enter j =>
    obtain ⟨hj, rfl⟩ := enter_eq_some h
    split
    · rename_i o hout
      exact ho.setShutdown_passive hj rfl (by simp) rfl fun a ha => ⟨o, hout, by cases ha; rfl⟩
    · rename_i hout
      split
      · exact ho.setShutdown_passive hj rfl (by simp) rfl fun a ha => by cases ha
      · -- nobody runs the initializer yet: this call does
        rename_i hany
        refine ho.setShutdown hj rfl (by simp) (by simp) (fun _ => ⟨?_, hout⟩)
          fun a ha => by cases ha
        simpa [List.countP_eq_zero] using hany
  | drain j => exact ho.drain h
  | flush j => exact ho.flush h
  | wake j =>
    obtain ⟨o, hj, hout, rfl⟩ := wake_eq_some h
    exact ho.setShutdown_passive hj rfl (by simp) rfl fun a ha => ⟨o, hout, by cases ha; rfl⟩

end OnceCell

/-- Before any call, no shutdown call has been made and the pool is open. -/
theorem OnceCell.start {mkdirs : MakeDirs} {n : Nat} {f : EngineFactory} {ids : IdRegistry}
    {prof : ProfilingRegistry} {cold warm : WorkerPool}
    (hnew : WorkerPool.new n f ids prof = .ok cold) (hwarm : cold.warmAll = (.ok (), warm))
    (out : OutputSettings) : (start { pool := warm, output := out }).OnceCell mkdirs := by
  obtain ⟨_, _, _, hpermits, _⟩ := WorkerPool.warm_facts hnew hwarm
  exact
    { initializers_le := by simp,
      filled_no_initializer := fun h => by simp [ServerState.start] at h,
      closed_iff := by
        show warm.permits.closed = true ↔ _
        simp [hpermits, Semaphore.new, ServerState.start],
      outcome_eq := fun o h => by simp [ServerState.start] at h,
      answered := fun a h => by simp at h }

/-- Every run keeps the cell's facts. -/
theorem OnceCell.run {n : Nat} {mkdirs : MakeDirs} {s t : ServerState} {evs : List ServerEvent}
    (hb : s.Balanced n) (hn : n < Nat.pow 2 32) (ho : s.OnceCell mkdirs) (h : ServerState.run mkdirs s evs = some t) :
    t.OnceCell mkdirs :=
  (run_preserves (P := fun s => s.Balanced n ∧ s.OnceCell mkdirs)
    (fun ⟨hb, ho⟩ hstep => ⟨hb.step hstep, ho.step hb hn hstep⟩) ⟨hb, ho⟩ h).2

/-! ## The table is written once -/

/-- Every step keeps the output settings, and only a flush fills the cell. -/
theorem step_server {mkdirs : MakeDirs} {s t : ServerState} {e : ServerEvent}
    (h : s.step mkdirs e = some t) :
    t.server.output = s.server.output ∧
      (e.isFlush = false → t.server.outcome = s.server.outcome) := by
  cases e with
  | call req =>
    cases h
    exact ⟨rfl, fun _ => rfl⟩
  | acquire i =>
    rcases acquire_eq_some h with ⟨c, -, -, ⟨-, p, -, rfl⟩ | ⟨-, err, -, rfl⟩ | ⟨-, rfl⟩⟩ <;>
      exact ⟨rfl, fun _ => rfl⟩
  | pop i =>
    rcases pop_eq_some h with ⟨c, -, -, ⟨w, p, -, rfl⟩ | ⟨err, -, rfl⟩⟩ <;>
      exact ⟨rfl, fun _ => rfl⟩
  | send i =>
    rcases send_eq_some h with ⟨c, w, ws, -, -, -, ⟨-, rfl⟩ | ⟨-, rfl⟩⟩ <;>
      exact ⟨rfl, fun _ => rfl⟩
  | serve i =>
    obtain ⟨c, w, ws, svc, -, -, -, -, rfl⟩ := serve_eq_some h
    exact ⟨rfl, fun _ => rfl⟩
  | push i =>
    obtain ⟨c, w, -, -, rfl⟩ := push_eq_some h
    exact ⟨rfl, fun _ => rfl⟩
  | release i =>
    obtain ⟨c, w, -, -, rfl⟩ := release_eq_some h
    exact ⟨rfl, fun _ => rfl⟩
  | shutdown =>
    cases h
    exact ⟨rfl, fun _ => rfl⟩
  | enter j =>
    obtain ⟨-, rfl⟩ := enter_eq_some h
    exact ⟨rfl, fun _ => rfl⟩
  | drain j =>
    obtain ⟨p, -, -, rfl⟩ := drain_eq_some h
    exact ⟨rfl, fun _ => rfl⟩
  | flush j =>
    obtain ⟨-, rfl⟩ := flush_eq_some h
    exact ⟨rfl, fun h => by simp [ServerEvent.isFlush] at h⟩
  | wake j =>
    obtain ⟨o, -, -, rfl⟩ := wake_eq_some h
    exact ⟨rfl, fun _ => rfl⟩

/-- A step fills the cell exactly when it is a flush, and a flush finds it empty. -/
theorem OnceCell.outcome_step {mkdirs : MakeDirs} {s t : ServerState} (ho : s.OnceCell mkdirs)
    {e : ServerEvent} (h : s.step mkdirs e = some t) :
    t.server.outcome.isSome.toNat = s.server.outcome.isSome.toNat + e.isFlush.toNat := by
  cases hflush : e.isFlush with
  | false => simp [(step_server h).2 hflush]
  | true =>
    cases e <;> simp only [ServerEvent.isFlush, Bool.false_eq_true] at hflush
    rename_i j
    obtain ⟨hj, rfl⟩ := flush_eq_some h
    simp [ho.outcome_none hj rfl]

/-- Over a run, the cell is filled once for every flush: so there is at most one, and there is
one exactly when the cell ends up filled. -/
theorem flushes_run {n : Nat} {mkdirs : MakeDirs} (hn : n < Nat.pow 2 32) :
    ∀ {evs : List ServerEvent} {s t : ServerState}, s.Balanced n → s.OnceCell mkdirs →
      run mkdirs s evs = some t →
        evs.countP ServerEvent.isFlush + s.server.outcome.isSome.toNat =
          t.server.outcome.isSome.toNat
  | [], _, _, _, _, h => by
    cases h
    simp
  | e :: es, _, _, hb, ho, h => by
    obtain ⟨u, hu, ht⟩ := Option.bind_eq_some_iff.1 h
    have hrest := flushes_run hn (hb.step hu) (ho.step hb hn hu) ht
    have hone := ho.outcome_step hu
    rw [List.countP_cons]
    cases hflush : e.isFlush <;> simp only [hflush, Bool.toNat_true, Bool.toNat_false] at hone <;>
      simp <;> omega

/-! ## After the pool is closed -/

/-- Every call from the `k`-th on is still waiting, or was refused by a closed pool; none has
an answer. -/
def RefusedFrom (k : Nat) (s : ServerState) : Prop :=
  ∀ i c, k ≤ i → s.calls[i]? = some c → c.answer = none ∧
    (c.stage = .waiting ∧ c.result = none ∨ c.stage = .done ∧ c.result = some (.error .closed))

/-- The element at a position of a list with one element appended. -/
theorem getElem?_concat_eq_some {α : Type} {l : List α} {x c : α} {i : Nat}
    (h : (l ++ [x])[i]? = some c) : l[i]? = some c ∨ (i = l.length ∧ c = x) := by
  rw [List.getElem?_append] at h
  split at h
  · exact .inl h
  · rw [List.getElem?_singleton] at h
    split at h
    · cases h
      exact .inr ⟨by omega, rfl⟩
    · cases h

/-- In a closed pool, every step keeps the pool closed and the late calls refused: no call
holds a permit, so only new calls, refusals and shutdown steps can happen. -/
theorem RefusedFrom.step {n k : Nat} {mkdirs : MakeDirs} {s t : ServerState} {e : ServerEvent}
    (hb : s.Balanced n) (hn : n < Nat.pow 2 32) (hcl : s.pool.permits.closed = true) (hr : s.RefusedFrom k)
    (h : s.step mkdirs e = some t) : t.pool.permits.closed = true ∧ t.RefusedFrom k := by
  -- a call holding a permit would need an open pool
  have hnone : ∀ {i : Nat} {c : RouteCall}, s.calls[i]? = some c → c.stage.holdsPermit = true →
      False :=
    fun hc hholds => by
      rw [hb.open_of_holds hn (List.mem_of_getElem? hc) hholds] at hcl
      cases hcl
  cases e with
  | call req =>
    cases h
    refine ⟨hcl, fun i c hi hc => ?_⟩
    rcases getElem?_concat_eq_some hc with hc | ⟨_, rfl⟩
    · exact hr i c hi hc
    · exact ⟨rfl, .inl ⟨rfl, rfl⟩⟩
  | acquire i =>
    obtain ⟨c, hc, hst, ⟨p, hp, rfl⟩ | ⟨err, he, rfl⟩⟩ := hb.acquire_eq_some h
    · rw [(WorkerPool.takePermit_ok hp).1] at hcl
      cases hcl
    · obtain ⟨_, rfl⟩ := WorkerPool.takePermit_error he
      refine ⟨hcl, fun j d hj hd => ?_⟩
      by_cases hij : i = j
      · -- the refused call itself
        subst hij
        have hd' : d = { c with stage := .done, result := some (.error .closed) } := by
          simpa [List.getElem?_set_self (List.getElem?_eq_some_iff.1 hc).1] using hd.symm
        subst hd'
        exact ⟨(hr i c hj hc).1, .inr ⟨rfl, rfl⟩⟩
      · simp only [setCall_calls, List.getElem?_set_ne hij] at hd
        exact hr j d hj hd
  | pop i =>
    obtain ⟨c, hc, hst, -⟩ := pop_eq_some h
    exact (hnone hc (by simp [hst, CallStage.holdsPermit])).elim
  | send i =>
    obtain ⟨c, w, ws, hc, hst, -⟩ := send_eq_some h
    exact (hnone hc (by simp [hst, CallStage.holdsPermit])).elim
  | serve i =>
    obtain ⟨c, w, ws, svc, hc, hst, -⟩ := serve_eq_some h
    exact (hnone hc (by simp [hst, CallStage.holdsPermit])).elim
  | push i =>
    obtain ⟨c, w, hc, hst, -⟩ := push_eq_some h
    exact (hnone hc (by simp [hst, CallStage.holdsPermit])).elim
  | release i =>
    obtain ⟨c, w, hc, hst, -⟩ := release_eq_some h
    exact (hnone hc (by simp [hst, CallStage.holdsPermit])).elim
  | shutdown =>
    cases h
    exact ⟨hcl, hr⟩
  | enter j =>
    obtain ⟨-, rfl⟩ := enter_eq_some h
    exact ⟨hcl, hr⟩
  | drain j =>
    obtain ⟨p, -, hp, rfl⟩ := drain_eq_some h
    exact ⟨WorkerPool.drain_closed hp, hr⟩
  | flush j =>
    obtain ⟨-, rfl⟩ := flush_eq_some h
    exact ⟨hcl, hr⟩
  | wake j =>
    obtain ⟨o, -, -, rfl⟩ := wake_eq_some h
    exact ⟨hcl, hr⟩

/-- Once the pool is closed, every call made afterwards, in every continuation, is still
waiting or was refused with `Closed`, and has no answer. -/
theorem refused_after_closed {n : Nat} {mkdirs : MakeDirs} {s t : ServerState}
    {evs : List ServerEvent} (hb : s.Balanced n) (hn : n < Nat.pow 2 32)
    (hcl : s.pool.permits.closed = true) (h : run mkdirs s evs = some t) :
    t.RefusedFrom s.calls.length := by
  have hstart : s.RefusedFrom s.calls.length := fun i c hi hc => by
    rw [List.getElem?_eq_none hi] at hc
    cases hc
  exact (run_preserves
    (P := fun t => t.Balanced n ∧ t.pool.permits.closed = true ∧ t.RefusedFrom s.calls.length)
    (fun ⟨hb, hcl, hr⟩ hstep => ⟨hb.step hstep, hr.step hb hn hcl hstep⟩) ⟨hb, hcl, hstart⟩
    h).2.2

/-- Every run keeps the output settings. -/
theorem output_run {mkdirs : MakeDirs} {s t : ServerState} {evs : List ServerEvent}
    (h : run mkdirs s evs = some t) : t.server.output = s.server.output :=
  run_preserves (P := fun t => t.server.output = s.server.output)
    (fun hs hstep => ((step_server hstep).1).trans hs) rfl h

end ServerState

/-! ## The shutdown law -/

/-- A table written is the one of the registry, which has profiling on. -/
theorem ProfilingRegistry.flush_ok_some {r : ProfilingRegistry} {out : OutputSettings}
    {mkdirs : MakeDirs} {rows : List (List String)}
    (h : (r.flush out mkdirs).mapError ServerError.flush = .ok (some rows)) :
    r.enabled = true ∧ rows = r.rows := by
  unfold ProfilingRegistry.flush at h
  split at h
  · simp [Except.mapError] at h
  · rename_i hon
    cases hm : mkdirs (joinPath out.outputDir out.buildId) with
    | some reason => simp [hm, Except.mapError] at h
    | none =>
      simp only [hm, Except.mapError, Except.ok.injEq, Option.some.injEq] at h
      exact ⟨by simpa using hon, h.symm⟩

/-- Every recorded entry has its line in the table. -/
theorem ProfilingRegistry.row_mem_rows {r : ProfilingRegistry} {e : ProfilingEntry}
    (h : e ∈ r.shards.flatten) : Profiling.row e ∈ r.rows :=
  List.mem_cons_of_mem _ (List.mem_map_of_mem (List.mem_mergeSort.2 h))

/-- A call that holds no permit is waiting for one or is over. -/
theorem CallStage.waiting_or_done {st : CallStage} (h : st.holdsPermit = false) :
    st = .waiting ∨ st = .done := by
  cases st <;> simp_all [CallStage.holdsPermit]

namespace ServerState

/-- Over every interleaving of route calls and shutdown calls on a warm pool of `n` workers that
`new` made and `warmAll` warmed, with a registry that has a shard for each worker, and fewer
workers than `2^32`, so that draining waits for them:

- the profiling table is written at most once, and once as soon as a shutdown call has
  answered; every shutdown call that answered gave that one outcome;
- once the table is written, no route call is in flight any more, and the table is that of the
  registry as it is, so nothing is recorded after it;
- every route call that returned was served by a worker and returns the worker's answer, route
  errors wrapped as `PoolError.route`, or was refused with `Closed` (status `Unavailable`)
  having recorded nothing;
- the entry of every answered request has its line in the table written, and the registry
  holds nothing but what it started with and the entries of answered requests;
- once a shutdown call has answered, every route call made afterwards, in every continuation,
  is refused with `Closed` and records nothing, or is still waiting. -/
theorem shutdown_flushes_once {n : Nat} {f : EngineFactory} {ids : IdRegistry}
    {prof : ProfilingRegistry} {cold warm : WorkerPool}
    (hnew : WorkerPool.new n f ids prof = .ok cold) (hwarm : cold.warmAll = (.ok (), warm))
    (hshards : n ≤ prof.shards.length) (hn : n < Nat.pow 2 32) (out : OutputSettings)
    (mkdirs : MakeDirs) (evs : List ServerEvent) {s : ServerState}
    (hrun : run mkdirs (start { pool := warm, output := out }) evs = some s) :
    evs.countP ServerEvent.isFlush ≤ 1 ∧
    (∀ a, ShutdownStage.returned a ∈ s.shutdowns → evs.countP ServerEvent.isFlush = 1 ∧
      ∃ o, s.server.outcome = some o ∧ a = RoutingServer.shutdownAnswer o) ∧
    (∀ o, s.server.outcome = some o →
      o = (s.pool.profiling.flush out mkdirs).mapError ServerError.flush ∧
      ∀ c ∈ s.calls, c.stage = .waiting ∨ c.stage = .done) ∧
    (∀ c ∈ s.calls, ∀ r, c.result = some r →
      (∃ w a, c.servedBy = some w ∧ w < n ∧ c.answer = some a ∧
        r = (a.map Prod.fst).mapError .route) ∨
      (r = .error .closed ∧ c.answer = none)) ∧
    (∀ rows, s.server.outcome = some (.ok (some rows)) → ∀ c ∈ s.calls, ∀ resp e,
      c.answer = some (.ok (resp, e)) → Profiling.row e ∈ rows) ∧
    (∀ e ∈ s.pool.profiling.shards.flatten,
      e ∈ prof.shards.flatten ∨ ∃ c ∈ s.calls, ∃ resp, c.answer = some (.ok (resp, e))) ∧
    (∀ a, ShutdownStage.returned a ∈ s.shutdowns → ∀ evs' t, run mkdirs s evs' = some t →
      ∀ i c, s.calls.length ≤ i → t.calls[i]? = some c → c.answer = none ∧
        (c.stage = .waiting ∧ c.result = none ∨
          c.stage = .done ∧ c.result = some (.error .closed))) := by
  have hb₀ := Balanced.start hnew hwarm out
  have ho₀ : (start { pool := warm, output := out }).OnceCell mkdirs :=
    OnceCell.start hnew hwarm out
  have hb := hb₀.run hrun
  have hs := (Served.start hnew hwarm out).run hb₀ hrun
  have ho := ho₀.run hb₀ hn hrun
  have houtput : s.server.output = out := output_run hrun
  -- the cell starts empty, so it is filled once for every flush
  have hflushes : evs.countP ServerEvent.isFlush = s.server.outcome.isSome.toNat := by
    simpa [ServerState.start] using flushes_run hn hb₀ ho₀ hrun
  -- a filled cell means a closed pool, where no call holds a permit
  have hclosed : ∀ o, s.server.outcome = some o → s.pool.permits.closed = true :=
    fun o hout => ho.closed_iff.2 (.inr (by simp [hout]))
  -- the entry of an answer names the worker that served it, one of the `n`
  have hentry : ∀ c ∈ s.calls, ∀ resp e, c.answer = some (.ok (resp, e)) →
      e.workerId < prof.shards.length := by
    intro c hc resp e he
    have hsc := hs.sound c hc
    obtain ⟨w, hw⟩ := hsc.served_of_answer _ he
    have hlt := hsc.served_lt w hw
    rw [hsc.entry_worker w resp e hw he]
    have := hb.size_eq
    omega
  refine ⟨?once, ?answers, ?last, ?returned, ?table, hs.only_served, ?refused⟩
  case once =>
    rw [hflushes]
    exact Bool.toNat_le _
  case answers =>
    intro a ha
    obtain ⟨o, hout, rfl⟩ := ho.answered a ha
    exact ⟨by simp [hflushes, hout], o, hout, rfl⟩
  case last =>
    intro o hout
    refine ⟨houtput ▸ ho.outcome_eq o hout, fun c hc => ?_⟩
    have hnone := (hb.closed_permits (hclosed o hout) hn).2
    exact CallStage.waiting_or_done (countP_eq_zero_of_mem hnone hc)
  case returned =>
    intro c hc r hr
    rcases (hs.sound c hc).returned r hr with ⟨w, a, hw, ha, rfl⟩ | ⟨rfl, -, ha⟩
    · exact .inl ⟨w, a, hw, hb.size_eq ▸ (hs.sound c hc).served_lt w hw, ha, rfl⟩
    · exact .inr ⟨rfl, ha⟩
  case table =>
    intro rows hout c hc resp e he
    obtain ⟨hon, rfl⟩ := ProfilingRegistry.flush_ok_some (ho.outcome_eq _ hout).symm
    exact ProfilingRegistry.row_mem_rows
      (hs.recorded c hc resp e he (hs.enabled_eq ▸ hon) (hentry c hc resp e he))
  case refused =>
    intro a ha evs' t ht
    obtain ⟨o, hout, -⟩ := ho.answered a ha
    exact refused_after_closed hb hn (hclosed o hout) ht

/-- A route call, a shutdown call and a late route call on a pool of two workers over one link:
the first call is answered and leaves its entry, the shutdown call drains the pool and writes the
table, and the late call, asking for a permit only then, is refused. -/
theorem shutdown_flushes_once_late_call :
    let f : EngineFactory := { materialize := fun _ => .ok .oneLink, params := .default }
    let cold : WorkerPool :=
      { size := 2, factory := f, ids := .empty, profiling := .create 2 true, phase := .cold,
        idle := [], permits := .new 2 }
    let warm : WorkerPool :=
      { cold with phase := .warm [.new 0 .oneLink .default .empty, .new 1 .oneLink .default .empty],
                  idle := [0, 1] }
    let out : OutputSettings := ⟨"profiling", "unknown"⟩
    let mkdirs : MakeDirs := fun _ => none
    let evs : List ServerEvent :=
      [.call .withinLink, .acquire 0, .pop 0, .send 0, .serve 0, .push 0, .release 0, .shutdown,
       .enter 0, .drain 0, .flush 0, .call .withinLink, .acquire 1]
    WorkerPool.new 2 f .empty (.create 2 true) = .ok cold ∧ cold.warmAll = (.ok (), warm) ∧
      2 ≤ (ProfilingRegistry.create 2 true).shards.length ∧ 2 < Nat.pow 2 32 ∧
      (run mkdirs (start { pool := warm, output := out }) evs).map
        (fun s => (s.calls.map fun c => c.result.map Except.toBool, s.pool.profiling.len,
          s.server.outcome.map fun o => o.toOption.map Option.isSome)) =
        some ([some true, some false], 1, some (some true)) ∧
      match run mkdirs (start { pool := warm, output := out }) evs with
      | some s =>
        evs.countP ServerEvent.isFlush ≤ 1 ∧
        (∀ a, ShutdownStage.returned a ∈ s.shutdowns → evs.countP ServerEvent.isFlush = 1 ∧
          ∃ o, s.server.outcome = some o ∧ a = RoutingServer.shutdownAnswer o) ∧
        (∀ o, s.server.outcome = some o →
          o = (s.pool.profiling.flush out mkdirs).mapError ServerError.flush ∧
          ∀ c ∈ s.calls, c.stage = .waiting ∨ c.stage = .done) ∧
        (∀ c ∈ s.calls, ∀ r, c.result = some r →
          (∃ w a, c.servedBy = some w ∧ w < 2 ∧ c.answer = some a ∧
            r = (a.map Prod.fst).mapError .route) ∨
          (r = .error .closed ∧ c.answer = none)) ∧
        (∀ rows, s.server.outcome = some (.ok (some rows)) → ∀ c ∈ s.calls, ∀ resp e,
          c.answer = some (.ok (resp, e)) → Profiling.row e ∈ rows) ∧
        (∀ e ∈ s.pool.profiling.shards.flatten,
          e ∈ (ProfilingRegistry.create 2 true).shards.flatten ∨
          ∃ c ∈ s.calls, ∃ resp, c.answer = some (.ok (resp, e))) ∧
        (∀ a, ShutdownStage.returned a ∈ s.shutdowns → ∀ evs' t, run mkdirs s evs' = some t →
          ∀ i c, s.calls.length ≤ i → t.calls[i]? = some c → c.answer = none ∧
            (c.stage = .waiting ∧ c.result = none ∨
              c.stage = .done ∧ c.result = some (.error .closed)))
      | none => False := by
  intro f cold warm out mkdirs evs
  have hnew : WorkerPool.new 2 f .empty (.create 2 true) = .ok cold := rfl
  have hwarm : cold.warmAll = (.ok (), warm) := rfl
  have hshards : 2 ≤ (ProfilingRegistry.create 2 true).shards.length := by decide
  have hn : 2 < Nat.pow 2 32 := by decide
  have hran : (run mkdirs (start { pool := warm, output := out }) evs).map
      (fun s => (s.calls.map fun c => c.result.map Except.toBool, s.pool.profiling.len,
        s.server.outcome.map fun o => o.toOption.map Option.isSome)) =
      some ([some true, some false], 1, some (some true)) := by
    decide +kernel
  refine ⟨hnew, hwarm, hshards, hn, hran, ?_⟩
  split
  · next s hs => exact shutdown_flushes_once hnew hwarm hshards hn out mkdirs evs hs
  · next hs => simp [hs] at hran

end ServerState

end TransitRouting
