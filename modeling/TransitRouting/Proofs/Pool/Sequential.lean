import Mathlib
import TransitRouting.Proofs.Pool.Shutdown

/-!
# Route calls one at a time

A client that makes each route call only once the one before is over, its worker and its permit
back, sees the pool as a single worker: worker 0 serves every call, each call returns what worker
0's service answers for its request after handling the requests before it, and between calls the
idle stack is back in its first order, worker 0 on top.

Over is more than answered. A worker replies before it gives itself back, so a call made as soon
as the previous one has its answer can find worker 0 still out and take worker 1:
`ServerState.answered_call_leaves_first_worker_out` builds that interleaving on every pool of two
workers or more.

## What this module delivers

- `RouteService.handleEach` and `RouteService.getElem?_handleAll`: the `k`-th answer of a service
  handling requests in order is that of the service after the first `k` requests.
- `ServerState.admits` and `ServerState.oneAtATime`: the discipline of making calls one at a
  time, as a check on a run.
- `ServerState.OneAtATime`: what such runs keep, with its `step` and `run` lemmas.
- `ServerState.one_at_a_time_first_worker`: the law over every such run.
- `ServerState.answered_call_leaves_first_worker_out` and
  `ServerState.returned_calls_leave_first_worker`: the law needs calls to be over, not only
  answered, and no shutdown call between them.
-/

set_option autoImplicit false

namespace TransitRouting

/-! ## A worker handling requests in order -/

namespace RouteService

/-- The service after handling requests one after another. -/
def handleEach (svc : RouteService) (reqs : List Wire.Request) : RouteService :=
  reqs.foldl (fun svc req => (svc.handle req).2) svc

@[simp] theorem handleEach_nil (svc : RouteService) : svc.handleEach [] = svc := rfl

@[simp] theorem handleEach_cons (svc : RouteService) (req : Wire.Request)
    (reqs : List Wire.Request) :
    svc.handleEach (req :: reqs) = (svc.handle req).2.handleEach reqs :=
  rfl

theorem handleEach_concat (svc : RouteService) (reqs : List Wire.Request) (req : Wire.Request) :
    svc.handleEach (reqs ++ [req]) = ((svc.handleEach reqs).handle req).2 := by
  simp [handleEach, List.foldl_append]

@[simp] theorem handleEach_workerId (svc : RouteService) (reqs : List Wire.Request) :
    (svc.handleEach reqs).workerId = svc.workerId := by
  induction reqs generalizing svc with
  | nil => rfl
  | cons req reqs ih => simp [ih]

/-- The `k`-th answer of a service handling requests in order is that of the service after the
first `k` requests. -/
theorem getElem?_handleAll (svc : RouteService) (reqs : List Wire.Request) (k : Nat) :
    (svc.handleAll reqs)[k]? =
      reqs[k]?.map fun req => ((svc.handleEach (reqs.take k)).handle req).1 := by
  induction reqs generalizing svc k with
  | nil => simp [handleAll]
  | cons req reqs ih =>
    cases k with
    | zero => simp [handleAll]
    | succ k => simp [handleAll, ih]

end RouteService

/-- The first service `materializeFrom` builds is that of the first worker. -/
theorem WorkerPool.materializeFrom_succ {f : EngineFactory} {ids : IdRegistry} {start n : Nat}
    {workers : List RouteService} {scenario : Scenario}
    (h : materializeFrom f ids start (n + 1) = .ok workers)
    (hscen : f.materialize start = .ok scenario) :
    ∃ rest, workers = RouteService.new start scenario f.params ids :: rest := by
  simp only [materializeFrom, hscen] at h
  split at h
  · cases h
  · rename_i rest _
    cases h
    exact ⟨rest, rfl⟩

/-! ## Calls made one at a time -/

namespace ServerState

/-- The requests of the calls made, in order. -/
def requests (s : ServerState) : List Wire.Request := s.calls.map RouteCall.request

/-- How many calls have their answer. -/
def answered (s : ServerState) : Nat := s.calls.countP fun c => c.answer.isSome

/-- Whether an event may come next when route calls are made one at a time and no shutdown call
is made: a new call only once every call made is over. -/
def admits (s : ServerState) : ServerEvent → Bool
  | .call _ => s.calls.all fun c => c.stage == .done
  | .acquire _ | .pop _ | .send _ | .serve _ | .push _ | .release _ => true
  | .shutdown | .enter _ | .drain _ | .flush _ | .wake _ => false

/-- Whether the events, run from `s`, make route calls one at a time: every event is admitted
where it comes, and every step can be taken. -/
def oneAtATime (mkdirs : MakeDirs) : ServerState → List ServerEvent → Bool
  | _, [] => true
  | s, e :: es =>
    s.admits e && match s.step mkdirs e with
      | some t => oneAtATime mkdirs t es
      | none => false

@[simp] theorem requests_length (s : ServerState) : s.requests.length = s.calls.length := by
  simp [requests]

/-- Replacing a call by one with the same request keeps the requests. -/
theorem requests_setCall (s : ServerState) {i : Nat} {c c' : RouteCall}
    (hc : s.calls[i]? = some c) (hreq : c'.request = c.request) :
    (s.setCall i c').requests = s.requests := by
  apply List.ext_getElem?
  intro j
  simp only [requests, setCall_calls, List.map_set, List.getElem?_set, List.length_map,
    List.getElem?_map]
  split
  · rename_i hij
    subst hij
    obtain ⟨hi, hci⟩ := List.getElem?_eq_some_iff.1 hc
    simp [hreq, hi, hci]
  · rfl

/-- A list whose element at `i` is its last is its first `i` elements followed by that one. -/
theorem eq_take_concat {α : Type} {l : List α} {i : Nat} {c : α} (hc : l[i]? = some c)
    (hlen : i + 1 = l.length) : l = l.take i ++ [c] := by
  obtain ⟨hi, rfl⟩ := List.getElem?_eq_some_iff.1 hc
  conv_lhs => rw [← List.take_append_drop i l, List.drop_eq_getElem_cons hi]
  rw [List.drop_eq_nil_of_le (by omega)]

/-- What a run of route calls made one at a time keeps, on a pool of `n` workers whose first
worker started with the service `svc`. -/
structure OneAtATime (n : Nat) (svc : RouteService) (s : ServerState) : Prop where
  open_pool : s.pool.permits.closed = false
  /-- Every call but the last is over. -/
  over_before : ∀ (i j : Nat) (ci cj : RouteCall), i < j → s.calls[i]? = some ci →
    s.calls[j]? = some cj → ci.stage = .done
  /-- The worker a call holds is worker 0. -/
  holds_first : ∀ c ∈ s.calls, ∀ w, c.stage.worker? = some w → w = 0
  /-- The idle stack is in its first order, without worker 0 while a call holds it. -/
  idle_eq : s.pool.idle = if s.busy = 0 then List.range n else (List.range n).tail
  /-- A call has its answer exactly once worker 0 has replied to it. -/
  answered_iff : ∀ c ∈ s.calls, c.answer.isSome = !c.stage.unanswered
  /-- A call returns its answer, with route errors wrapped. -/
  result_eq : ∀ c ∈ s.calls, c.result = c.answer.map fun a => (a.map Prod.fst).mapError .route
  /-- The answer to the `k`-th call is worker 0's, after the requests before it. -/
  answers : ∀ (k : Nat) (c : RouteCall) a, s.calls[k]? = some c → c.answer = some a →
    c.servedBy = some 0 ∧ a = ((svc.handleEach (s.requests.take k)).handle c.request).1
  /-- Worker 0 has handled the answered requests in order. -/
  first_worker : ∃ rest,
    s.pool.phase = .warm (svc.handleEach (s.requests.take s.answered) :: rest)

section OneAtATime

variable {n : Nat} {svc : RouteService} {s : ServerState}

/-- A call that is not over is the last one made. -/
theorem OneAtATime.last (ho : s.OneAtATime n svc) {i : Nat} {c : RouteCall}
    (hc : s.calls[i]? = some c) (hnd : c.stage ≠ .done) : i + 1 = s.calls.length := by
  have hi := (List.getElem?_eq_some_iff.1 hc).1
  by_contra hne
  -- a later call would need this one over
  have hnext : s.calls[i + 1]? = some s.calls[i + 1] := List.getElem?_eq_getElem (by omega)
  exact hnd (ho.over_before i (i + 1) c _ (by omega) hc hnext)

/-- Every call before the last one is over. -/
theorem OneAtATime.done_of_mem_take (ho : s.OneAtATime n svc) {i : Nat} {c : RouteCall}
    (hc : s.calls[i]? = some c) {d : RouteCall} (hd : d ∈ s.calls.take i) : d.stage = .done := by
  obtain ⟨j, hj⟩ := List.mem_iff_getElem?.1 hd
  rw [List.getElem?_take] at hj
  split at hj
  · exact ho.over_before j i d c (by assumption) hj hc
  · cases hj

/-- With one call not over, a count over the calls is that over the calls before it and it. -/
theorem OneAtATime.countP_eq (ho : s.OneAtATime n svc) {i : Nat} {c : RouteCall}
    (hc : s.calls[i]? = some c) (hnd : c.stage ≠ .done) (p : RouteCall → Bool) :
    s.calls.countP p = (s.calls.take i).countP p + (p c).toNat := by
  conv_lhs => rw [eq_take_concat hc (ho.last hc hnd)]
  rw [List.countP_append, List.countP_singleton]
  cases p c <;> rfl

/-- With one call not over, only it can hold a worker. -/
theorem OneAtATime.busy_eq (ho : s.OneAtATime n svc) {i : Nat} {c : RouteCall}
    (hc : s.calls[i]? = some c) (hnd : c.stage ≠ .done) :
    s.busy = c.stage.worker?.isSome.toNat := by
  unfold busy
  rw [ho.countP_eq hc hnd, List.countP_eq_zero.2 fun d hd => by
    simp [ho.done_of_mem_take hc hd, CallStage.worker?]]
  simp

/-- With one call not over, the calls before it are answered. -/
theorem OneAtATime.answered_eq (ho : s.OneAtATime n svc) {i : Nat} {c : RouteCall}
    (hc : s.calls[i]? = some c) (hnd : c.stage ≠ .done) :
    s.answered = i + c.answer.isSome.toNat := by
  have hi := (List.getElem?_eq_some_iff.1 hc).1
  unfold answered
  rw [ho.countP_eq hc hnd, List.countP_eq_length.2 fun d hd => ?_]
  · simp
    omega
  · -- a call over has its answer
    have hdone := ho.done_of_mem_take hc hd
    simpa [hdone, CallStage.unanswered] using ho.answered_iff d (List.mem_of_mem_take hd)

/-- A step of the call in hand keeps what one-at-a-time runs keep when the call keeps its request,
holds worker 0 if any, has an answer exactly once replied to and returns it, answers as worker 0
after the requests before it, and the pool stays open with the idle stack and worker 0's service
that the call's new stage leaves. -/
theorem OneAtATime.update (ho : s.OneAtATime n svc) {i : Nat} {c c' : RouteCall} {p : WorkerPool}
    (hc : s.calls[i]? = some c) (hnd : c.stage ≠ .done) (hreq : c'.request = c.request)
    (hclosed : p.permits.closed = false)
    (hworker : ∀ w, c'.stage.worker? = some w → w = 0)
    (hidle : p.idle = if c'.stage.worker?.isSome then (List.range n).tail else List.range n)
    (hanswered : c'.answer.isSome = !c'.stage.unanswered)
    (hresult : c'.result = c'.answer.map fun a => (a.map Prod.fst).mapError .route)
    (hanswer : ∀ a, c'.answer = some a → c'.servedBy = some 0 ∧
      a = ((svc.handleEach (s.requests.take i)).handle c.request).1)
    (hphase : ∃ rest, p.phase =
      .warm (svc.handleEach (s.requests.take (i + c'.answer.isSome.toNat)) :: rest)) :
    ((s.setCall i c').withPool p).OneAtATime n svc := by
  have hlast := ho.last hc hnd
  have hreqs : ((s.setCall i c').withPool p).requests = s.requests :=
    s.requests_setCall hc hreq
  -- the counts move by what the call in hand contributes before and after
  have hbusy := countP_set_add (p := fun c => c.stage.worker?.isSome) (b := c') hc
  have hans := countP_set_add (p := fun c => c.answer.isSome) (b := c') hc
  have hbusy₀ := ho.busy_eq hc hnd
  have hans₀ := ho.answered_eq hc hnd
  simp only [busy, answered] at hbusy₀ hans₀
  refine
    { open_pool := hclosed, over_before := ?_, holds_first := ?_, idle_eq := ?_,
      answered_iff := ?_, result_eq := ?_, answers := ?_, first_worker := ?_ }
  · -- the call in hand is the last one, so an earlier call is an old one
    intro i' j' ci cj hij hi' hj'
    simp only [withPool_calls, setCall_calls] at hi' hj'
    have hj'len : j' < s.calls.length := by simpa using (List.getElem?_eq_some_iff.1 hj').1
    rw [List.getElem?_set_ne (by omega)] at hi'
    exact ho.over_before i' i ci c (by omega) hi' hc
  · intro d hd w hw
    simp only [withPool_calls, setCall_calls] at hd
    rcases List.mem_or_eq_of_mem_set hd with hd | rfl
    · exact ho.holds_first d hd w hw
    · exact hworker w hw
  · have hnew : (s.calls.set i c').countP (fun c => c.stage.worker?.isSome) =
        c'.stage.worker?.isSome.toNat := by omega
    simp only [busy, withPool_calls, setCall_calls, withPool_pool, hnew, hidle]
    cases c'.stage.worker?.isSome <;> rfl
  · intro d hd
    simp only [withPool_calls, setCall_calls] at hd
    rcases List.mem_or_eq_of_mem_set hd with hd | rfl
    · exact ho.answered_iff d hd
    · exact hanswered
  · intro d hd
    simp only [withPool_calls, setCall_calls] at hd
    rcases List.mem_or_eq_of_mem_set hd with hd | rfl
    · exact ho.result_eq d hd
    · exact hresult
  · intro k d a hk ha
    rw [hreqs]
    simp only [withPool_calls, setCall_calls] at hk
    by_cases hik : i = k
    · subst hik
      rw [List.getElem?_set_self (List.getElem?_eq_some_iff.1 hc).1] at hk
      cases hk
      rw [hreq]
      exact hanswer a ha
    · rw [List.getElem?_set_ne hik] at hk
      exact ho.answers k d a hk ha
  · have hnew : (s.calls.set i c').countP (fun c => c.answer.isSome) =
        i + c'.answer.isSome.toNat := by omega
    simpa [answered, hreqs, hnew] using hphase

/-- A step that moves the call in hand on without answering it keeps what one-at-a-time runs
keep, when the new stage holds worker 0 if any and the idle stack is what it leaves. -/
theorem OneAtATime.restage (ho : s.OneAtATime n svc) {i : Nat} {c : RouteCall} {st : CallStage}
    {p : WorkerPool} (hc : s.calls[i]? = some c) (hnd : c.stage ≠ .done)
    (hun : st.unanswered = c.stage.unanswered) (hworker : ∀ w, st.worker? = some w → w = 0)
    (hidle : p.idle = if st.worker?.isSome then (List.range n).tail else List.range n)
    (hphase : p.phase = s.pool.phase) (hclosed : p.permits.closed = false) :
    ((s.setCall i { c with stage := st }).withPool p).OneAtATime n svc := by
  have hmem := List.mem_of_getElem? hc
  refine ho.update hc hnd rfl hclosed hworker hidle ?_ (ho.result_eq c hmem) (ho.answers i c · hc)
    ?_
  · rw [hun]
    exact ho.answered_iff c hmem
  · -- the call keeps its answer, so worker 0 has handled the same requests
    obtain ⟨rest, hrest⟩ := ho.first_worker
    rw [ho.answered_eq hc hnd] at hrest
    exact ⟨rest, hphase.trans hrest⟩

/-- Worker 0 answers the call in hand: the answer is that of its service after the requests
before, and its service moves on by one request. -/
theorem OneAtATime.serve (ho : s.OneAtATime n svc) {i : Nat} {t : ServerState}
    (h : s.serve i = some t) : t.OneAtATime n svc := by
  obtain ⟨c, w, workers, svc', hc, hst, hphase, hsvc, rfl⟩ := serve_eq_some h
  have hmem := List.mem_of_getElem? hc
  obtain rfl : w = 0 := ho.holds_first c hmem w (by simp [hst, CallStage.worker?])
  have hnd : c.stage ≠ .done := by simp [hst]
  have hnone : c.answer.isSome = false := by
    simpa [hst, CallStage.unanswered] using ho.answered_iff c hmem
  -- the calls before are answered and this one is not, so worker 0 has handled exactly them
  obtain ⟨rest, hrest⟩ := ho.first_worker
  rw [ho.answered_eq hc hnd, hnone, hphase] at hrest
  cases hrest
  cases hsvc
  have htake : s.requests.take (i + 1) = s.requests.take i ++ [c.request] := by
    rw [List.take_add_one]
    simp [requests, hc]
  refine ho.update hc hnd rfl (by simp [ho.open_pool]) ?_ ?_ rfl rfl ?_ ?_
  · intro w hw
    simpa [CallStage.worker?] using hw.symm
  · -- the call keeps worker 0, so the idle stack stays without it
    have hbusy := ho.busy_eq hc hnd
    simp only [hst, CallStage.worker?, Option.isSome_some, Bool.toNat_true] at hbusy
    simp [ho.idle_eq, hbusy, CallStage.worker?]
  · intro a ha
    exact ⟨rfl, by simpa using ha.symm⟩
  · exact ⟨rest, by simp [htake, RouteService.handleEach_concat]⟩

/-- A call made once every call before is over keeps what one-at-a-time runs keep. -/
theorem OneAtATime.call (ho : s.OneAtATime n svc) (hdone : ∀ c ∈ s.calls, c.stage = .done)
    (req : Wire.Request) :
    ({ s with calls := s.calls ++ [{ request := req }] } : ServerState).OneAtATime n svc := by
  have hreqs : ({ s with calls := s.calls ++ [{ request := req }] } : ServerState).requests =
      s.requests ++ [req] := by
    simp [requests]
  have hle : s.answered ≤ s.requests.length := by
    simpa [answered] using List.countP_le_length
  refine
    { open_pool := ho.open_pool, over_before := ?_, holds_first := ?_, idle_eq := ?_,
      answered_iff := ?_, result_eq := ?_, answers := ?_, first_worker := ?_ }
  · -- an earlier call is one made before, and those are over
    intro i j ci cj hij hi hj
    have hjlen := (List.getElem?_eq_some_iff.1 hj).1
    simp only [List.length_append, List.length_singleton] at hjlen
    rw [List.getElem?_append_left (by omega)] at hi
    exact hdone ci (List.mem_of_getElem? hi)
  · intro d hd w hw
    rcases List.mem_append.1 hd with hd | hd
    · exact ho.holds_first d hd w hw
    · rw [List.mem_singleton.1 hd] at hw
      cases hw
  · simpa [pool, busy, List.countP_append, CallStage.worker?] using ho.idle_eq
  · intro d hd
    rcases List.mem_append.1 hd with hd | hd
    · exact ho.answered_iff d hd
    · rw [List.mem_singleton.1 hd]
      rfl
  · intro d hd
    rcases List.mem_append.1 hd with hd | hd
    · exact ho.result_eq d hd
    · rw [List.mem_singleton.1 hd]
      rfl
  · intro k d a hk ha
    rw [hreqs]
    rcases getElem?_concat_eq_some hk with hk | ⟨_, rfl⟩
    · have hklen := (List.getElem?_eq_some_iff.1 hk).1
      rw [List.take_append_of_le_length (by simpa using hklen.le)]
      exact ho.answers k d a hk ha
    · cases ha
  · obtain ⟨rest, hrest⟩ := ho.first_worker
    refine ⟨rest, ?_⟩
    have hans : ({ s with calls := s.calls ++ [{ request := req }] } : ServerState).answered =
        s.answered := by
      simp [answered, List.countP_append]
    rw [hans, hreqs, List.take_append_of_le_length hle]
    exact hrest

/-- A pool's first idle order has worker 0 on top. -/
theorem range_eq_zero_cons_tail {n : Nat} (hn : 0 < n) :
    List.range n = 0 :: (List.range n).tail := by
  obtain ⟨m, rfl⟩ : ∃ m, n = m + 1 := ⟨n - 1, by omega⟩
  simp [List.range_succ_eq_map]

/-- Every admitted step keeps what one-at-a-time runs keep. -/
theorem OneAtATime.step (ho : s.OneAtATime n svc) (hn : 0 < n) {mkdirs : MakeDirs}
    {e : ServerEvent} {t : ServerState} (hadm : s.admits e = true)
    (h : s.step mkdirs e = some t) : t.OneAtATime n svc := by
  -- the idle stack while no call holds a worker
  have hquiet : ∀ {i : Nat} {c : RouteCall}, s.calls[i]? = some c → c.stage ≠ .done →
      c.stage.worker? = none →
      s.pool.idle = List.range n := fun hc hnd hw => by
    rw [ho.idle_eq, ho.busy_eq hc hnd, hw]
    rfl
  cases e with
  | call req =>
    cases h
    exact ho.call (by simpa [admits] using hadm) req
  | acquire i =>
    obtain ⟨c, hc, hst, ⟨_, p, hp, rfl⟩ | ⟨_, err, he, rfl⟩ | ⟨hcold, rfl⟩⟩ := acquire_eq_some h
    · obtain ⟨hopen, _, rfl⟩ := WorkerPool.takePermit_ok hp
      have hnd : c.stage ≠ .done := by simp [hst]
      exact ho.restage hc hnd (by simp [hst, CallStage.unanswered])
        (fun w hw => by simp [CallStage.worker?] at hw)
        (by simpa [CallStage.worker?] using hquiet hc hnd (by simp [hst, CallStage.worker?]))
        rfl hopen
    · -- an open pool refuses nobody
      have := (WorkerPool.takePermit_error he).1
      rw [ho.open_pool] at this
      cases this
    · -- the pool is warm
      obtain ⟨rest, hphase⟩ := ho.first_worker
      simp [WorkerPool.isWarm, hphase] at hcold
  | pop i =>
    obtain ⟨c, hc, hst, ⟨w, p, hp, rfl⟩ | ⟨err, he, rfl⟩⟩ := pop_eq_some h
    · obtain ⟨rest, hidle, rfl⟩ := WorkerPool.checkOut_ok hp
      have hnd : c.stage ≠ .done := by simp [hst]
      -- no call holds a worker, so the stack is in its first order, worker 0 on top
      have hfirst := hquiet hc hnd (by simp [hst, CallStage.worker?])
      rw [hidle, range_eq_zero_cons_tail hn] at hfirst
      obtain ⟨rfl, rfl⟩ := List.cons.inj hfirst
      exact ho.restage hc hnd (by simp [hst, CallStage.unanswered])
        (fun w hw => by simpa [CallStage.worker?] using hw.symm) (by simp [CallStage.worker?])
        rfl ho.open_pool
    · -- the stack is never empty while no call holds a worker
      have hempty := WorkerPool.checkOut_error he
      rw [hquiet hc (by simp [hst]) (by simp [hst, CallStage.worker?]),
        range_eq_zero_cons_tail hn] at hempty
      cases hempty
  | send i =>
    obtain ⟨c, w, workers, hc, hst, hphase, ⟨_, rfl⟩ | ⟨hlost, rfl⟩⟩ := send_eq_some h
    · have hnd : c.stage ≠ .done := by simp [hst]
      have hw := ho.holds_first c (List.mem_of_getElem? hc) w (by simp [hst, CallStage.worker?])
      rw [← setCall_withPool_pool]
      refine ho.restage hc hnd (by simp [hst, CallStage.unanswered])
        (fun w' hw' => by simpa [CallStage.worker?, hw] using hw'.symm) ?_ rfl ho.open_pool
      -- the call keeps its worker, so the idle stack stays as it is
      rw [ho.idle_eq, ho.busy_eq hc hnd]
      simp [hst, CallStage.worker?]
    · -- the call holds worker 0, which the pool has
      have hw := ho.holds_first c (List.mem_of_getElem? hc) w (by simp [hst, CallStage.worker?])
      obtain ⟨rest, hrest⟩ := ho.first_worker
      rw [hphase] at hrest
      cases hrest
      simp [hw] at hlost
  | serve i => exact ho.serve h
  | push i =>
    obtain ⟨c, w, hc, hst, rfl⟩ := push_eq_some h
    have hnd : c.stage ≠ .done := by simp [hst]
    obtain rfl := ho.holds_first c (List.mem_of_getElem? hc) w (by simp [hst, CallStage.worker?])
    refine ho.restage hc hnd (by simp [hst, CallStage.unanswered])
      (fun w hw => by simp [CallStage.worker?] at hw) ?_ rfl ho.open_pool
    -- worker 0 goes back on top of the others
    rw [WorkerPool.pushIdle_idle, ho.idle_eq, ho.busy_eq hc hnd,
      if_neg (by simp [hst, CallStage.worker?]), if_neg (by simp [CallStage.worker?])]
    exact (range_eq_zero_cons_tail hn).symm
  | release i =>
    obtain ⟨c, w, hc, hst, rfl⟩ := release_eq_some h
    have hnd : c.stage ≠ .done := by simp [hst]
    exact ho.restage hc hnd (by simp [hst, CallStage.unanswered])
      (fun w hw => by simp [CallStage.worker?] at hw)
      (by simpa [CallStage.worker?] using hquiet hc hnd (by simp [hst, CallStage.worker?]))
      rfl (by simpa [Semaphore.release] using ho.open_pool)
  | shutdown => simp [admits] at hadm
  | enter j => simp [admits] at hadm
  | drain j => simp [admits] at hadm
  | flush j => simp [admits] at hadm
  | wake j => simp [admits] at hadm

/-- Every run that makes calls one at a time keeps what such runs keep. -/
theorem OneAtATime.run (hn : 0 < n) {mkdirs : MakeDirs} :
    ∀ {evs : List ServerEvent} {s t : ServerState}, s.OneAtATime n svc →
      oneAtATime mkdirs s evs = true → ServerState.run mkdirs s evs = some t → t.OneAtATime n svc
  | [], _, _, ho, _, h => by
    cases h
    exact ho
  | e :: es, s, _, ho, hone, h => by
    simp only [oneAtATime, Bool.and_eq_true] at hone
    obtain ⟨hadm, hrest⟩ := hone
    obtain ⟨u, hu, ht⟩ := Option.bind_eq_some_iff.1 h
    rw [hu] at hrest
    exact OneAtATime.run hn (ho.step hn hadm hu) hrest ht

end OneAtATime

/-- Before any call, the first worker has handled nothing and the pool is open. -/
theorem OneAtATime.start {n : Nat} {f : EngineFactory} {ids : IdRegistry}
    {prof : ProfilingRegistry} {cold warm : WorkerPool} {scenario : Scenario}
    (hnew : WorkerPool.new n f ids prof = .ok cold) (hwarm : cold.warmAll = (.ok (), warm))
    (hscen : f.materialize 0 = .ok scenario) (out : OutputSettings) :
    (start { pool := warm, output := out }).OneAtATime n
      (RouteService.new 0 scenario f.params ids) := by
  obtain ⟨hn, _, hidle, hpermits, _, workers, hphase, hworkers⟩ := WorkerPool.warm_facts hnew hwarm
  obtain ⟨m, rfl⟩ : ∃ m, n = m + 1 := ⟨n - 1, by omega⟩
  obtain ⟨rest, rfl⟩ := WorkerPool.materializeFrom_succ hworkers hscen
  exact
    { open_pool := by simp [hpermits, Semaphore.new],
      over_before := fun i j ci cj _ hi => by simp at hi,
      holds_first := fun c hc => by simp at hc,
      idle_eq := by simp [busy, hidle],
      answered_iff := fun c hc => by simp at hc,
      result_eq := fun c hc => by simp at hc,
      answers := fun k c a hk => by simp at hk,
      first_worker := ⟨rest, by simp [hphase, requests]⟩ }

/-- A request error wrapped by the pool has the status of the request error. -/
theorem mapError_route_toStatus {α : Type} (x : Except RouteError α) :
    (x.mapError PoolError.route).mapError PoolError.toStatus = x.mapError RouteError.toStatus := by
  cases x <;> rfl

/-- Over every run on a pool of `n` workers that `new` made and `warmAll` warmed, in which each
route call is made only once the calls before are over and no shutdown call is made: the `k`-th
call returns what the first worker's service, handling the requests in order, answers for the
`k`-th request, route errors wrapped as `PoolError.route` and so answered with the request
error's status; every call that is over has returned; worker 0 serves every call, so every
entry in the registry that it did not start with carries worker id 0; and whenever every call
is over, the idle stack is back to `0, 1, …, n - 1`, worker 0 on top. -/
theorem one_at_a_time_first_worker {n : Nat} {f : EngineFactory} {ids : IdRegistry}
    {prof : ProfilingRegistry} {cold warm : WorkerPool} {scenario : Scenario}
    (hnew : WorkerPool.new n f ids prof = .ok cold) (hwarm : cold.warmAll = (.ok (), warm))
    (hscen : f.materialize 0 = .ok scenario) (out : OutputSettings) (mkdirs : MakeDirs)
    (evs : List ServerEvent) {s : ServerState}
    (hone : oneAtATime mkdirs (start { pool := warm, output := out }) evs = true)
    (hrun : run mkdirs (start { pool := warm, output := out }) evs = some s) :
    (∀ (k : Nat) (c : RouteCall) r, s.calls[k]? = some c → c.result = some r → ∃ a,
      ((RouteService.new 0 scenario f.params ids).handleAll s.requests)[k]? = some a ∧
      c.answer = some a ∧ c.servedBy = some 0 ∧ r = (a.map Prod.fst).mapError .route ∧
      r.mapError PoolError.toStatus = (a.map Prod.fst).mapError RouteError.toStatus) ∧
    (∀ c ∈ s.calls, c.stage = .done → c.result.isSome) ∧
    (∀ c ∈ s.calls, ∀ resp e, c.answer = some (.ok (resp, e)) → e.workerId = 0) ∧
    (∀ e ∈ s.pool.profiling.shards.flatten, e ∈ prof.shards.flatten ∨ e.workerId = 0) ∧
    ((∀ c ∈ s.calls, c.stage = .done) → s.pool.idle = List.range n) := by
  have hn : 0 < n := Nat.pos_of_ne_zero (WorkerPool.warm_facts hnew hwarm).1
  have ho := (OneAtATime.start hnew hwarm hscen out).run hn hone hrun
  have hs := (Served.start hnew hwarm out).run (Balanced.start hnew hwarm out) hrun
  -- every answer is the first worker's, whose service keeps its id 0
  have hentry : ∀ c ∈ s.calls, ∀ resp e, c.answer = some (.ok (resp, e)) → e.workerId = 0 := by
    intro c hc resp e he
    obtain ⟨k, hk⟩ := List.mem_iff_getElem?.1 hc
    obtain ⟨-, ha⟩ := ho.answers k c _ hk he
    rw [RouteService.handle_entry_workerId ha.symm]
    simp [RouteService.new]
  refine ⟨?results, ?finished, hentry, ?registry, ?idle⟩
  case results =>
    intro k c r hk hr
    have hc := List.mem_of_getElem? hk
    rw [ho.result_eq c hc] at hr
    obtain ⟨a, ha, rfl⟩ := Option.map_eq_some_iff.1 hr
    obtain ⟨hserved, rfl⟩ := ho.answers k c a hk ha
    refine ⟨_, ?_, ha, hserved, rfl, mapError_route_toStatus _⟩
    simp [RouteService.getElem?_handleAll, requests, hk]
  case finished =>
    intro c hc hdone
    have := ho.answered_iff c hc
    rw [ho.result_eq c hc]
    simpa [hdone, CallStage.unanswered] using this
  case registry =>
    intro e he
    rcases hs.only_served e he with he | ⟨c, hc, resp, hce⟩
    · exact .inl he
    · exact .inr (hentry c hc resp e hce)
  case idle =>
    intro hdone
    -- no call holds a worker
    have hbusy : s.busy = 0 := List.countP_eq_zero.2 fun c hc => by
      simp [hdone c hc, CallStage.worker?]
    rw [ho.idle_eq, if_pos hbusy]

/-- Two calls, one after the other, on a pool of two workers over one link: worker 0 serves both,
each is answered and leaves an entry of worker 0, and the idle stack is back to `0, 1`. -/
theorem one_at_a_time_two_calls :
    let f : EngineFactory := { materialize := fun _ => .ok .oneLink, params := .default }
    let cold : WorkerPool :=
      { size := 2, factory := f, ids := .empty, profiling := .create 2 true, phase := .cold,
        idle := [], permits := .new 2 }
    let warm : WorkerPool :=
      { cold with phase := .warm [.new 0 .oneLink .default .empty, .new 1 .oneLink .default .empty],
                  idle := [0, 1] }
    let out : OutputSettings := ⟨"profiling", "unknown"⟩
    let mkdirs : MakeDirs := fun _ => none
    let evs : List ServerEvent :=
      [.call .withinLink, .acquire 0, .pop 0, .send 0, .serve 0, .push 0, .release 0,
       .call .withinLink, .acquire 1, .pop 1, .send 1, .serve 1, .push 1, .release 1]
    WorkerPool.new 2 f .empty (.create 2 true) = .ok cold ∧ cold.warmAll = (.ok (), warm) ∧
      f.materialize 0 = .ok .oneLink ∧ oneAtATime mkdirs (start { pool := warm, output := out }) evs ∧
      (run mkdirs (start { pool := warm, output := out }) evs).map
        (fun s => (s.calls.map fun c => c.result.map Except.toBool,
          s.pool.profiling.shards.flatten.map ProfilingEntry.workerId)) =
        some ([some true, some true], [0, 0]) ∧
      match run mkdirs (start { pool := warm, output := out }) evs with
      | some s =>
        (∀ (k : Nat) (c : RouteCall) r, s.calls[k]? = some c → c.result = some r → ∃ a,
          ((RouteService.new 0 .oneLink f.params .empty).handleAll s.requests)[k]? = some a ∧
          c.answer = some a ∧ c.servedBy = some 0 ∧ r = (a.map Prod.fst).mapError .route ∧
          r.mapError PoolError.toStatus = (a.map Prod.fst).mapError RouteError.toStatus) ∧
        (∀ c ∈ s.calls, c.stage = .done → c.result.isSome) ∧
        (∀ c ∈ s.calls, ∀ resp e, c.answer = some (.ok (resp, e)) → e.workerId = 0) ∧
        (∀ e ∈ s.pool.profiling.shards.flatten,
          e ∈ (ProfilingRegistry.create 2 true).shards.flatten ∨ e.workerId = 0) ∧
        ((∀ c ∈ s.calls, c.stage = .done) → s.pool.idle = List.range 2)
      | none => False := by
  intro f cold warm out mkdirs evs
  have hnew : WorkerPool.new 2 f .empty (.create 2 true) = .ok cold := rfl
  have hwarm : cold.warmAll = (.ok (), warm) := rfl
  have hone : oneAtATime mkdirs (start { pool := warm, output := out }) evs = true := by
    decide +kernel
  have hran : (run mkdirs (start { pool := warm, output := out }) evs).map
      (fun s => (s.calls.map fun c => c.result.map Except.toBool,
        s.pool.profiling.shards.flatten.map ProfilingEntry.workerId)) =
      some ([some true, some true], [0, 0]) := by
    decide +kernel
  refine ⟨hnew, hwarm, rfl, hone, hran, ?_⟩
  split
  · next s hs => exact one_at_a_time_first_worker hnew hwarm rfl out mkdirs evs hone hs
  · next hs => simp [hs] at hran

/-- Being answered is not being over. On a warm pool of two workers or more, a call made as soon as
the first call has its answer, while worker 0 is still on its way back, takes worker 1. -/
theorem answered_call_leaves_first_worker_out {n : Nat} {f : EngineFactory} {ids : IdRegistry}
    {prof : ProfilingRegistry} {cold warm : WorkerPool}
    (hnew : WorkerPool.new n f ids prof = .ok cold) (hwarm : cold.warmAll = (.ok (), warm))
    (hn : 2 ≤ n) (out : OutputSettings) (mkdirs : MakeDirs) (r₀ r₁ : Wire.Request) :
    ∃ u t, run mkdirs (start { pool := warm, output := out })
        [.call r₀, .acquire 0, .pop 0, .send 0, .serve 0] = some u ∧
      (∃ c, u.calls = [c] ∧ c.result.isSome ∧ c.stage = .replied 0) ∧
      run mkdirs u [.call r₁, .acquire 1, .pop 1] = some t ∧
      ∃ c, t.calls[1]? = some c ∧ c.stage = .checkedOut 1 := by
  obtain ⟨_, _, hidle, hpermits, _, workers, hphase, hworkers⟩ := WorkerPool.warm_facts hnew hwarm
  have hlen := WorkerPool.materializeFrom_length hworkers
  obtain ⟨m, rfl⟩ : ∃ m, n = m + 2 := ⟨n - 2, by omega⟩
  obtain ⟨w₀, w₁, rest, rfl⟩ : ∃ w₀ w₁ rest, workers = w₀ :: w₁ :: rest := by
    match workers, hlen with
    | w₀ :: w₁ :: rest, _ => exact ⟨w₀, w₁, rest, rfl⟩
  -- run both calls step by step: the stack starts `0, 1, …`, and there are permits for both
  simp [run, step, acquire, pop, send, serve, setCall, withPool, pool, start, WorkerPool.isWarm,
    WorkerPool.takePermit, Semaphore.acquire, WorkerPool.checkOut, hidle, hpermits, hphase,
    Semaphore.new, List.range_succ_eq_map]

/-- Returning is not enough, on a pool of two workers over one link. A call made as soon as the
first call has returned, worker 0 not yet back, is served by worker 1 and leaves an entry of
worker 1. A call made once a shutdown call has answered is refused, where worker 0's service
answers it. -/
theorem returned_calls_leave_first_worker :
    let f : EngineFactory := { materialize := fun _ => .ok .oneLink, params := .default }
    let warm : WorkerPool :=
      { size := 2, factory := f, ids := .empty, profiling := .create 2 true,
        phase := .warm [.new 0 .oneLink .default .empty, .new 1 .oneLink .default .empty],
        idle := [0, 1], permits := .new 2 }
    let out : OutputSettings := ⟨"profiling", "unknown"⟩
    let mkdirs : MakeDirs := fun _ => none
    let first : List ServerEvent := [.call .withinLink, .acquire 0, .pop 0, .send 0, .serve 0]
    (run mkdirs (start { pool := warm, output := out }) first).map
        (fun u => u.calls.map fun c => c.result.map Except.toBool) = some [some true] ∧
      (run mkdirs (start { pool := warm, output := out })
          (first ++ [.call .withinLink, .acquire 1, .pop 1, .send 1, .serve 1])).map
        (fun t => (t.calls.map RouteCall.servedBy,
          t.pool.profiling.shards.flatten.map ProfilingEntry.workerId)) =
        some ([some 0, some 1], [0, 1]) ∧
      (run mkdirs (start { pool := warm, output := out })
          (first ++ [.push 0, .release 0, .shutdown, .enter 0, .drain 0, .flush 0,
            .call .withinLink, .acquire 1])).map
        (fun t => t.calls.map fun c => c.result.map Except.toBool) =
        some [some true, some false] ∧
      ((RouteService.new 0 .oneLink .default .empty).handleAll
        [.withinLink, .withinLink]).map Except.toBool = [true, true] := by
  refine ⟨?returned, ?second, ?refused, ?handled⟩
  case returned => decide +kernel
  case second => decide +kernel
  case refused => decide +kernel
  case handled => decide +kernel

end ServerState

end TransitRouting
