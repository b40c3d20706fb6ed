import Mathlib
import TransitRouting.Pool.Interleaving

/-!
# The pool's bookkeeping under every interleaving

A warm pool of `n` workers keeps two books: the idle stack, and the semaphore's free permits.
Route calls move a worker from the stack into their hands and back, and a permit from the
semaphore into their hands and back, one atomic step at a time. Whatever the interleaving,
the books stay balanced:

* every worker id below `n` is either on the idle stack once or held by exactly one call, and
  no other id appears anywhere;
* while the pool is open, the free permits and the permits held by calls add up to `n`; once
  it is closed, both are zero.

The worker goes back onto the stack before its permit is given back. So the stack always holds
at least as many workers as there are free permits plus calls holding a permit and no worker
yet, and a call that has been granted a permit always finds a worker on the stack.

## What this module delivers

- Inversion lemmas for the steps of a pool and of a route call (`WorkerPool.takePermit_ok`,
  `ServerState.acquire_eq_some`, …).
- `ServerState.Balanced` with `Balanced.start`, `Balanced.step` and `Balanced.run`.
- `ServerState.pool_bookkeeping`: over every interleaving of route and shutdown calls on a warm
  pool, no worker is on the stack twice or both on the stack and in a call's hands, no worker
  is in two calls' hands, the stack covers the free permits and the calls waiting for a worker,
  taking a worker never fails, and at most `n` requests are being handled.
-/

set_option autoImplicit false

namespace TransitRouting

/-! ## Counting over a list with one element replaced -/

/-- Replacing the element at a position changes a count by what the old and the new element
contribute. -/
theorem countP_set_add {α : Type} {p : α → Bool} {l : List α} {i : Nat} {a b : α}
    (h : l[i]? = some a) :
    (l.set i b).countP p + (p a).toNat = l.countP p + (p b).toNat := by
  obtain ⟨hi, ha⟩ := List.getElem?_eq_some_iff.1 h
  -- the old element is counted in the whole list when it passes the test
  have hle : (p a).toNat ≤ l.countP p := by
    cases hpa : p a with
    | false => simp
    | true => exact List.countP_pos_iff.2 ⟨a, List.mem_of_getElem? h, hpa⟩
  rw [List.countP_set hi, ha]
  cases hpa : p a <;> cases p b <;>
    simp only [hpa, Bool.toNat_true, Bool.toNat_false, ite_true, ite_false, Bool.false_eq_true]
      at hle ⊢ <;> omega

/-- A count is zero exactly when no element passes the test. -/
theorem countP_eq_zero_of_mem {α : Type} {p : α → Bool} {l : List α} (h : l.countP p = 0)
    {a : α} (ha : a ∈ l) : p a = false := by
  cases hpa : p a with
  | false => rfl
  | true =>
    have := List.countP_pos_iff.2 ⟨a, ha, hpa⟩
    omega

/-- Two tests that never both hold, and both imply a third, count no more than the third. -/
theorem countP_add_countP_le {α : Type} {p q r : α → Bool} (hpq : ∀ a, p a = true → q a = false)
    (hp : ∀ a, p a = true → r a = true) (hq : ∀ a, q a = true → r a = true) :
    ∀ l : List α, l.countP p + l.countP q ≤ l.countP r
  | [] => by simp
  | a :: l => by
    have ih := countP_add_countP_le hpq hp hq l
    simp only [List.countP_cons]
    cases hpa : p a with
    | true => simp [hpq a hpa, hp a hpa]; omega
    | false =>
      cases hqa : q a with
      | true => simp [hq a hqa]; omega
      | false => cases r a <;> simp <;> omega

/-! ## The pool's atomic steps -/

namespace WorkerPool

/-- A permit taken leaves one fewer free, on an open semaphore that had one. -/
theorem takePermit_ok {p q : WorkerPool} (h : p.takePermit = some (.ok q)) :
    p.permits.closed = false ∧ 1 ≤ p.permits.available ∧
      q = { p with permits := { p.permits with available := p.permits.available - 1 } } := by
  unfold takePermit Semaphore.acquire at h
  split at h
  · rename_i s hs
    split at hs
    · cases hs
    · rename_i hclosed
      split at hs
      · rename_i hle
        cases hs
        cases h
        exact ⟨by simpa using hclosed, hle, rfl⟩
      · cases hs
  · cases h
  · cases h

/-- Asking a permit is refused only by a closed semaphore, with `Closed`. -/
theorem takePermit_error {p : WorkerPool} {e : PoolError} (h : p.takePermit = some (.error e)) :
    p.permits.closed = true ∧ e = .closed := by
  unfold takePermit Semaphore.acquire at h
  split at h
  · cases h
  · cases h
  · rename_i hs
    cases h
    split at hs
    · exact ⟨by assumption, rfl⟩
    · split at hs <;> cases hs

/-- Taking a worker pops the idle stack. -/
theorem checkOut_ok {p q : WorkerPool} {w : Nat} (h : p.checkOut = .ok (w, q)) :
    ∃ rest, p.idle = w :: rest ∧ q = { p with idle := rest } := by
  unfold checkOut at h
  split at h
  · rename_i worker rest hidle
    cases h
    exact ⟨rest, hidle, rfl⟩
  · cases h

/-- Taking a worker fails only on an empty stack. -/
theorem checkOut_error {p : WorkerPool} {e : PoolError} (h : p.checkOut = .error e) :
    p.idle = [] := by
  unfold checkOut at h
  split at h
  · cases h
  · assumption

/-- Serving a request changes nothing in the pool but the profiling registry, which gets the
entry of a successful answer; the answer and the service after it are the worker's own. -/
theorem serve_eq (p : WorkerPool) (svc : RouteService) (req : Wire.Request) :
    p.serve svc req = ((svc.handle req).1, (svc.handle req).2,
      { p with profiling := match (svc.handle req).1 with
        | .ok (_, entry) => p.profiling.record entry
        | .error _ => p.profiling }) := by
  unfold serve
  split <;> rename_i h <;> rw [h]

@[simp] theorem pushIdle_idle (p : WorkerPool) (w : Nat) : (p.pushIdle w).idle = w :: p.idle := rfl

@[simp] theorem pushIdle_permits (p : WorkerPool) (w : Nat) :
    (p.pushIdle w).permits = p.permits := rfl

@[simp] theorem releasePermit_idle (p : WorkerPool) : p.releasePermit.idle = p.idle := rfl

@[simp] theorem releasePermit_permits (p : WorkerPool) :
    p.releasePermit.permits = p.permits.release 1 := rfl

/-- A drain that goes through either closes a pool with no worker or too many to ask permits
for, or takes every permit of an open pool whose permits are all free and closes it, or finds
the pool closed already. -/
theorem drain_some {p q : WorkerPool} (h : p.drain = some q) :
    ((p.size = 0 ∨ Nat.pow 2 32 ≤ p.size) ∧ q = { p with permits := p.permits.close }) ∨
    (p.permits.closed = false ∧ p.size ≤ p.permits.available ∧ p.size < Nat.pow 2 32 ∧
      q = { p with permits := { available := p.permits.available - p.size, closed := true } }) ∨
    (p.permits.closed = true ∧ q = p) := by
  unfold drain Semaphore.acquire at h
  split at h
  · cases h
    exact .inl ⟨.inl (by assumption), rfl⟩
  split at h
  · cases h
    exact .inl ⟨.inr (by assumption), rfl⟩
  rename_i hlt
  split at h
  · rename_i s hs
    cases h
    split at hs
    · cases hs
    · rename_i hclosed
      split at hs
      · rename_i hle
        cases hs
        exact .inr (.inl ⟨by simpa using hclosed, hle, Nat.lt_of_not_le hlt, rfl⟩)
      · cases hs
  · rename_i hs
    cases h
    split at hs
    · exact .inr (.inr ⟨by assumption, rfl⟩)
    · split at hs <;> cases hs
  · cases h

end WorkerPool

/-! ## Route calls, step by step -/

namespace ServerState

@[simp] theorem setCall_calls (s : ServerState) (i : Nat) (c : RouteCall) :
    (s.setCall i c).calls = s.calls.set i c := rfl

@[simp] theorem setCall_pool (s : ServerState) (i : Nat) (c : RouteCall) :
    (s.setCall i c).pool = s.pool := rfl

@[simp] theorem setCall_shutdowns (s : ServerState) (i : Nat) (c : RouteCall) :
    (s.setCall i c).shutdowns = s.shutdowns := rfl

@[simp] theorem setCall_server_output (s : ServerState) (i : Nat) (c : RouteCall) :
    (s.setCall i c).server.output = s.server.output := rfl

@[simp] theorem setCall_server_outcome (s : ServerState) (i : Nat) (c : RouteCall) :
    (s.setCall i c).server.outcome = s.server.outcome := rfl

@[simp] theorem withPool_calls (s : ServerState) (p : WorkerPool) :
    (s.withPool p).calls = s.calls := rfl

@[simp] theorem withPool_pool (s : ServerState) (p : WorkerPool) : (s.withPool p).pool = p := rfl

@[simp] theorem withPool_shutdowns (s : ServerState) (p : WorkerPool) :
    (s.withPool p).shutdowns = s.shutdowns := rfl

@[simp] theorem withPool_server_output (s : ServerState) (p : WorkerPool) :
    (s.withPool p).server.output = s.server.output := rfl

@[simp] theorem withPool_server_outcome (s : ServerState) (p : WorkerPool) :
    (s.withPool p).server.outcome = s.server.outcome := rfl

@[simp] theorem withOutcome_calls (s : ServerState) (o : FlushOutcome) :
    (s.withOutcome o).calls = s.calls := rfl

@[simp] theorem withOutcome_pool (s : ServerState) (o : FlushOutcome) :
    (s.withOutcome o).pool = s.pool := rfl

@[simp] theorem withOutcome_shutdowns (s : ServerState) (o : FlushOutcome) :
    (s.withOutcome o).shutdowns = s.shutdowns := rfl

@[simp] theorem withOutcome_server_output (s : ServerState) (o : FlushOutcome) :
    (s.withOutcome o).server.output = s.server.output := rfl

@[simp] theorem withOutcome_server_outcome (s : ServerState) (o : FlushOutcome) :
    (s.withOutcome o).server.outcome = some o := rfl

@[simp] theorem setShutdown_calls (s : ServerState) (j : Nat) (st : ShutdownStage) :
    (s.setShutdown j st).calls = s.calls := rfl

@[simp] theorem setShutdown_pool (s : ServerState) (j : Nat) (st : ShutdownStage) :
    (s.setShutdown j st).pool = s.pool := rfl

@[simp] theorem setShutdown_shutdowns (s : ServerState) (j : Nat) (st : ShutdownStage) :
    (s.setShutdown j st).shutdowns = s.shutdowns.set j st := rfl

@[simp] theorem setShutdown_server_output (s : ServerState) (j : Nat) (st : ShutdownStage) :
    (s.setShutdown j st).server.output = s.server.output := rfl

@[simp] theorem setShutdown_server_outcome (s : ServerState) (j : Nat) (st : ShutdownStage) :
    (s.setShutdown j st).server.outcome = s.server.outcome := rfl

variable {s t : ServerState} {i : Nat}

/-- A waiting call either takes a permit of a warm pool, is refused by a closed one, or finds
the pool cold. -/
theorem acquire_eq_some (h : s.acquire i = some t) :
    ∃ c, s.calls[i]? = some c ∧ c.stage = .waiting ∧
      ((s.pool.isWarm = true ∧ ∃ p, s.pool.takePermit = some (.ok p) ∧
          t = (s.setCall i { c with stage := .permitted }).withPool p) ∨
       (s.pool.isWarm = true ∧ ∃ e, s.pool.takePermit = some (.error e) ∧
          t = s.setCall i { c with stage := .done, result := some (.error e) }) ∨
       (s.pool.isWarm = false ∧
          t = s.setCall i { c with stage := .done, result := some (.error .notWarm) })) := by
  unfold acquire at h
  split at h
  · rename_i c hc
    split at h
    · rename_i hst
      refine ⟨c, hc, hst, ?_⟩
      split at h
      · rename_i hwarm
        split at h
        · cases h
        · rename_i e he
          cases h
          exact .inr (.inl ⟨hwarm, e, he, rfl⟩)
        · rename_i p hp
          cases h
          exact .inl ⟨hwarm, p, hp, rfl⟩
      · rename_i hcold
        cases h
        exact .inr (.inr ⟨by simpa using hcold, rfl⟩)
    · cases h
  · cases h

/-- A call with a permit takes the worker on top of the stack, or fails on an empty one. -/
theorem pop_eq_some (h : s.pop i = some t) :
    ∃ c, s.calls[i]? = some c ∧ c.stage = .permitted ∧
      ((∃ w p, s.pool.checkOut = .ok (w, p) ∧
          t = (s.setCall i { c with stage := .checkedOut w }).withPool p) ∨
       (∃ e, s.pool.checkOut = .error e ∧
          t = (s.setCall i { c with stage := .done, result := some (.error e) }).withPool
            s.pool.releasePermit)) := by
  unfold pop at h
  split at h
  · rename_i c hc
    split at h
    · rename_i hst
      refine ⟨c, hc, hst, ?_⟩
      split at h
      · rename_i w p hp
        cases h
        exact .inl ⟨w, p, hp, rfl⟩
      · rename_i e he
        cases h
        exact .inr ⟨e, he, rfl⟩
    · cases h
  · cases h

/-- A call sends its job to a worker the warm pool has, or loses a worker it does not have. -/
theorem send_eq_some (h : s.send i = some t) :
    ∃ c w workers, s.calls[i]? = some c ∧ c.stage = .checkedOut w ∧
      s.pool.phase = .warm workers ∧
      ((w < workers.length ∧ t = s.setCall i { c with stage := .sent w }) ∨
       (workers.length ≤ w ∧
          t = (s.setCall i
            { c with stage := .done, result := some (.error (.workerLost w)) }).withPool
            (s.pool.checkIn w))) := by
  unfold send at h
  split at h
  · rename_i c hc
    split at h
    · rename_i w workers hst hphase
      refine ⟨c, w, workers, hc, hst, hphase, ?_⟩
      split at h
      · rename_i svc hsvc
        cases h
        exact .inl ⟨(List.getElem?_eq_some_iff.1 hsvc).1, rfl⟩
      · rename_i hnone
        cases h
        exact .inr ⟨List.getElem?_eq_none_iff.1 hnone, rfl⟩
    · cases h
  · cases h

/-- A worker answers its call: the call has the answer and the worker's service moves on. -/
theorem serve_eq_some (h : s.serve i = some t) :
    ∃ c w workers svc, s.calls[i]? = some c ∧ c.stage = .sent w ∧
      s.pool.phase = .warm workers ∧ workers[w]? = some svc ∧
      t = (s.setCall i
            { c with stage := .replied w,
                     result := some (((s.pool.serve svc c.request).1.map Prod.fst).mapError .route),
                     servedBy := some w, answer := some (s.pool.serve svc c.request).1 }).withPool
        { (s.pool.serve svc c.request).2.2 with
          phase := .warm (workers.set w (s.pool.serve svc c.request).2.1) } := by
  unfold serve at h
  split at h
  · rename_i c hc
    split at h
    · rename_i w workers hst hphase
      split at h
      · rename_i svc hsvc
        cases h
        exact ⟨c, w, workers, svc, hc, hst, hphase, hsvc, rfl⟩
      · cases h
    · cases h
  · cases h

/-- A worker that replied goes back onto the idle stack. -/
theorem push_eq_some (h : s.push i = some t) :
    ∃ c w, s.calls[i]? = some c ∧ c.stage = .replied w ∧
      t = (s.setCall i { c with stage := .pushed w }).withPool (s.pool.pushIdle w) := by
  unfold push at h
  split at h
  · rename_i c hc
    split at h
    · rename_i w hst
      cases h
      exact ⟨c, w, hc, hst, rfl⟩
    · cases h
  · cases h

/-- A call whose worker is back gives its permit back. -/
theorem release_eq_some (h : s.release i = some t) :
    ∃ c w, s.calls[i]? = some c ∧ c.stage = .pushed w ∧
      t = (s.setCall i { c with stage := .done }).withPool s.pool.releasePermit := by
  unfold release at h
  split at h
  · rename_i c hc
    split at h
    · rename_i w hst
      cases h
      exact ⟨c, w, hc, hst, rfl⟩
    · cases h
  · cases h

/-! ## Shutdown calls, step by step -/

/-- A shutdown call at the once-cell reads it, waits, or starts the initializer. -/
theorem enter_eq_some {j : Nat} (h : s.enter j = some t) :
    s.shutdowns[j]? = some .calling ∧
      t = s.setShutdown j (match s.server.outcome with
        | some o => .returned (RoutingServer.shutdownAnswer o)
        | none => if s.shutdowns.any ShutdownStage.initializes then .awaiting else .draining) := by
  unfold enter at h
  split at h
  · cases h
    exact ⟨by assumption, rfl⟩
  · cases h

/-- The initializer drains the pool and goes on to write the table. -/
theorem drain_eq_some {j : Nat} (h : s.drain j = some t) :
    ∃ p, s.shutdowns[j]? = some .draining ∧ s.pool.drain = some p ∧
      t = (s.withPool p).setShutdown j .flushing := by
  unfold drain at h
  split at h
  · rename_i hj
    obtain ⟨p, hp, rfl⟩ := Option.map_eq_some_iff.1 h
    exact ⟨p, hj, hp, rfl⟩
  · cases h

/-- The initializer writes the table of the registry as it is, fills the cell with the outcome,
and answers with it. -/
theorem flush_eq_some {mkdirs : MakeDirs} {j : Nat} (h : s.flush mkdirs j = some t) :
    s.shutdowns[j]? = some .flushing ∧
      t = (s.withOutcome ((s.pool.profiling.flush s.server.output mkdirs).mapError
            ServerError.flush)).setShutdown j (.returned (RoutingServer.shutdownAnswer
              ((s.pool.profiling.flush s.server.output mkdirs).mapError ServerError.flush))) := by
  unfold flush at h
  split at h
  · cases h
    exact ⟨by assumption, rfl⟩
  · cases h

/-- A waiting shutdown call reads the filled cell. -/
theorem wake_eq_some {j : Nat} (h : s.wake j = some t) :
    ∃ o, s.shutdowns[j]? = some .awaiting ∧ s.server.outcome = some o ∧
      t = s.setShutdown j (.returned (RoutingServer.shutdownAnswer o)) := by
  unfold wake at h
  split at h
  · rename_i hj
    obtain ⟨o, ho, rfl⟩ := Option.map_eq_some_iff.1 h
    exact ⟨o, hj, ho, rfl⟩
  · cases h

/-- A property that every step keeps holds after every run. -/
theorem run_preserves {mkdirs : MakeDirs} {P : ServerState → Prop}
    (hstep : ∀ {s t : ServerState} {e : ServerEvent}, P s → s.step mkdirs e = some t → P t) :
    ∀ {evs : List ServerEvent} {s t : ServerState}, P s → run mkdirs s evs = some t → P t
  | [], _, _, hs, h => by
    cases h
    exact hs
  | e :: es, _, _, hs, h => by
    obtain ⟨u, hu, ht⟩ := Option.bind_eq_some_iff.1 h
    exact run_preserves hstep (hstep hs hu) ht

@[simp] theorem start_calls (server : RoutingServer) : (start server).calls = [] := rfl

@[simp] theorem start_pool (server : RoutingServer) : (start server).pool = server.pool := rfl

@[simp] theorem start_shutdowns (server : RoutingServer) : (start server).shutdowns = [] := rfl

@[simp] theorem setCall_withPool_pool (s : ServerState) (i : Nat) (c : RouteCall) :
    (s.setCall i c).withPool s.pool = s.setCall i c := rfl

end ServerState

/-! ## A warm pool -/

namespace WorkerPool

/-- Materializing `n` workers gives `n` services. -/
theorem materializeFrom_length {f : EngineFactory} {ids : IdRegistry} :
    ∀ {start n : Nat} {workers : List RouteService},
      materializeFrom f ids start n = .ok workers → workers.length = n
  | _, 0, _, h => by
    cases h
    rfl
  | start, n + 1, workers, h => by
    simp only [materializeFrom] at h
    split at h
    · cases h
    · split at h
      · cases h
      · rename_i rest hrest
        cases h
        simp [materializeFrom_length hrest]

/-- A pool that `new` made and `warmAll` warmed: `n` workers, all idle with worker 0 on top,
all permits free, the registry it was given, and the services the factory built. -/
theorem warm_facts {n : Nat} {f : EngineFactory} {ids : IdRegistry} {prof : ProfilingRegistry}
    {cold warm : WorkerPool} (hnew : WorkerPool.new n f ids prof = .ok cold)
    (hwarm : cold.warmAll = (.ok (), warm)) :
    n ≠ 0 ∧ warm.size = n ∧ warm.idle = List.range n ∧ warm.permits = Semaphore.new n ∧
      warm.profiling = prof ∧
      ∃ workers, warm.phase = .warm workers ∧ materializeFrom f ids 0 n = .ok workers := by
  unfold WorkerPool.new at hnew
  split at hnew
  · cases hnew
  · rename_i hn
    cases hnew
    unfold warmAll at hwarm
    simp only at hwarm
    split at hwarm
    · cases hwarm
    · rename_i workers hworkers
      cases hwarm
      exact ⟨hn, rfl, by simp, rfl, rfl, workers, rfl, hworkers⟩

end WorkerPool

/-! ## The books

Three counts over the route calls: the calls holding a given worker, the calls holding any
worker, and the calls holding a permit. The books balance when each worker is on the stack or
in one call's hands, and each permit is free or in one call's hands. -/

/-- Whether a call's job is with its worker. -/
def CallStage.withWorker : CallStage → Bool
  | .sent _ => true
  | _ => false

namespace ServerState

/-- How many route calls hold worker `w`. -/
def holding (s : ServerState) (w : Nat) : Nat := s.calls.countP fun c => c.stage.worker? == some w

/-- How many route calls hold some worker. -/
def busy (s : ServerState) : Nat := s.calls.countP fun c => c.stage.worker?.isSome

/-- How many route calls hold a permit. -/
def permitHolders (s : ServerState) : Nat := s.calls.countP fun c => c.stage.holdsPermit

/-- How many route calls hold a permit and no worker yet. -/
def awaitingWorker (s : ServerState) : Nat := s.calls.countP fun c => c.stage == .permitted

/-- How many requests are with a worker, being handled. -/
def handling (s : ServerState) : Nat := s.calls.countP fun c => c.stage.withWorker

@[simp] theorem holding_withPool (s : ServerState) (p : WorkerPool) (w : Nat) :
    (s.withPool p).holding w = s.holding w := rfl

@[simp] theorem busy_withPool (s : ServerState) (p : WorkerPool) :
    (s.withPool p).busy = s.busy := rfl

@[simp] theorem permitHolders_withPool (s : ServerState) (p : WorkerPool) :
    (s.withPool p).permitHolders = s.permitHolders := rfl

/-- The books of a warm pool of `n` workers balance. -/
structure Balanced (n : Nat) (s : ServerState) : Prop where
  size_eq : s.pool.size = n
  warm : ∃ workers, s.pool.phase = .warm workers ∧ workers.length = n
  /-- Every worker below `n` is on the stack once or in one call's hands; no other id is
  anywhere. -/
  once : ∀ w, s.pool.idle.count w + s.holding w = if w < n then 1 else 0
  /-- The idle workers and the held ones are all the workers. -/
  idle_length : s.pool.idle.length + s.busy = n
  /-- In an open pool every permit is free or held; so too in a pool too large to be drained,
  which was closed with its permits where they were. -/
  open_permits : s.pool.permits.closed = false ∨ Nat.pow 2 32 ≤ n →
    s.pool.permits.available + s.permitHolders = n
  /-- A closed pool that could be drained has no permit free and none held. -/
  closed_permits : s.pool.permits.closed = true → n < Nat.pow 2 32 →
    s.pool.permits.available = 0 ∧ s.permitHolders = 0
  /-- No call has failed for want of an idle worker. -/
  no_idle_failure : ∀ c ∈ s.calls, c.result ≠ some (.error .noIdleWorker)

/-! ### What balanced books give -/

section Consequences

variable {n : Nat} {s : ServerState}

/-- A worker on the idle stack is in no call's hands. -/
theorem Balanced.holding_eq_zero (hb : s.Balanced n) {w : Nat} (hw : w ∈ s.pool.idle) :
    s.holding w = 0 := by
  have hone := hb.once w
  have hpos := List.count_pos_iff.2 hw
  split at hone <;> omega

/-- No worker is in two calls' hands. -/
theorem Balanced.holding_le_one (hb : s.Balanced n) (w : Nat) : s.holding w ≤ 1 := by
  have hone := hb.once w
  split at hone <;> omega

/-- No worker is on the idle stack twice. -/
theorem Balanced.idle_nodup (hb : s.Balanced n) : s.pool.idle.Nodup := by
  rw [List.nodup_iff_count_le_one]
  intro w
  have hone := hb.once w
  split at hone <;> omega

/-- Every permit is free or held, or the pool is drained and none is. -/
theorem Balanced.permits_cases (hb : s.Balanced n) :
    s.pool.permits.available + s.permitHolders = n ∨
      s.pool.permits.available = 0 ∧ s.permitHolders = 0 := by
  by_cases hsum : s.pool.permits.closed = false ∨ Nat.pow 2 32 ≤ n
  · exact .inl (hb.open_permits hsum)
  · obtain ⟨hcl, hn⟩ := not_or.1 hsum
    exact .inr (hb.closed_permits (by simpa using hcl) (Nat.lt_of_not_le hn))

/-- A worker in a call's hands is one of the pool's. -/
theorem Balanced.lt_of_worker (hb : s.Balanced n) {c : RouteCall} (hc : c ∈ s.calls) {w : Nat}
    (hw : c.stage.worker? = some w) : w < n := by
  have hpos : 0 < s.holding w := List.countP_pos_iff.2 ⟨c, hc, by simp [hw]⟩
  have hone := hb.once w
  split at hone
  · assumption
  · omega

/-- The idle stack holds at least the free permits and one worker for every call that holds a
permit and no worker: the worker always goes back before its permit. -/
theorem Balanced.available_add_awaiting_le (hb : s.Balanced n) :
    s.pool.permits.available + s.awaitingWorker ≤ s.pool.idle.length := by
  -- a call holding a permit holds no worker yet, or holds one, or has pushed it back
  have hsplit : s.awaitingWorker + s.busy ≤ s.permitHolders :=
    countP_add_countP_le
      (fun c h => by
        have : c.stage = .permitted := by simpa using h
        simp [this, CallStage.worker?])
      (fun c h => by
        have : c.stage = .permitted := by simpa using h
        simp [this, CallStage.holdsPermit])
      (fun c h => by
        cases hst : c.stage <;> simp_all [CallStage.worker?, CallStage.holdsPermit])
      s.calls
  have hlen := hb.idle_length
  rcases hb.permits_cases with hsum | ⟨h0, h1⟩ <;> omega

/-- A call that holds a permit finds a worker on the idle stack. -/
theorem Balanced.checkOut_ok (hb : s.Balanced n) {c : RouteCall} (hc : c ∈ s.calls)
    (hst : c.stage = .permitted) : ∃ w p, s.pool.checkOut = .ok (w, p) := by
  have hpos : 0 < s.awaitingWorker := List.countP_pos_iff.2 ⟨c, hc, by simp [hst]⟩
  have hle := hb.available_add_awaiting_le
  cases hidle : s.pool.idle with
  | nil =>
    rw [hidle] at hle
    simp at hle
    omega
  | cons w rest => exact ⟨w, { s.pool with idle := rest }, by simp [WorkerPool.checkOut, hidle]⟩

/-- At most `n` requests are with a worker at once. -/
theorem Balanced.handling_le (hb : s.Balanced n) : s.handling ≤ n := by
  have hle : s.handling ≤ s.busy := List.countP_mono_left fun c _ h => by
    cases hst : c.stage <;> simp_all [CallStage.withWorker, CallStage.worker?]
  have := hb.idle_length
  omega

end Consequences

/-! ### Every step keeps the books -/

section Steps

variable {n : Nat} {s : ServerState}

/-- A route call's step keeps the books when what the call gives up the pool takes, worker by
worker and permit by permit, and the pool is otherwise the same warm pool. -/
theorem Balanced.update (hb : s.Balanced n) {i : Nat} {c c' : RouteCall} {p : WorkerPool}
    (hc : s.calls[i]? = some c) (hsize : p.size = s.pool.size)
    (hphase : ∃ workers, p.phase = .warm workers ∧ workers.length = n)
    (hidle : ∀ w, p.idle.count w + (c'.stage.worker? == some w).toNat =
      s.pool.idle.count w + (c.stage.worker? == some w).toNat)
    (hlen : p.idle.length + c'.stage.worker?.isSome.toNat =
      s.pool.idle.length + c.stage.worker?.isSome.toNat)
    (hclosed : p.permits.closed = s.pool.permits.closed)
    (havail : p.permits.available + c'.stage.holdsPermit.toNat =
      s.pool.permits.available + c.stage.holdsPermit.toNat)
    (hres : c'.result ≠ some (.error .noIdleWorker)) :
    ((s.setCall i c').withPool p).Balanced n where
  size_eq := by simpa [hsize] using hb.size_eq
  warm := by simpa using hphase
  once w := by
    have hset := countP_set_add (p := fun c => c.stage.worker? == some w) (b := c') hc
    have := hidle w
    have := hb.once w
    simp only [holding, withPool_pool, withPool_calls, setCall_calls] at *
    omega
  idle_length := by
    have hset := countP_set_add (p := fun c => c.stage.worker?.isSome) (b := c') hc
    have := hb.idle_length
    simp only [busy, withPool_pool, withPool_calls, setCall_calls] at *
    omega
  open_permits hcl := by
    have hset := countP_set_add (p := fun c => c.stage.holdsPermit) (b := c') hc
    have := hb.open_permits (by simpa [hclosed] using hcl)
    simp only [permitHolders, withPool_pool, withPool_calls, setCall_calls] at *
    omega
  closed_permits hcl hn := by
    have hset := countP_set_add (p := fun c => c.stage.holdsPermit) (b := c') hc
    obtain ⟨h0, h1⟩ := hb.closed_permits (by simpa [hclosed] using hcl) hn
    -- in a closed pool the call held no permit, so it holds none after the step
    have hfree : c.stage.holdsPermit = false :=
      countP_eq_zero_of_mem h1 (List.mem_of_getElem? hc)
    rw [hfree] at havail hset
    simp only [permitHolders, withPool_pool, withPool_calls, setCall_calls,
      Bool.toNat_false] at *
    omega
  no_idle_failure d hd := by
    simp only [withPool_calls, setCall_calls] at hd
    rcases List.mem_or_eq_of_mem_set hd with hd | rfl
    · exact hb.no_idle_failure d hd
    · exact hres

/-- A new call, waiting for a permit, changes no count. -/
theorem Balanced.call (hb : s.Balanced n) (req : Wire.Request) :
    ({ s with calls := s.calls ++ [{ request := req }] } : ServerState).Balanced n where
  size_eq := hb.size_eq
  warm := hb.warm
  once w := by simpa [pool, holding, List.countP_append, CallStage.worker?] using hb.once w
  idle_length := by
    simpa [pool, busy, List.countP_append, CallStage.worker?] using hb.idle_length
  open_permits hcl := by
    simpa [pool, permitHolders, List.countP_append, CallStage.holdsPermit] using
      hb.open_permits hcl
  closed_permits hcl hn := by
    simpa [pool, permitHolders, List.countP_append, CallStage.holdsPermit] using
      hb.closed_permits hcl hn
  no_idle_failure d hd := by
    rcases List.mem_append.1 hd with hd | hd
    · exact hb.no_idle_failure d hd
    · simp at hd
      simp [hd]

/-- A step that leaves the calls and the pool alone keeps the books. -/
theorem Balanced.of_eq (hb : s.Balanced n) {t : ServerState} (hcalls : t.calls = s.calls)
    (hpool : t.pool = s.pool) : t.Balanced n where
  size_eq := hpool ▸ hb.size_eq
  warm := hpool ▸ hb.warm
  once := by simpa [holding, hcalls, hpool] using hb.once
  idle_length := by simpa [busy, hcalls, hpool] using hb.idle_length
  open_permits := by simpa [permitHolders, hcalls, hpool] using hb.open_permits
  closed_permits := by simpa [permitHolders, hcalls, hpool] using hb.closed_permits
  no_idle_failure := hcalls ▸ hb.no_idle_failure

/-- Replacing the semaphore keeps the books when its permits still add up. -/
theorem Balanced.withPermits (hb : s.Balanced n) (sem : Semaphore)
    (hopen : sem.closed = false ∨ Nat.pow 2 32 ≤ n → sem.available + s.permitHolders = n)
    (hclosed : sem.closed = true → n < Nat.pow 2 32 → sem.available = 0 ∧ s.permitHolders = 0) :
    (s.withPool { s.pool with permits := sem }).Balanced n where
  size_eq := hb.size_eq
  warm := hb.warm
  once := hb.once
  idle_length := hb.idle_length
  open_permits := hopen
  closed_permits := hclosed
  no_idle_failure := hb.no_idle_failure

/-- Draining keeps the books, whether it takes every permit of an idle pool or closes the pool
at once. -/
theorem Balanced.drained (hb : s.Balanced n) {p : WorkerPool} (hp : s.pool.drain = some p) :
    (s.withPool p).Balanced n := by
  have hsize := hb.size_eq
  rcases WorkerPool.drain_some hp with ⟨hnone | hbig, rfl⟩ | ⟨hopen, hle, hlt, rfl⟩ | ⟨_, rfl⟩
  · -- no worker: nothing was free or held
    have hzero : s.pool.permits.available = 0 ∧ s.permitHolders = 0 := by
      rcases hb.permits_cases with h | h <;> omega
    exact hb.withPermits _ (fun _ => by simp only [Semaphore.close]; omega) fun _ _ => hzero
  · -- too many workers to ask permits for: closed with every permit where it was
    have hbig' : Nat.pow 2 32 ≤ n := hsize ▸ hbig
    exact hb.withPermits _ (fun _ => hb.open_permits (.inr hbig'))
      fun _ hn => absurd hbig' (Nat.not_le_of_lt hn)
  · -- all `n` permits were free, so none was held
    have hsum := hb.open_permits (.inl hopen)
    refine hb.withPermits _ (fun h => ?_) fun _ _ => by dsimp only; omega
    rcases h with h | h
    · cases h
    · exact absurd h (Nat.not_le_of_lt (hsize ▸ hlt))
  · exact hb.of_eq rfl rfl

/-- A result wrapped as a route error is no missing-worker failure. -/
theorem mapError_route_ne {α : Type} (x : Except RouteError α) :
    some (x.mapError PoolError.route) ≠ some (.error .noIdleWorker) := by
  cases x <;> simp [Except.mapError]

/-! ### What a step can do when the books balance -/

/-- With balanced books the pool is warm, so a waiting call takes a permit or is refused. -/
theorem Balanced.acquire_eq_some (hb : s.Balanced n) {i : Nat} {t : ServerState}
    (h : s.acquire i = some t) :
    ∃ c, s.calls[i]? = some c ∧ c.stage = .waiting ∧
      ((∃ p, s.pool.takePermit = some (.ok p) ∧
          t = (s.setCall i { c with stage := .permitted }).withPool p) ∨
       (∃ e, s.pool.takePermit = some (.error e) ∧
          t = s.setCall i { c with stage := .done, result := some (.error e) })) := by
  obtain ⟨c, hc, hst, ⟨_, p, hp, rfl⟩ | ⟨_, err, he, rfl⟩ | ⟨hcold, rfl⟩⟩ :=
    ServerState.acquire_eq_some h
  · exact ⟨c, hc, hst, .inl ⟨p, hp, rfl⟩⟩
  · exact ⟨c, hc, hst, .inr ⟨err, he, rfl⟩⟩
  · obtain ⟨workers, hphase, _⟩ := hb.warm
    simp [WorkerPool.isWarm, hphase] at hcold

/-- With balanced books a call holding a permit always takes a worker. -/
theorem Balanced.pop_eq_some (hb : s.Balanced n) {i : Nat} {t : ServerState}
    (h : s.pop i = some t) :
    ∃ c w p, s.calls[i]? = some c ∧ c.stage = .permitted ∧ s.pool.checkOut = .ok (w, p) ∧
      t = (s.setCall i { c with stage := .checkedOut w }).withPool p := by
  obtain ⟨c, hc, hst, ⟨w, p, hp, rfl⟩ | ⟨err, he, rfl⟩⟩ := ServerState.pop_eq_some h
  · exact ⟨c, w, p, hc, hst, hp, rfl⟩
  · obtain ⟨w, p, hok⟩ := hb.checkOut_ok (List.mem_of_getElem? hc) hst
    rw [hok] at he
    cases he

/-- With balanced books a call always sends its job to a worker the pool has. -/
theorem Balanced.send_eq_some (hb : s.Balanced n) {i : Nat} {t : ServerState}
    (h : s.send i = some t) :
    ∃ c w workers, s.calls[i]? = some c ∧ c.stage = .checkedOut w ∧
      s.pool.phase = .warm workers ∧ w < workers.length ∧
      t = s.setCall i { c with stage := .sent w } := by
  obtain ⟨c, w, workers, hc, hst, hphase, ⟨hlt, rfl⟩ | ⟨hlost, rfl⟩⟩ := ServerState.send_eq_some h
  · exact ⟨c, w, workers, hc, hst, hphase, hlt, rfl⟩
  · -- the worker a call holds is one the pool has
    have hlt := hb.lt_of_worker (w := w) (List.mem_of_getElem? hc)
      (by simp [hst, CallStage.worker?])
    obtain ⟨workers', hphase', hlen⟩ := hb.warm
    rw [hphase] at hphase'
    cases hphase'
    omega

/-- Every step keeps the books balanced. -/
theorem Balanced.step (hb : s.Balanced n) {mkdirs : MakeDirs} {e : ServerEvent} {t : ServerState}
    (h : s.step mkdirs e = some t) : t.Balanced n := by
  cases e with
  | call req =>
    cases h
    exact hb.call req
  | acquire i =>
    obtain ⟨c, hc, hst, ⟨p, hp, rfl⟩ | ⟨err, he, rfl⟩⟩ := hb.acquire_eq_some h
    · obtain ⟨_, hone, rfl⟩ := WorkerPool.takePermit_ok hp
      refine hb.update hc rfl hb.warm (fun w => by simp [hst, CallStage.worker?])
        (by simp [hst, CallStage.worker?]) rfl ?_ (hb.no_idle_failure c (List.mem_of_getElem? hc))
      simp [hst, CallStage.holdsPermit]
      omega
    · obtain ⟨_, rfl⟩ := WorkerPool.takePermit_error he
      rw [← setCall_withPool_pool]
      exact hb.update hc rfl hb.warm (fun w => by simp [hst, CallStage.worker?])
        (by simp [hst, CallStage.worker?]) rfl (by simp [hst, CallStage.holdsPermit]) (by simp)
  | pop i =>
    obtain ⟨c, w, p, hc, hst, hp, rfl⟩ := hb.pop_eq_some h
    obtain ⟨rest, hidle, rfl⟩ := WorkerPool.checkOut_ok hp
    refine hb.update hc rfl hb.warm (fun w' => ?_) ?_ rfl (by simp [hst, CallStage.holdsPermit])
      (hb.no_idle_failure c (List.mem_of_getElem? hc))
    · -- the worker leaves the top of the stack for the call's hands
      simp only [hidle, List.count_cons, hst, CallStage.worker?]
      by_cases hw : w = w' <;> simp [hw]
    · simp [hidle, hst, CallStage.worker?]
  | send i =>
    obtain ⟨c, w, workers, hc, hst, hphase, _, rfl⟩ := hb.send_eq_some h
    rw [← setCall_withPool_pool]
    exact hb.update hc rfl hb.warm (fun w' => by simp [hst, CallStage.worker?])
      (by simp [hst, CallStage.worker?]) rfl (by simp [hst, CallStage.holdsPermit])
      (hb.no_idle_failure c (List.mem_of_getElem? hc))
  | serve i =>
    obtain ⟨c, w, workers, svc, hc, hst, hphase, hsvc, rfl⟩ := serve_eq_some h
    obtain ⟨workers', hphase', hlen⟩ := hb.warm
    rw [hphase] at hphase'
    cases hphase'
    rw [WorkerPool.serve_eq]
    exact hb.update hc rfl ⟨_, rfl, by simp [hlen]⟩ (fun w' => by simp [hst, CallStage.worker?])
      (by simp [hst, CallStage.worker?]) rfl (by simp [hst, CallStage.holdsPermit])
      (mapError_route_ne _)
  | push i =>
    obtain ⟨c, w, hc, hst, rfl⟩ := push_eq_some h
    refine hb.update hc rfl hb.warm (fun w' => ?_) (by simp [hst, CallStage.worker?]) rfl
      (by simp [hst, CallStage.holdsPermit]) (hb.no_idle_failure c (List.mem_of_getElem? hc))
    -- the worker leaves the call's hands for the top of the stack
    simp only [WorkerPool.pushIdle_idle, List.count_cons, hst, CallStage.worker?]
    by_cases hw : w = w' <;> simp [hw]
  | release i =>
    obtain ⟨c, w, hc, hst, rfl⟩ := release_eq_some h
    exact hb.update hc rfl hb.warm (fun w' => by simp [hst, CallStage.worker?])
      (by simp [hst, CallStage.worker?]) rfl
      (by simp [Semaphore.release, hst, CallStage.holdsPermit])
      (hb.no_idle_failure c (List.mem_of_getElem? hc))
  | shutdown =>
    cases h
    exact hb.of_eq rfl rfl
  | enter j =>
    obtain ⟨_, rfl⟩ := enter_eq_some h
    exact hb.of_eq rfl rfl
  | drain j =>
    obtain ⟨p, _, hp, rfl⟩ := drain_eq_some h
    exact (hb.drained hp).of_eq rfl rfl
  | flush j =>
    obtain ⟨_, rfl⟩ := flush_eq_some h
    exact hb.of_eq rfl rfl
  | wake j =>
    obtain ⟨o, _, _, rfl⟩ := wake_eq_some h
    exact hb.of_eq rfl rfl

/-- Every run keeps the books balanced. -/
theorem Balanced.run (hb : s.Balanced n) {mkdirs : MakeDirs} {evs : List ServerEvent}
    {t : ServerState} (h : ServerState.run mkdirs s evs = some t) : t.Balanced n :=
  run_preserves (fun hs hstep => Balanced.step hs hstep) hb h

end Steps

/-- A warm pool's books balance before any call is made. -/
theorem Balanced.start {n : Nat} {f : EngineFactory} {ids : IdRegistry} {prof : ProfilingRegistry}
    {cold warm : WorkerPool} (hnew : WorkerPool.new n f ids prof = .ok cold)
    (hwarm : cold.warmAll = (.ok (), warm)) (out : OutputSettings) :
    (start { pool := warm, output := out }).Balanced n := by
  obtain ⟨_, hsize, hidle, hpermits, _, workers, hphase, hworkers⟩ :=
    WorkerPool.warm_facts hnew hwarm
  exact
    { size_eq := hsize,
      warm := ⟨workers, hphase, WorkerPool.materializeFrom_length hworkers⟩,
      once := fun w => by simp [holding, hidle, List.count_range],
      idle_length := by simp [busy, hidle],
      open_permits := fun _ => by simp [permitHolders, hpermits, Semaphore.new],
      closed_permits := fun h _ => by simp [hpermits, Semaphore.new] at h,
      no_idle_failure := fun c hc => by simp at hc }

/-- Over every interleaving of route calls and shutdown calls on a pool of `n` workers that
`new` made and `warmAll` warmed: no worker is on the idle stack twice, or both on the stack and
in a call's hands; no worker is in two calls' hands; the stack holds at least the free permits
plus one worker for each call that has a permit and no worker yet; so a call holding a permit
always finds a worker, and no call ever fails for want of one; and at most `n` requests are
being handled at once. -/
theorem pool_bookkeeping {n : Nat} {f : EngineFactory} {ids : IdRegistry}
    {prof : ProfilingRegistry} {cold warm : WorkerPool}
    (hnew : WorkerPool.new n f ids prof = .ok cold) (hwarm : cold.warmAll = (.ok (), warm))
    (out : OutputSettings) (mkdirs : MakeDirs) (evs : List ServerEvent) {s : ServerState}
    (hrun : run mkdirs (start { pool := warm, output := out }) evs = some s) :
    s.pool.idle.Nodup ∧ (∀ w ∈ s.pool.idle, s.holding w = 0) ∧ (∀ w, s.holding w ≤ 1) ∧
      s.pool.permits.available + s.awaitingWorker ≤ s.pool.idle.length ∧
      (∀ c ∈ s.calls, c.stage = .permitted → ∃ w p, s.pool.checkOut = .ok (w, p)) ∧
      (∀ c ∈ s.calls, c.result ≠ some (.error .noIdleWorker)) ∧ s.handling ≤ n := by
  have hb := (Balanced.start hnew hwarm out).run hrun
  exact ⟨hb.idle_nodup, fun w hw => hb.holding_eq_zero hw, hb.holding_le_one,
    hb.available_add_awaiting_le, fun c hc hst => hb.checkOut_ok hc hst, hb.no_idle_failure,
    hb.handling_le⟩

end ServerState

/-- A scenario of one link, `o`, and nothing else: every trip on it is a walk. -/
def Scenario.oneLink : Scenario := ⟨"w", [⟨"o", ⟨0, 0⟩, ⟨1, 0⟩, none⟩], ⟨[("o", 0)]⟩, [], []⟩

/-- A trip from link `o` to itself at time zero. -/
def Wire.Request.withinLink : Wire.Request :=
  { fromLink := some (.id "o"), toLink := some (.id "o"), mode := "pt" }

namespace ServerState

/-- Two calls on a pool of two workers over one link: both take a permit, the second takes
worker 0 and the first worker 1, both are answered and leave their entries, and the books still
balance. -/
theorem pool_bookkeeping_two_callers :
    let f : EngineFactory := { materialize := fun _ => .ok .oneLink, params := .default }
    let cold : WorkerPool :=
      { size := 2, factory := f, ids := .empty, profiling := .create 2 true, phase := .cold,
        idle := [], permits := .new 2 }
    let warm : WorkerPool :=
      { cold with phase := .warm [.new 0 .oneLink .default .empty, .new 1 .oneLink .default .empty],
                  idle := [0, 1] }
    let out : OutputSettings := ⟨"profiling", "unknown"⟩
    let evs : List ServerEvent :=
      [.call .withinLink, .call .withinLink, .acquire 0, .acquire 1, .pop 1, .pop 0, .send 0,
       .send 1, .serve 0, .serve 1]
    WorkerPool.new 2 f .empty (.create 2 true) = .ok cold ∧ cold.warmAll = (.ok (), warm) ∧
      (run (fun _ => none) (start { pool := warm, output := out }) evs).map
        (fun s => (s.calls.map RouteCall.servedBy, s.pool.profiling.len)) =
        some ([some 1, some 0], 2) ∧
      match run (fun _ => none) (start { pool := warm, output := out }) evs with
      | some s =>
        s.pool.idle.Nodup ∧ (∀ w ∈ s.pool.idle, s.holding w = 0) ∧ (∀ w, s.holding w ≤ 1) ∧
        s.pool.permits.available + s.awaitingWorker ≤ s.pool.idle.length ∧
        (∀ c ∈ s.calls, c.stage = .permitted → ∃ w p, s.pool.checkOut = .ok (w, p)) ∧
        (∀ c ∈ s.calls, c.result ≠ some (.error .noIdleWorker)) ∧ s.handling ≤ 2
      | none => False := by
  intro f cold warm out evs
  have hnew : WorkerPool.new 2 f .empty (.create 2 true) = .ok cold := rfl
  have hwarm : cold.warmAll = (.ok (), warm) := rfl
  have hserved : (run (fun _ => none) (start { pool := warm, output := out }) evs).map
      (fun s => (s.calls.map RouteCall.servedBy, s.pool.profiling.len)) =
      some ([some 1, some 0], 2) := by
    decide +kernel
  refine ⟨hnew, hwarm, hserved, ?_⟩
  split
  · next s hs => exact pool_bookkeeping hnew hwarm out _ _ hs
  · next hs => simp [hs] at hserved

end ServerState

end TransitRouting
