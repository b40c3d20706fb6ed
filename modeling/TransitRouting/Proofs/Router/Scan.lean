import TransitRouting.Proofs.Router.PlanShape
import TransitRouting.Proofs.Number.Doubles

/-!
# The router keeps the first best ride

`bestRide` scans every line, route, boarding position and later alighting position in order, and
at each boarding position it weighs only the first vehicle it can catch there. Read as a list,
the rides it weighs are `rideCandidates`, in strictly increasing `Ride.key`
(`rideCandidates_sorted`), and `bestRide` is the running best of `keepBetter` over that list
(`bestRide_eq_foldl`).

Where every ride weighed has an arrival and a walking time that are not NaN, `Ride.betterThan`
is the lexicographic order of the pair (arrival, walking) (`Ride.betterThan_iff`), a strict weak
order. The running best is then the first ride of least rank (`ScanBest`, `foldl_keepBetter`): no
ride weighed is better, and every ride as good comes no earlier in the scan.
-/

set_option autoImplicit false

namespace TransitRouting

open Binary64

/-! ## The rides the router weighs -/

/-- The ride from a boarding to an alighting position of a route, on the vehicle that left the
first stop at `vd`, with its access and egress walks. -/
def candidateRide (li ri board alight vd : Nat) (route : TransitRoute) (acc eg : Float) : Ride :=
  { line := li, route := ri, board, alight, vehicleDeparture := vd,
    arrival := Float.ofNat vd +
      Float.ofNat ((route.stops[alight]?).map (·.arrivalOffset) |>.getD 0) + eg,
    walked := acc + eg }

/-- The rides weighed from one boarding position: none without an access walk or a vehicle to
catch there; else one for each later position with an egress walk, on the first vehicle that
can be caught. -/
def boardCandidates (access egress : Array (Option Float)) (departure : Float) (li ri : Nat)
    (route : TransitRoute) (board : Nat) : List Ride :=
  match walkAt access route.stopIndices board with
  | none => []
  | some acc =>
    match route.nextDeparture (departure + acc -
        Float.ofNat ((route.stops[board]?).map (·.departureOffset) |>.getD 0)) with
    | none => []
    | some vd =>
      ((List.range route.stopIndices.length).filter (board < ·)).filterMap fun alight =>
        (walkAt egress route.stopIndices alight).map (candidateRide li ri board alight vd route acc)

/-- The rides weighed on one route, boarding position by boarding position. -/
def routeCandidates (access egress : Array (Option Float)) (departure : Float) (li ri : Nat)
    (route : TransitRoute) : List Ride :=
  (List.range route.stopIndices.length).flatMap
    (boardCandidates access egress departure li ri route)

/-- The rides weighed over the scenario, line by line and route by route. -/
def rideCandidates (s : Scenario) (access egress : Array (Option Float)) (departure : Float) :
    List Ride :=
  s.lines.zipIdx.flatMap fun (line, li) =>
    line.routes.zipIdx.flatMap fun (route, ri) => routeCandidates access egress departure li ri route

theorem bestOnRoute_eq_foldl (access egress : Array (Option Float)) (departure : Float)
    (li ri : Nat) (route : TransitRoute) (best : Option Ride) :
    bestOnRoute access egress departure li ri route best =
      (routeCandidates access egress departure li ri route).foldl keepBetter best := by
  simp only [bestOnRoute, routeCandidates, List.foldl_flatMap]
  congr 1
  funext best board
  simp only [boardCandidates]
  cases walkAt access route.stopIndices board with
  | none => rfl
  | some acc =>
    dsimp only
    cases route.nextDeparture (departure + acc -
        Float.ofNat ((route.stops[board]?).map (·.departureOffset) |>.getD 0)) with
    | none => rfl
    | some vd =>
      dsimp only
      rw [List.foldl_filterMap]
      congr 1
      funext best alight
      cases walkAt egress route.stopIndices alight <;> rfl

/-- The best ride is the running best over the rides weighed, in scan order. -/
theorem bestRide_eq_foldl (s : Scenario) (access egress : Array (Option Float))
    (departure : Float) :
    bestRide s access egress departure =
      (rideCandidates s access egress departure).foldl keepBetter none := by
  simp only [bestRide, rideCandidates, List.foldl_flatMap, bestOnRoute_eq_foldl]

/-- The rides the router weighs: on a route of the scenario, from a boarding position with an
access walk, on the first vehicle that can be caught there, to a later position with an egress
walk. -/
inductive IsCandidate (s : Scenario) (access egress : Array (Option Float)) (departure : Float) :
    Ride → Prop
  | mk {line : TransitLine} {route : TransitRoute} {acc eg : Float} (li ri board alight vd : Nat)
      (line_eq : s.lines[li]? = some line) (route_eq : line.routes[ri]? = some route)
      (access_eq : walkAt access route.stopIndices board = some acc)
      (catch_eq : route.nextDeparture (departure + acc -
        Float.ofNat ((route.stops[board]?).map (·.departureOffset) |>.getD 0)) = some vd)
      (board_lt : board < alight) (alight_lt : alight < route.stopIndices.length)
      (egress_eq : walkAt egress route.stopIndices alight = some eg) :
      IsCandidate s access egress departure (candidateRide li ri board alight vd route acc eg)

theorem mem_boardCandidates {access egress : Array (Option Float)} {departure : Float}
    {li ri board : Nat} {route : TransitRoute} {c : Ride} :
    c ∈ boardCandidates access egress departure li ri route board ↔
      ∃ acc vd alight eg, walkAt access route.stopIndices board = some acc ∧
        route.nextDeparture (departure + acc -
          Float.ofNat ((route.stops[board]?).map (·.departureOffset) |>.getD 0)) = some vd ∧
        board < alight ∧ alight < route.stopIndices.length ∧
        walkAt egress route.stopIndices alight = some eg ∧
        c = candidateRide li ri board alight vd route acc eg := by
  constructor
  · intro hc
    simp only [boardCandidates] at hc
    split at hc
    · simp at hc
    · rename_i acc hacc
      split at hc
      · simp at hc
      · rename_i vd hvd
        simp only [List.mem_filterMap, List.mem_filter, List.mem_range, decide_eq_true_eq,
          Option.map_eq_some_iff] at hc
        obtain ⟨alight, ⟨hlt, hba⟩, eg, heg, rfl⟩ := hc
        exact ⟨acc, vd, alight, eg, hacc, hvd, hba, hlt, heg, rfl⟩
  · rintro ⟨acc, vd, alight, eg, hacc, hvd, hba, hlt, heg, rfl⟩
    simp only [boardCandidates, hacc, hvd, List.mem_filterMap, List.mem_filter, List.mem_range,
      decide_eq_true_eq, Option.map_eq_some_iff]
    exact ⟨alight, ⟨hlt, hba⟩, eg, heg, rfl⟩

theorem mem_rideCandidates {s : Scenario} {access egress : Array (Option Float)}
    {departure : Float} {c : Ride} :
    c ∈ rideCandidates s access egress departure ↔ IsCandidate s access egress departure c := by
  simp only [rideCandidates, routeCandidates, List.mem_flatMap, List.mem_range,
    mem_boardCandidates, List.mem_zipIdx_iff_getElem?, Prod.exists]
  constructor
  · rintro ⟨line, li, hline, route, ri, hroute, board, -, acc, vd, alight, eg, hacc, hvd, hba,
      hlt, heg, rfl⟩
    exact .mk li ri board alight vd hline hroute hacc hvd hba hlt heg
  · rintro ⟨li, ri, board, alight, vd, hline, hroute, hacc, hvd, hba, hlt, heg⟩
    exact ⟨_, li, hline, _, ri, hroute, board, by omega, _, vd, alight, _, hacc, hvd, hba, hlt,
      heg, rfl⟩

theorem boardCandidates_place {access egress : Array (Option Float)} {departure : Float}
    {li ri board : Nat} {route : TransitRoute} {c : Ride}
    (hc : c ∈ boardCandidates access egress departure li ri route board) :
    c.line = li ∧ c.route = ri ∧ c.board = board := by
  obtain ⟨_, _, _, _, -, -, -, -, -, rfl⟩ := mem_boardCandidates.1 hc
  exact ⟨rfl, rfl, rfl⟩

theorem routeCandidates_place {access egress : Array (Option Float)} {departure : Float}
    {li ri : Nat} {route : TransitRoute} {c : Ride}
    (hc : c ∈ routeCandidates access egress departure li ri route) : c.line = li ∧ c.route = ri := by
  obtain ⟨_, -, hc⟩ := List.mem_flatMap.1 hc
  obtain ⟨hl, hr, -⟩ := boardCandidates_place hc
  exact ⟨hl, hr⟩

/-! ## The scan order -/

/-- Where a ride comes in the scan: by line, then route, boarding and alighting position. -/
def Ride.key (r : Ride) : ℕ ×ₗ ℕ ×ₗ ℕ ×ₗ ℕ :=
  toLex (r.line, toLex (r.route, toLex (r.board, r.alight)))

theorem Ride.key_lt_iff {a b : Ride} :
    a.key < b.key ↔ a.line < b.line ∨ a.line = b.line ∧ (a.route < b.route ∨
      a.route = b.route ∧ (a.board < b.board ∨ a.board = b.board ∧ a.alight < b.alight)) := by
  simp only [Ride.key, Prod.Lex.toLex_lt_toLex]

theorem boardCandidates_sorted (access egress : Array (Option Float)) (departure : Float)
    (li ri : Nat) (route : TransitRoute) (board : Nat) :
    (boardCandidates access egress departure li ri route board).Pairwise
      (fun a b => a.key < b.key) := by
  simp only [boardCandidates]
  cases walkAt access route.stopIndices board with
  | none => exact .nil
  | some acc =>
    dsimp only
    cases route.nextDeparture (departure + acc -
        Float.ofNat ((route.stops[board]?).map (·.departureOffset) |>.getD 0)) with
    | none => exact .nil
    | some vd =>
      dsimp only
      -- the rides of one boarding position differ only in the alighting position
      refine List.pairwise_filterMap.2 ((List.pairwise_lt_range.filter _).imp ?_)
      intro a a' haa' _ hb _ hb'
      simp only [Option.map_eq_some_iff] at hb hb'
      obtain ⟨_, -, rfl⟩ := hb
      obtain ⟨_, -, rfl⟩ := hb'
      exact Ride.key_lt_iff.2 (.inr ⟨rfl, .inr ⟨rfl, .inr ⟨rfl, haa'⟩⟩⟩)

theorem routeCandidates_sorted (access egress : Array (Option Float)) (departure : Float)
    (li ri : Nat) (route : TransitRoute) :
    (routeCandidates access egress departure li ri route).Pairwise (fun a b => a.key < b.key) := by
  refine List.pairwise_flatMap.2 ⟨fun board _ => boardCandidates_sorted .., ?_⟩
  refine List.pairwise_lt_range.imp ?_
  intro b b' hbb' x hx y hy
  obtain ⟨hxl, hxr, rfl⟩ := boardCandidates_place hx
  obtain ⟨hyl, hyr, rfl⟩ := boardCandidates_place hy
  exact Ride.key_lt_iff.2 (.inr ⟨hxl.trans hyl.symm, .inr ⟨hxr.trans hyr.symm, .inl hbb'⟩⟩)

theorem zipIdx_sorted {α : Type} (l : List α) (i : Nat) :
    (l.zipIdx i).Pairwise (fun a b => a.2 < b.2) := by
  induction l generalizing i with
  | nil => exact .nil
  | cons a l ih =>
    rw [List.zipIdx_cons, List.pairwise_cons]
    refine ⟨fun y hy => ?_, ih (i + 1)⟩
    have := (List.mem_zipIdx (x := y.1) (i := y.2) hy).1
    omega

/-- The router weighs its rides in strictly increasing scan order. -/
theorem rideCandidates_sorted (s : Scenario) (access egress : Array (Option Float))
    (departure : Float) :
    (rideCandidates s access egress departure).Pairwise (fun a b => a.key < b.key) := by
  refine List.pairwise_flatMap.2 ⟨fun (line, li) _ => ?_, (zipIdx_sorted _ 0).imp ?_⟩
  · refine List.pairwise_flatMap.2 ⟨fun (route, ri) _ => routeCandidates_sorted .., ?_⟩
    refine (zipIdx_sorted _ 0).imp ?_
    rintro ⟨route, ri⟩ ⟨route', ri'⟩ hri x hx y hy
    obtain ⟨hxl, rfl⟩ := routeCandidates_place hx
    obtain ⟨hyl, rfl⟩ := routeCandidates_place hy
    exact Ride.key_lt_iff.2 (.inr ⟨hxl.trans hyl.symm, .inl hri⟩)
  · rintro ⟨line, li⟩ ⟨line', li'⟩ hli x hx y hy
    obtain ⟨_, -, hx⟩ := List.mem_flatMap.1 hx
    obtain ⟨_, -, hy⟩ := List.mem_flatMap.1 hy
    obtain ⟨rfl, -⟩ := routeCandidates_place hx
    obtain ⟨rfl, -⟩ := routeCandidates_place hy
    exact Ride.key_lt_iff.2 (.inl hli)

/-! ## The order of rides -/

/-- The values of a ride's arrival and walking time, in the order `Ride.betterThan` reads them;
none when one of them is NaN. -/
noncomputable def Ride.rank (r : Ride) : Option (EReal ×ₗ EReal) :=
  (toVal r.arrival).bind fun A => (toVal r.walked).map fun W => toLex (A, W)

theorem Ride.rank_eq_some {r : Ride} {A W : EReal} (hA : toVal r.arrival = some A)
    (hW : toVal r.walked = some W) : r.rank = some (toLex (A, W)) := by
  simp [Ride.rank, hA, hW]

/-- Between rides whose times are not NaN, one beats another when it comes first in the
lexicographic order of arrival and walking time. -/
theorem Ride.betterThan_iff {a b : Ride} {p q : EReal ×ₗ EReal} (ha : a.rank = some p)
    (hb : b.rank = some q) : a.betterThan b = true ↔ p < q := by
  simp only [Ride.rank, Option.bind_eq_some_iff, Option.map_eq_some_iff] at ha hb
  obtain ⟨A, hA, W, hW, rfl⟩ := ha
  obtain ⟨A', hA', W', hW', rfl⟩ := hb
  simp only [Ride.betterThan, Bool.or_eq_true, Bool.and_eq_true, decide_eq_true_eq,
    lt_iff_of_toVal hA hA', beq_iff_of_toVal hA hA', lt_iff_of_toVal hW hW',
    Prod.Lex.toLex_lt_toLex]

section Ranked

variable {a b c : Ride} {p q r : EReal ×ₗ EReal}

theorem Ride.betterThan_irrefl (ha : a.rank = some p) : a.betterThan a = false :=
  Bool.eq_false_iff.2 fun h => lt_irrefl p ((Ride.betterThan_iff ha ha).1 h)

theorem Ride.betterThan_trans (ha : a.rank = some p) (hb : b.rank = some q)
    (hc : c.rank = some r) (hab : a.betterThan b = true) (hbc : b.betterThan c = true) :
    a.betterThan c = true :=
  (Ride.betterThan_iff ha hc).2
    (((Ride.betterThan_iff ha hb).1 hab).trans ((Ride.betterThan_iff hb hc).1 hbc))

/-- A ride that beats another beats, or is beaten by, any third: the order is a strict weak
order. -/
theorem Ride.betterThan_or (ha : a.rank = some p) (hb : b.rank = some q) (hc : c.rank = some r)
    (hac : a.betterThan c = true) : a.betterThan b = true ∨ b.betterThan c = true := by
  rw [Ride.betterThan_iff ha hb, Ride.betterThan_iff hb hc]
  rw [Ride.betterThan_iff ha hc] at hac
  rcases lt_or_ge p q with h | h
  · exact .inl h
  · exact .inr (lt_of_le_of_lt h hac)

end Ranked

/-! ## The running best -/

/-- The running best after weighing the rides `P` in scan order: nothing before any ride; then a
ride of `P` that no ride of `P` beats, and that comes no later than any ride of `P` it does not
beat. -/
structure ScanBest (P : List Ride) (best : Option Ride) : Prop where
  none_iff : best = none ↔ P = []
  spec : ∀ R, best = some R →
    R ∈ P ∧ ∀ c ∈ P, c.betterThan R = false ∧ (R.betterThan c = false → R.key ≤ c.key)

/-- One step of the scan keeps the invariant, for a ride that comes after every ride weighed. -/
theorem ScanBest.keepBetter {P : List Ride} {best : Option Ride} {x : Ride}
    (h : ScanBest P best) (hkey : ∀ c ∈ P, c.key < x.key)
    (hrank : ∀ c ∈ x :: P, ∃ p, c.rank = some p) :
    ScanBest (P ++ [x]) (keepBetter best x) := by
  obtain ⟨px, hx⟩ := hrank x List.mem_cons_self
  cases best with
  | none =>
    obtain rfl := h.none_iff.1 rfl
    refine ⟨by simp [TransitRouting.keepBetter], fun R hR => ?_⟩
    obtain rfl : x = R := by simpa [TransitRouting.keepBetter] using hR
    simp only [List.nil_append, List.mem_singleton, forall_eq, true_and]
    exact ⟨Ride.betterThan_irrefl hx, fun _ => le_rfl⟩
  | some R =>
    obtain ⟨hRP, hR⟩ := h.spec R rfl
    obtain ⟨pR, hpR⟩ := hrank R (List.mem_cons_of_mem _ hRP)
    by_cases hxR : x.betterThan R = true
    · -- the new ride beats the best so far, and so every ride weighed
      have hkeep : TransitRouting.keepBetter (some R) x = some x := by
        simp [TransitRouting.keepBetter, hxR]
      rw [hkeep]
      refine ⟨by simp, fun R' hR' => ?_⟩
      obtain rfl := Option.some.inj hR'
      refine ⟨List.mem_append_right _ (List.mem_singleton_self _), fun c hc => ?_⟩
      rcases List.mem_append.1 hc with hc | hc
      · obtain ⟨pc, hpc⟩ := hrank c (List.mem_cons_of_mem _ hc)
        obtain ⟨hcR, -⟩ := hR c hc
        refine ⟨Bool.eq_false_iff.2 fun hcx => ?_, fun hxc => ?_⟩
        · have := Ride.betterThan_trans hpc hx hpR hcx hxR
          simp [hcR] at this
        · -- not beating `c` while beating `R` would make `c` beat `R`
          rcases Ride.betterThan_or hx hpc hpR hxR with h' | h'
          · simp [hxc] at h'
          · simp [hcR] at h'
      · obtain rfl := List.mem_singleton.1 hc
        exact ⟨Ride.betterThan_irrefl hx, fun _ => le_rfl⟩
    · have hkeep : TransitRouting.keepBetter (some R) x = some R := by
        simp [TransitRouting.keepBetter, hxR]
      rw [hkeep]
      refine ⟨by simp, fun R' hR' => ?_⟩
      obtain rfl := Option.some.inj hR'
      refine ⟨List.mem_append_left _ hRP, fun c hc => ?_⟩
      rcases List.mem_append.1 hc with hc | hc
      · exact hR c hc
      · obtain rfl := List.mem_singleton.1 hc
        exact ⟨Bool.eq_false_iff.2 hxR, fun _ => (hkey R hRP).le⟩

/-- The scan keeps the invariant over any rides in increasing scan order. -/
theorem ScanBest.foldl {P l : List Ride} {best : Option Ride} (h : ScanBest P best)
    (hsorted : (P ++ l).Pairwise (fun a b => a.key < b.key))
    (hrank : ∀ c ∈ P ++ l, ∃ p, c.rank = some p) :
    ScanBest (P ++ l) (l.foldl TransitRouting.keepBetter best) := by
  induction l generalizing P best with
  | nil => simpa using h
  | cons x l ih =>
    have hsplit : P ++ [x] ++ l = P ++ x :: l := by simp
    have hstep : ScanBest (P ++ [x]) (TransitRouting.keepBetter best x) := by
      refine h.keepBetter (fun c hc => ?_) (fun c hc => hrank c ?_)
      · exact (List.pairwise_append.1 hsorted).2.2 c hc x List.mem_cons_self
      · rcases List.mem_cons.1 hc with rfl | hc
        · exact List.mem_append_right _ List.mem_cons_self
        · exact List.mem_append_left _ hc
    rw [List.foldl_cons, ← hsplit]
    exact ih hstep (hsplit ▸ hsorted) (hsplit ▸ hrank)

/-- Over rides in increasing scan order whose times are not NaN, the running best is the first
ride that no ride beats. -/
theorem foldl_keepBetter {l : List Ride} (hsorted : l.Pairwise (fun a b => a.key < b.key))
    (hrank : ∀ c ∈ l, ∃ p, c.rank = some p) : ScanBest l (l.foldl keepBetter none) :=
  ScanBest.foldl (P := []) ⟨by simp, by simp⟩ hsorted hrank

end TransitRouting
