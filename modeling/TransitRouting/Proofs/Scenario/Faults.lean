import Mathlib
import TransitRouting.Proofs.Scenario.WellFormed

/-!
# What the scenario check rejects

A scenario file can be wrong in seven ways: two links with one id; a stop on a link that does
not exist; two stops with one id; a route with fewer than two stops; a route stop naming no
stop; offsets that go backwards, an arrival after the departure from the same stop or before the
departure from the previous one; and a headway with no step or with its first time after its
last. `ScenarioFile.faults` lists every fault of a file in the order the check meets them: the
links in order, then the stops in order (its link before its id), then the routes of each line
in order (the number of stops, then each route stop, the stop before its offsets, then the
headway). A repeated id is a fault of its second holder.

The check reports exactly the first of them (`Scenario.ofFile_reports_first_fault`), and a file
has none exactly when it is valid (`ScenarioFile.faults_eq_nil_iff`): link ids and stop ids do
not repeat, every stop is on a link, and every route has two stops or more, each naming a stop,
with offsets that never go backwards and a headway, if any, with a step and in order.

## What this module delivers

- `RouteFault`, `ScenarioFault` and their messages.
- `ScenarioFile.faults` and `ScenarioFile.Valid`.
- `reportFirst`: the outcome of a check that stops at the first fault.
- `Scenario.ofFile_accepts_iff_valid`: a file is accepted exactly when it is valid, and a file
  that is not is refused with the message of its first fault.
-/

set_option autoImplicit false

namespace TransitRouting

/-! ## Faults and their messages -/

/-- A fault of one route. -/
inductive RouteFault
  | tooFewStops
  | unknownStop (stop : String)
  | backwardsOffsets (stop : String)
  | badHeadway
deriving DecidableEq, Repr

/-- What the check says of a route fault, after the route's name. -/
def RouteFault.reason : RouteFault → String
  | .tooFewStops => "needs at least two stops"
  | .unknownStop stop => "unknown stop " ++ stop
  | .backwardsOffsets stop => "offsets at stop " ++ stop ++ " go backwards"
  | .badHeadway => "headway must be positive and ordered"

/-- A fault of a scenario file. -/
inductive ScenarioFault
  | duplicateLink (id : String)
  | unknownLink (stop link : String)
  | duplicateStop (id : String)
  /-- A fault of the route `route` of the line `line`. -/
  | route (line route : String) (fault : RouteFault)
deriving DecidableEq, Repr

/-- The message the check gives for a fault. -/
def ScenarioFault.message : ScenarioFault → String
  | .duplicateLink id => "duplicate link " ++ id
  | .unknownLink stop link => "stop " ++ stop ++ " references unknown link " ++ link
  | .duplicateStop id => "duplicate stop " ++ id
  | .route lineId routeId fault => "route " ++ lineId ++ "/" ++ routeId ++ ": " ++ fault.reason

/-! ## The faults of a file, in the order of the check -/

/-- The faults of a list scanned in order, each item judged with the items before it. -/
def faultsAlong {α : Type} (faultsOf : List α → α → List ScenarioFault) :
    List α → List α → List ScenarioFault
  | _, [] => []
  | before, x :: rest => faultsOf before x ++ faultsAlong faultsOf (before ++ [x]) rest

/-- A link whose id a link before it has. -/
def linkFaults (before : List Link) (l : Link) : List ScenarioFault :=
  if l.id ∈ before.map Link.id then [.duplicateLink l.id] else []

/-- A stop on a link that does not exist, then a stop whose id a stop before it has. -/
def stopFaults (linkIds : List String) (before : List Stop) (st : Stop) : List ScenarioFault :=
  (if st.link ∈ linkIds then [] else [.unknownLink st.id st.link]) ++
    if st.id ∈ before.map Stop.id then [.duplicateStop st.id] else []

/-- The faults of route stops in order, the first reached after a departure at `previous`: a
stop that does not exist, then an arrival after the departure from the same stop or before the
departure from the previous one. -/
def routeStopFaults (stopIds : List String) : Nat → List RouteStop → List RouteFault
  | _, [] => []
  | previous, rs :: rest =>
    ((if rs.stop ∈ stopIds then [] else [.unknownStop rs.stop]) ++
      if previous ≤ rs.arrivalOffset ∧ rs.arrivalOffset ≤ rs.departureOffset then []
      else [.backwardsOffsets rs.stop]) ++
    routeStopFaults stopIds rs.departureOffset rest

/-- A headway with no step or with its first time after its last. -/
def headwayFaults : Option Headway → List RouteFault
  | some h => if 0 < h.every ∧ h.first ≤ h.last then [] else [.badHeadway]
  | none => []

/-- The faults of a route: fewer than two stops, then the faults of its stops from the start,
then those of its headway. -/
def routeFaults (stopIds : List String) (r : TransitRoute) : List RouteFault :=
  (if r.stops.length < 2 then [.tooFewStops] else []) ++ routeStopFaults stopIds 0 r.stops ++
    headwayFaults r.headway

/-- The faults of the routes of some lines, line by line and route by route. -/
def linesFaults (stopIds : List String) (lines : List TransitLine) : List ScenarioFault :=
  lines.flatMap fun line =>
    line.routes.flatMap fun r => (routeFaults stopIds r).map (.route line.id r.id)

/-- Every fault of a scenario file, in the order the check meets them. -/
def ScenarioFile.faults (f : ScenarioFile) : List ScenarioFault :=
  faultsAlong linkFaults [] f.links ++ faultsAlong (stopFaults (f.links.map Link.id)) [] f.stops ++
    linesFaults (f.stops.map Stop.id) f.lines

/-! ## Valid files -/

/-- A valid route: two stops or more, each naming a stop, offsets that never go backwards, and
a headway, if any, with a step and its first time no later than its last. -/
structure TransitRoute.Valid (stopIds : List String) (r : TransitRoute) : Prop where
  two_stops : 2 ≤ r.stops.length
  stops_named : ∀ rs ∈ r.stops, rs.stop ∈ stopIds
  offsets : OffsetsFrom 0 r.stops
  headway : ∀ h, r.headway = some h → 0 < h.every ∧ h.first ≤ h.last

/-- A valid scenario file: link ids and stop ids do not repeat, every stop is on a link, and
every route is valid. -/
structure ScenarioFile.Valid (f : ScenarioFile) : Prop where
  links_nodup : (f.links.map Link.id).Nodup
  stop_links : ∀ st ∈ f.stops, st.link ∈ f.links.map Link.id
  stops_nodup : (f.stops.map Stop.id).Nodup
  routes : ∀ line ∈ f.lines, ∀ r ∈ line.routes, r.Valid (f.stops.map Stop.id)

/-- Items after `before`, each free of faults exactly when it passes `ok` and its key is not
taken before it, have no fault exactly when each passes, their keys do not repeat and none is
taken before. Links (with no condition of their own) and stops (on an existing link) are both
scanned this way. -/
theorem faultsAlong_eq_nil {α : Type} {faultsOf : List α → α → List ScenarioFault}
    {key : α → String} {ok : α → Prop}
    (hfaults : ∀ before x, faultsOf before x = [] ↔ ok x ∧ key x ∉ before.map key) :
    ∀ {before xs : List α}, faultsAlong faultsOf before xs = [] ↔
      (∀ x ∈ xs, ok x) ∧ (xs.map key).Nodup ∧ ∀ x ∈ xs, key x ∉ before.map key
  | _, [] => by simp [faultsAlong]
  | before, x :: rest => by
    have hnew : key x ∉ rest.map key ↔ ∀ y ∈ rest, key y ≠ key x := by simp
    rw [faultsAlong, List.append_eq_nil_iff, faultsAlong_eq_nil hfaults, hfaults, List.map_cons,
      List.nodup_cons, hnew, List.forall_mem_cons, List.forall_mem_cons]
    simp only [List.map_append, List.mem_append, List.map_cons, List.map_nil, List.mem_singleton,
      not_or]
    -- a later item is new after `x` when it is new before `x` and differs from `x`
    constructor
    · rintro ⟨⟨hok, hkey⟩, hoks, hnd, hrest⟩
      exact ⟨⟨hok, hoks⟩, ⟨fun y hy => (hrest y hy).2, hnd⟩, hkey, fun y hy => (hrest y hy).1⟩
    · rintro ⟨⟨hok, hoks⟩, ⟨hne, hnd⟩, hkey, hrest⟩
      exact ⟨⟨hok, hkey⟩, hoks, hnd, fun y hy => ⟨hrest y hy, hne y hy⟩⟩

/-- Route stops have no fault exactly when each names a stop and their offsets never go
backwards. -/
theorem routeStopFaults_eq_nil {stopIds : List String} :
    ∀ {previous : Nat} {stops : List RouteStop}, routeStopFaults stopIds previous stops = [] ↔
      (∀ rs ∈ stops, rs.stop ∈ stopIds) ∧ OffsetsFrom previous stops
  | _, [] => by simp [routeStopFaults, OffsetsFrom]
  | previous, rs :: rest => by
    rw [routeStopFaults, List.append_eq_nil_iff, routeStopFaults_eq_nil]
    simp only [List.append_eq_nil_iff, ite_eq_left_iff, reduceCtorEq, imp_false, not_not,
      List.mem_cons, forall_eq_or_imp, OffsetsFrom]
    tauto

theorem headwayFaults_eq_nil {headway : Option Headway} :
    headwayFaults headway = [] ↔ ∀ h, headway = some h → 0 < h.every ∧ h.first ≤ h.last := by
  cases headway with
  | none => simp [headwayFaults]
  | some h => simp [headwayFaults]

theorem routeFaults_eq_nil {stopIds : List String} {r : TransitRoute} :
    routeFaults stopIds r = [] ↔ r.Valid stopIds := by
  simp only [routeFaults, List.append_eq_nil_iff, routeStopFaults_eq_nil, headwayFaults_eq_nil,
    ite_eq_right_iff, reduceCtorEq, imp_false, not_lt]
  exact ⟨fun ⟨⟨htwo, hnamed, hoff⟩, hhw⟩ => ⟨htwo, hnamed, hoff, hhw⟩,
    fun ⟨htwo, hnamed, hoff, hhw⟩ => ⟨⟨htwo, hnamed, hoff⟩, hhw⟩⟩

/-- A file has no fault exactly when it is valid. -/
theorem ScenarioFile.faults_eq_nil_iff (f : ScenarioFile) : f.faults = [] ↔ f.Valid := by
  have hlinks : ∀ before (l : Link),
      linkFaults before l = [] ↔ True ∧ l.id ∉ before.map Link.id := by
    simp [linkFaults]
  have hstops : ∀ before (st : Stop), stopFaults (f.links.map Link.id) before st = [] ↔
      st.link ∈ f.links.map Link.id ∧ st.id ∉ before.map Stop.id := by
    simp [stopFaults]
  simp only [ScenarioFile.faults, linesFaults, List.append_eq_nil_iff,
    faultsAlong_eq_nil hlinks, faultsAlong_eq_nil hstops, List.flatMap_eq_nil_iff,
    List.map_eq_nil_iff, routeFaults_eq_nil, List.map_nil, List.not_mem_nil, not_false_eq_true,
    implies_true, and_true, true_and]
  exact ⟨fun ⟨⟨hlinks, hstops, hnd⟩, hroutes⟩ => ⟨hlinks, hstops, hnd, hroutes⟩,
    fun ⟨hlinks, hstops, hnd, hroutes⟩ => ⟨⟨hlinks, hstops, hnd⟩, hroutes⟩⟩

/-! ## The check stops at the first fault -/

/-- The outcome of a check that reports the first of the faults it meets, and succeeds when
there is none. -/
def reportFirst {α : Type} (report : α → EngineError) : List α → Except EngineError Unit
  | [] => .ok ()
  | a :: _ => .error (report a)

section Report

variable {α β : Type} (report : α → EngineError)

theorem reportFirst_append (a b : List α) :
    reportFirst report (a ++ b) = (reportFirst report a >>= fun _ => reportFirst report b) := by
  cases a <;> rfl

theorem reportFirst_map {γ : Type} (g : γ → α) (l : List γ) :
    reportFirst report (l.map g) = reportFirst (report ∘ g) l := by
  cases l <;> rfl

/-- A computation that fails as a check reporting its first fault succeeds exactly when there
is no fault, and otherwise fails with the report of the first one. -/
theorem result_of_reportFirst {x : Except EngineError β} {l : List α}
    (h : (fun _ => ()) <$> x = reportFirst report l) :
    ((∃ b, x = .ok b) ↔ l = []) ∧ ∀ a ∈ l.head?, x = .error (report a) := by
  cases x with
  | error e =>
    cases l with
    | nil => cases h
    | cons a rest =>
      cases h
      exact ⟨by simp, fun a' ha' => by cases ha'; rfl⟩
  | ok b =>
    cases l with
    | nil => exact ⟨by simp, fun a ha => by cases ha⟩
    | cons a rest => cases h

/-- Checking every item in order reports the first fault of the first item that has one. -/
theorem map_mapM_eq_reportFirst {γ : Type} {f : γ → Except EngineError β} {faults : γ → List α} :
    ∀ {l : List γ}, (∀ c ∈ l, (fun _ => ()) <$> f c = reportFirst report (faults c)) →
      (fun _ => ()) <$> l.mapM f = reportFirst report (l.flatMap faults)
  | [], _ => rfl
  | c :: rest, h => by
    rw [List.mapM_cons, List.flatMap_cons, reportFirst_append, ← h c List.mem_cons_self]
    cases f c with
    | error e => rfl
    | ok b =>
      rw [← map_mapM_eq_reportFirst fun c hc => h c (List.mem_cons_of_mem _ hc)]
      cases rest.mapM f <;> rfl

/-- A check that feeds what a first check returns to a second one reports the first fault of the
first check, else the first fault of the second one, whatever the first returned. -/
theorem map_bind_eq_reportFirst {γ : Type} {x : Except EngineError β} {g : β → Except EngineError γ}
    {a b : List α} (hx : (fun _ => ()) <$> x = reportFirst report a)
    (hg : ∀ v, x = .ok v → (fun _ => ()) <$> g v = reportFirst report b) :
    (fun _ => ()) <$> (x >>= g) = reportFirst report (a ++ b) := by
  rw [reportFirst_append, ← hx]
  cases x with
  | error e => rfl
  | ok v => exact hg v rfl

end Report

/-- Indexing links onto an index of the links before them reports the first fault of the
links. -/
theorem indexLinks_reportFirst : ∀ {before links : List Link} {index : TextIndex},
    index.IndexesFirst (before.map Link.id) →
      (fun _ => ()) <$> indexLinks index before.length links =
        reportFirst (fun v => .invalidScenario v.message) (faultsAlong linkFaults before links)
  | _, [], _, _ => rfl
  | before, l :: rest, index, hidx => by
    simp only [indexLinks, faultsAlong, linkFaults]
    by_cases hdup : l.id ∈ before.map Link.id
    · rw [if_pos ((hidx.contains_iff l.id).2 hdup), if_pos hdup]
      rfl
    · rw [if_neg (by simpa [hidx.contains_iff l.id] using hdup), if_neg hdup, List.nil_append]
      have hidx' : (index.insert l.id before.length).IndexesFirst ((before ++ [l]).map Link.id) := by
        simpa using hidx.insert hdup
      have h := @indexLinks_reportFirst (before ++ [l]) rest _ hidx'
      rwa [List.length_append, List.length_singleton] at h

/-- Indexing stops onto an index of the stops before them, against an index of the link ids,
reports the first fault of the stops. -/
theorem indexStops_reportFirst {links : TextIndex} {linkIds : List String}
    (hlinks : links.IndexesFirst linkIds) :
    ∀ {before stops : List Stop} {index : TextIndex},
      index.IndexesFirst (before.map Stop.id) →
        (fun _ => ()) <$> indexStops links index before.length stops =
          reportFirst (fun v => .invalidScenario v.message)
            (faultsAlong (stopFaults linkIds) before stops)
  | _, [], _, _ => rfl
  | before, st :: rest, index, hidx => by
    simp only [indexStops, faultsAlong, stopFaults]
    by_cases hlink : st.link ∈ linkIds
    · have hfound : links.contains st.link = true := (hlinks.contains_iff st.link).2 hlink
      by_cases hdup : st.id ∈ before.map Stop.id
      · rw [if_neg (by simp [hfound]), if_pos ((hidx.contains_iff st.id).2 hdup), if_pos hlink,
          if_pos hdup]
        rfl
      · rw [if_neg (by simp [hfound]), if_neg (by simpa [hidx.contains_iff st.id] using hdup),
          if_pos hlink, if_neg hdup, List.nil_append, List.nil_append]
        have hidx' :
            (index.insert st.id before.length).IndexesFirst ((before ++ [st]).map Stop.id) := by
          simpa using hidx.insert hdup
        have h := @indexStops_reportFirst _ _ hlinks (before ++ [st]) rest _ hidx'
        rwa [List.length_append, List.length_singleton] at h
    · -- a stop on a missing link is refused for that first
      have hmissing : links.contains st.link = false :=
        Bool.eq_false_iff.2 (mt (hlinks.contains_iff st.link).1 hlink)
      rw [if_pos (by simp [hmissing]), if_neg hlink, List.singleton_append]
      rfl

/-- Resolving route stops through an index of the stop ids reports the first fault of the route
stops, worded by `fail`. -/
theorem resolveStops_reportFirst {index : TextIndex} {ids : List String}
    (hindex : index.IndexesFirst ids) {fail : String → EngineError} :
    ∀ {previous : Nat} {stops : List RouteStop},
      (fun _ => ()) <$> resolveStops index fail previous stops =
        reportFirst (fun rf => fail rf.reason) (routeStopFaults ids previous stops)
  | _, [] => rfl
  | previous, rs :: rest => by
    simp only [resolveStops, routeStopFaults]
    cases hi : index.get? rs.stop with
    | none =>
      rw [if_neg ((hindex.get?_eq_none_iff rs.stop).1 hi)]
      rfl
    | some i =>
      have hmem : rs.stop ∈ ids := by
        by_contra h
        rw [(hindex.get?_eq_none_iff rs.stop).2 h] at hi
        cases hi
      simp only [hmem, if_true, List.nil_append]
      by_cases hok : previous ≤ rs.arrivalOffset ∧ rs.arrivalOffset ≤ rs.departureOffset
      · have hforward :
            (decide (rs.arrivalOffset > rs.departureOffset) ||
              decide (rs.arrivalOffset < previous)) = false := by
          simp only [Bool.or_eq_false_iff, decide_eq_false_iff_not, not_lt]
          exact ⟨hok.2, hok.1⟩
        rw [if_pos hok, List.nil_append, if_neg (by simp [hforward]),
          ← resolveStops_reportFirst hindex]
        cases resolveStops index fail rs.departureOffset rest <;> rfl
      · have hbackward :
            (decide (rs.arrivalOffset > rs.departureOffset) ||
              decide (rs.arrivalOffset < previous)) = true := by
          simp only [Bool.or_eq_true, decide_eq_true_eq]
          omega
        rw [if_neg hok, if_pos hbackward]
        rfl

/-- Checking a route through an index of the stop ids reports its first fault, with the route's
name. -/
theorem resolveRoute_reportFirst {index : TextIndex} {ids : List String}
    (hindex : index.IndexesFirst ids) {lineId : String} {r : TransitRoute} :
    (fun _ => ()) <$> resolveRoute index lineId r =
      reportFirst (fun rf => .invalidScenario (ScenarioFault.route lineId r.id rf).message)
        (routeFaults ids r) := by
  simp only [resolveRoute, routeFaults]
  by_cases hlen : r.stops.length < 2
  · rw [if_pos hlen, if_pos hlen]
    rfl
  · rw [if_neg hlen, if_neg hlen, List.nil_append, reportFirst_append]
    have hstops : (fun _ => ()) <$> resolveStops index (fun reason =>
          EngineError.invalidScenario ("route " ++ lineId ++ "/" ++ r.id ++ ": " ++ reason)) 0
          r.stops =
        reportFirst (fun rf => .invalidScenario (ScenarioFault.route lineId r.id rf).message)
          (routeStopFaults ids 0 r.stops) :=
      resolveStops_reportFirst hindex
    rw [← hstops]
    -- the stops are checked first; the headway only once they all pass
    cases resolveStops index (fun reason =>
        EngineError.invalidScenario ("route " ++ lineId ++ "/" ++ r.id ++ ": " ++ reason)) 0
        r.stops with
    | error e => rfl
    | ok indices =>
      cases hh : r.headway with
      | none => rfl
      | some h =>
        by_cases hgood : 0 < h.every ∧ h.first ≤ h.last
        · have hpass : (decide (h.every = 0) || decide (h.first > h.last)) = false := by
            simp only [Bool.or_eq_false_iff, decide_eq_false_iff_not, not_lt]
            omega
          simp only [headwayFaults, if_pos hgood, hpass]
          rfl
        · have hfail : (decide (h.every = 0) || decide (h.first > h.last)) = true := by
            simp only [Bool.or_eq_true, decide_eq_true_eq]
            omega
          simp only [headwayFaults, if_neg hgood, hfail]
          rfl

/-- Checking the routes of lines through an index of the stop ids reports the first fault of
their routes, line by line. -/
theorem resolveLines_reportFirst {index : TextIndex} {ids : List String}
    (hindex : index.IndexesFirst ids) {lines : List TransitLine} :
    (fun _ => ()) <$> resolveLines index lines =
      reportFirst (fun v => .invalidScenario v.message) (linesFaults ids lines) := by
  refine map_mapM_eq_reportFirst _ fun line _ => ?_
  -- a line is checked through its routes, and filled in with them
  have hroutes : (fun _ => ()) <$> line.routes.mapM (resolveRoute index line.id) =
      reportFirst (fun v : ScenarioFault => .invalidScenario v.message)
        (line.routes.flatMap fun r => (routeFaults ids r).map (ScenarioFault.route line.id r.id)) :=
    map_mapM_eq_reportFirst _ fun r _ => by
      rw [reportFirst_map]
      exact resolveRoute_reportFirst hindex
  rw [← hroutes]
  cases line.routes.mapM (resolveRoute index line.id) <;> rfl

/-- The check of a scenario file reports the first fault of the file, and succeeds when it has
none. -/
theorem Scenario.ofFile_reports_first_fault (f : ScenarioFile) :
    (fun _ => ()) <$> Scenario.ofFile f =
      reportFirst (fun v => .invalidScenario v.message) f.faults := by
  simp only [Scenario.ofFile, ScenarioFile.faults, List.append_assoc]
  -- the links first, then the stops against the link index, then the routes against the stop
  -- index; each index returned holds every id at its position
  refine map_bind_eq_reportFirst _ (@indexLinks_reportFirst [] _ _
    TextIndex.indexesFirst_empty) fun linkIndex hlinks => ?_
  have hlinkIndex := (indexLinks_ok TextIndex.indexesFirst_empty List.nodup_nil hlinks).1
  refine map_bind_eq_reportFirst _ (@indexStops_reportFirst _ _ (by simpa using hlinkIndex)
    [] _ _ TextIndex.indexesFirst_empty) fun stopIndex hstops => ?_
  have hstopIndex := (indexStops_ok TextIndex.indexesFirst_empty List.nodup_nil hstops).1
  rw [← List.append_nil (linesFaults _ _)]
  refine map_bind_eq_reportFirst _ (resolveLines_reportFirst (by simpa using hstopIndex))
    fun _ _ => rfl

/-- A scenario file is accepted exactly when it is valid, and a file that is not is refused
with the message of its first fault in the order of the check. -/
theorem Scenario.ofFile_accepts_iff_valid (f : ScenarioFile) :
    ((∃ s, Scenario.ofFile f = .ok s) ↔ f.Valid) ∧
      ∀ v ∈ f.faults.head?, Scenario.ofFile f = .error (.invalidScenario v.message) := by
  obtain ⟨hok, herr⟩ := result_of_reportFirst _ (Scenario.ofFile_reports_first_fault f)
  exact ⟨hok.trans (ScenarioFile.faults_eq_nil_iff f), herr⟩

/-- The first stop is on a missing link and the second repeats its id: the missing link, met
first, is the fault reported. -/
example : Scenario.ofFile ⟨"x", [⟨"a", ⟨0, 0⟩, ⟨1, 0⟩, none⟩],
    [⟨"s", "b", ⟨0, 0⟩⟩, ⟨"s", "a", ⟨1, 0⟩⟩], []⟩ =
      .error (.invalidScenario "stop s references unknown link b") := rfl

end TransitRouting
