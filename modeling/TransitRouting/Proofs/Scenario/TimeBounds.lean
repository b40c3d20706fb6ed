import TransitRouting.Proofs.Scenario.Coordinates
import TransitRouting.Proofs.Scenario.Schedule

/-!
# The times of a scenario fit in a word

Offsets, listed departures and the times of a headway are read as unsigned 32-bit integers, so
every time a route of a scenario read from JSON gives is below `2^32`: the offsets of its stops,
and every departure of its schedule, which is a listed departure or a headway time no later than
the headway's last one (`Scenario.ofJson_runsInWord`). Below `2^52` the router's sums of such
times are exact as doubles, so this bound is what its comparisons of departures rest on.

The proof follows the readers of the file format as `Scenario.Coordinates` does: one invariant
per object draft, kept by each key's step, and the array form read element by element.

## What this module delivers

- `Json.readU32_lt` and `Json.Yields.readOption`.
- `TransitRoute.TimesInWord` and `Schema.readTransitRoute_timesInWord`, up to
  `ScenarioFile.parse_timesInWord`.
- `TransitRoute.RunsInWord` and `Scenario.ofJson_runsInWord`: what the router reads of a checked
  route fits in a word.
-/

set_option autoImplicit false

namespace TransitRouting

open Json

/-! ## Readers -/

/-- An unsigned 32-bit integer read from JSON is below `2^32`. -/
theorem Json.readU32_lt : Yields readU32 (· < 2 ^ 32) := by
  unfold readU32
  refine Yields.typed fun b r hr => ?_
  split_ifs at hr
  cases hr
  refine Yields.bind_right fun n => ?_
  cases n with
  | unsigned n =>
    dsimp only
    split_ifs with hn
    · exact Yields.pure (by simpa using hn)
    · exact Yields.throw
  | negative n => exact Yields.throw
  | float x => exact Yields.throw

/-- An optional value holds, when there is one, what the reader of the value yields. -/
theorem Json.Yields.readOption {α : Type} {P : α → Prop} {r : Reader α} (h : Yields r P) :
    Yields (Json.readOption r) fun o => ∀ v ∈ o, P v := by
  unfold Json.readOption
  refine Yields.bind_right fun b => ?_
  split
  · exact Yields.bind_right fun _ => Yields.bind_right fun _ => Yields.pure (by simp)
  · exact Yields.map h fun v hv w hw => by
      rw [Option.mem_def, Option.some.injEq] at hw
      exact hw ▸ hv

theorem forall_mem_getD_nil {α : Type} {P : α → Prop} {o : Option (List α)}
    (h : ∀ l ∈ o, ∀ x ∈ l, P x) : ∀ x ∈ o.getD [], P x := by
  cases o with
  | none => simp
  | some l => exact h l rfl

theorem forall_mem_getD_none {α : Type} {P : α → Prop} {o : Option (Option α)}
    (h : ∀ o' ∈ o, ∀ x ∈ o', P x) : ∀ x ∈ o.getD none, P x := by
  cases o with
  | none => simp
  | some o' => exact h o' rfl

/-! ## Routes as read -/

/-- Every time a route gives as it is read fits in a word: the offsets of its stops, its listed
departures and the last time of its headway. -/
def TransitRoute.TimesInWord (r : TransitRoute) : Prop :=
  (∀ rs ∈ r.stops, rs.arrivalOffset < 2 ^ 32 ∧ rs.departureOffset < 2 ^ 32) ∧
    (∀ d ∈ r.departures, d < 2 ^ 32) ∧ ∀ h ∈ r.headway, h.last < 2 ^ 32

namespace Schema

/-- The offsets a route stop draft holds fit in a word. -/
def RouteStopDraft.InWord (d : RouteStopDraft) : Prop :=
  (∀ a ∈ d.arrival, a < 2 ^ 32) ∧ ∀ t ∈ d.departure, t < 2 ^ 32

theorem routeStopStep_inWord {d : RouteStopDraft} (k : String) (hd : d.InWord) :
    Yields (routeStopStep d k) RouteStopDraft.InWord := by
  unfold routeStopStep
  split_ifs
  · exact Yields.bind_right fun _ => Yields.pure hd
  · exact Yields.bind (Yields.setOnce readU32_lt) fun a ha =>
      Yields.pure ⟨fun a' ha' => by cases ha'; exact ha, hd.2⟩
  · exact Yields.bind (Yields.setOnce readU32_lt) fun t ht =>
      Yields.pure ⟨hd.1, fun t' ht' => by cases ht'; exact ht⟩
  · exact Yields.bind_right fun _ => Yields.pure hd

/-- Both offsets of a route stop read from JSON fit in a word. -/
theorem readRouteStop_inWord :
    Yields readRouteStop fun rs => rs.arrivalOffset < 2 ^ 32 ∧ rs.departureOffset < 2 ^ 32 := by
  unfold readRouteStop
  refine Yields.readRecord ?_ ?_
  · exact Yields.bind_right fun _ => Yields.bind_right fun _ =>
      Yields.bind (Yields.element readU32_lt) fun _ hoa =>
      Yields.bind (Yields.required hoa) fun _ ha =>
      Yields.bind (Yields.element readU32_lt) fun _ hod =>
      Yields.bind (Yields.required hod) fun _ hdep => Yields.pure ⟨ha, hdep⟩
  · exact Yields.bind (Yields.readDraft (fun d k hd => routeStopStep_inWord k hd)
        ⟨by simp, by simp⟩)
      fun _ hd => Yields.bind_right fun _ => Yields.bind (Yields.need hd.1) fun _ ha =>
      Yields.bind (Yields.need hd.2) fun _ hdep => Yields.pure ⟨ha, hdep⟩

/-- The last time a headway draft holds fits in a word. -/
def HeadwayDraft.InWord (d : HeadwayDraft) : Prop := ∀ l ∈ d.last, l < 2 ^ 32

theorem headwayStep_inWord {d : HeadwayDraft} (k : String) (hd : d.InWord) :
    Yields (headwayStep d k) HeadwayDraft.InWord := by
  unfold headwayStep
  split_ifs
  · exact Yields.bind_right fun _ => Yields.pure hd
  · exact Yields.bind (Yields.setOnce readU32_lt) fun l hl =>
      Yields.pure fun l' hl' => by cases hl'; exact hl
  · exact Yields.bind_right fun _ => Yields.pure hd
  · exact Yields.bind_right fun _ => Yields.pure hd

/-- The last time of a headway read from JSON fits in a word. -/
theorem readHeadway_inWord : Yields readHeadway fun h => h.last < 2 ^ 32 := by
  unfold readHeadway
  refine Yields.readRecord ?_ ?_
  · exact Yields.bind_right fun _ => Yields.bind_right fun _ =>
      Yields.bind (Yields.element readU32_lt) fun _ hol =>
      Yields.bind (Yields.required hol) fun _ hl =>
      Yields.bind_right fun _ => Yields.bind_right fun _ => Yields.pure hl
  · exact Yields.bind (Yields.readDraft (fun d k hd => headwayStep_inWord k hd)
        fun _ h => by cases h)
      fun _ hd => Yields.bind_right fun _ => Yields.bind (Yields.need hd) fun _ hl =>
      Yields.bind_right fun _ => Yields.pure hl

/-- The times a route draft holds fit in a word. -/
def RouteDraft.InWord (d : RouteDraft) : Prop :=
  (∀ l ∈ d.stops, ∀ rs ∈ l, rs.arrivalOffset < 2 ^ 32 ∧ rs.departureOffset < 2 ^ 32) ∧
    (∀ l ∈ d.departures, ∀ t ∈ l, t < 2 ^ 32) ∧ ∀ o ∈ d.headway, ∀ h ∈ o, h.last < 2 ^ 32

theorem routeStep_inWord {d : RouteDraft} (k : String) (hd : d.InWord) :
    Yields (routeStep d k) RouteDraft.InWord := by
  unfold routeStep
  split_ifs
  · exact Yields.bind_right fun _ => Yields.pure hd
  · exact Yields.bind_right fun _ => Yields.pure hd
  · exact Yields.bind (Yields.setOnce (Yields.readSeq readRouteStop_inWord)) fun l hl =>
      Yields.pure ⟨fun l' hl' => by cases hl'; exact hl, hd.2⟩
  · exact Yields.bind (Yields.setOnce (Yields.readSeq readU32_lt)) fun l hl =>
      Yields.pure ⟨hd.1, fun l' hl' => by cases hl'; exact hl, hd.2.2⟩
  · exact Yields.bind (Yields.setOnce (Yields.readOption readHeadway_inWord)) fun o ho =>
      Yields.pure ⟨hd.1, hd.2.1, fun o' ho' => by cases ho'; exact ho⟩
  · exact Yields.bind_right fun _ => Yields.pure hd

/-- Every time a route read from JSON gives fits in a word. -/
theorem readTransitRoute_timesInWord : Yields readTransitRoute TransitRoute.TimesInWord := by
  unfold readTransitRoute
  refine Yields.readRecord ?_ ?_
  · exact Yields.bind_right fun _ => Yields.bind_right fun _ => Yields.bind_right fun _ =>
      Yields.bind (Yields.element (Yields.readSeq readRouteStop_inWord)) fun _ hos =>
      Yields.bind (Yields.required hos) fun _ hs =>
      Yields.bind (Yields.element (Yields.readSeq readU32_lt)) fun _ hod =>
      Yields.bind (Yields.element (Yields.readOption readHeadway_inWord)) fun _ hoh =>
      Yields.pure ⟨hs, forall_mem_getD_nil hod, forall_mem_getD_none hoh⟩
  · exact Yields.bind (Yields.readDraft (fun d k hd => routeStep_inWord k hd)
        ⟨by simp, by simp, by simp⟩)
      fun _ hd => Yields.bind_right fun _ => Yields.bind (Yields.need hd.1) fun _ hs =>
      Yields.pure ⟨hs, forall_mem_getD_nil hd.2.1, forall_mem_getD_none hd.2.2⟩

/-- The routes a line draft holds give times that fit in a word. -/
def LineDraft.InWord (d : LineDraft) : Prop := ∀ l ∈ d.routes, ∀ r ∈ l, r.TimesInWord

theorem lineStep_inWord {d : LineDraft} (k : String) (hd : d.InWord) :
    Yields (lineStep d k) LineDraft.InWord := by
  unfold lineStep
  split_ifs
  · exact Yields.bind_right fun _ => Yields.pure hd
  · exact Yields.bind (Yields.setOnce (Yields.readSeq readTransitRoute_timesInWord)) fun l hl =>
      Yields.pure fun l' hl' => by cases hl'; exact hl
  · exact Yields.bind_right fun _ => Yields.pure hd

/-- Every route of a line read from JSON gives times that fit in a word. -/
theorem readTransitLine_timesInWord :
    Yields readTransitLine fun line => ∀ r ∈ line.routes, r.TimesInWord := by
  unfold readTransitLine
  refine Yields.readRecord ?_ ?_
  · exact Yields.bind_right fun _ => Yields.bind_right fun _ =>
      Yields.bind (Yields.element (Yields.readSeq readTransitRoute_timesInWord)) fun _ hor =>
      Yields.bind (Yields.required hor) fun _ hr => Yields.pure hr
  · exact Yields.bind (Yields.readDraft (fun d k hd => lineStep_inWord k hd)
        fun _ h => by cases h)
      fun _ hd => Yields.bind_right fun _ => Yields.bind (Yields.need hd) fun _ hr =>
      Yields.pure hr

/-- The lines a file draft holds have routes whose times fit in a word. -/
def FileDraft.TimesInWord (d : FileDraft) : Prop :=
  ∀ l ∈ d.lines, ∀ line ∈ l, ∀ r ∈ line.routes, r.TimesInWord

theorem fileStep_timesInWord {d : FileDraft} (k : String) (hd : d.TimesInWord) :
    Yields (fileStep d k) FileDraft.TimesInWord := by
  unfold fileStep
  split_ifs
  · exact Yields.bind_right fun _ => Yields.pure hd
  · exact Yields.bind_right fun _ => Yields.pure hd
  · exact Yields.bind_right fun _ => Yields.pure hd
  · exact Yields.bind (Yields.setOnce (Yields.readSeq readTransitLine_timesInWord)) fun l hl =>
      Yields.pure fun l' hl' => by cases hl'; exact hl
  · exact Yields.bind_right fun _ => Yields.pure hd

/-- Every route of every line of a scenario file read from JSON gives times that fit in a
word. -/
theorem readScenarioFile_timesInWord :
    Yields readScenarioFile fun f => ∀ line ∈ f.lines, ∀ r ∈ line.routes, r.TimesInWord := by
  unfold readScenarioFile
  refine Yields.readRecord ?_ ?_
  · exact Yields.bind_right fun _ => Yields.bind_right fun _ =>
      Yields.bind_right fun _ => Yields.bind_right fun _ => Yields.bind_right fun _ =>
      Yields.bind (Yields.element (Yields.readSeq readTransitLine_timesInWord)) fun _ hol =>
      Yields.pure (forall_mem_getD_nil hol)
  · exact Yields.bind (Yields.readDraft (fun d k hd => fileStep_timesInWord k hd)
        fun _ h => by cases h)
      fun _ hd => Yields.bind_right fun _ => Yields.bind_right fun _ =>
      Yields.pure (forall_mem_getD_nil hd)

end Schema

/-- Every route of a parsed scenario file gives times that fit in a word. -/
theorem ScenarioFile.parse_timesInWord {text : String} {f : ScenarioFile}
    (h : ScenarioFile.parse text = .ok f) : ∀ line ∈ f.lines, ∀ r ∈ line.routes, r.TimesInWord :=
  (Yields.bind Schema.readScenarioFile_timesInWord fun _ hf =>
    Yields.bind_right fun _ => Yields.pure hf).runOn h

/-! ## Checked routes -/

/-- What the router reads of a route fits in a word: the offsets of its stops and the departures
of its schedule. -/
structure TransitRoute.RunsInWord (r : TransitRoute) : Prop where
  offsets : ∀ rs ∈ r.stops, rs.arrivalOffset < 2 ^ 32 ∧ rs.departureOffset < 2 ^ 32
  schedule : ∀ d ∈ r.schedule, d < 2 ^ 32

namespace TransitRoute.RunsInWord

variable {r : TransitRoute}

/-- The departure offset the router reads at a position, `0` past the last stop, fits in a
word. -/
theorem departureOffset_lt (h : r.RunsInWord) (pos : Nat) :
    ((r.stops[pos]?).map (·.departureOffset)).getD 0 < 2 ^ 32 := by
  cases hpos : r.stops[pos]? with
  | none => simp
  | some rs => simpa using (h.offsets rs (List.mem_of_getElem? hpos)).2

/-- The arrival offset the router reads at a position, `0` past the last stop, fits in a
word. -/
theorem arrivalOffset_lt (h : r.RunsInWord) (pos : Nat) :
    ((r.stops[pos]?).map (·.arrivalOffset)).getD 0 < 2 ^ 32 := by
  cases hpos : r.stops[pos]? with
  | none => simp
  | some rs => simpa using (h.offsets rs (List.mem_of_getElem? hpos)).1

end TransitRoute.RunsInWord

/-- A route whose times fit in a word, once checked, runs in a word: the check keeps its stops
and expands its schedule from its listed departures and headway times, none later than the
headway's last. -/
theorem resolveRoute_runsInWord {index : TextIndex} {lineId : String} {r r' : TransitRoute}
    (hr : r.TimesInWord) (h : resolveRoute index lineId r = .ok r') : r'.RunsInWord := by
  obtain ⟨-, -, -, -, rfl⟩ := resolveRoute_eq_ok h
  obtain ⟨hoffsets, hdepartures, hheadway⟩ := hr
  refine ⟨hoffsets, fun d hd => ?_⟩
  rcases (mem_expandSchedule_iff _ _ d).1 hd with hd | ⟨hw, hhw, -, -, hle⟩
  · exact hdepartures d hd
  · exact lt_of_le_of_lt hle (hheadway hw hhw)

/-- Each route of lines that passed their check comes from a route of one of the lines
checked. -/
theorem resolveLines_mem_routes {index : TextIndex} {lines lines' : List TransitLine}
    (h : resolveLines index lines = .ok lines') :
    ∀ line ∈ lines', ∀ route ∈ line.routes,
      ∃ line₀ ∈ lines, ∃ r ∈ line₀.routes, resolveRoute index line₀.id r = .ok route := by
  intro line hline route hroute
  obtain ⟨line₀, hline₀, hcheck⟩ := mem_of_mapM_ok h line hline
  obtain ⟨routes, hroutes, hline'⟩ := bind_eq_ok hcheck
  cases hline'
  obtain ⟨r, hr, hresolve⟩ := mem_of_mapM_ok hroutes route hroute
  exact ⟨line₀, hline₀, r, hr, hresolve⟩

/-- Every route of a scenario read from JSON runs in a word: the offsets of its stops and every
departure of its schedule are below `2^32`. -/
theorem Scenario.ofJson_runsInWord {text : String} {s : Scenario}
    (h : Scenario.ofJson text = .ok s) : ∀ line ∈ s.lines, ∀ route ∈ line.routes, route.RunsInWord := by
  intro line hline route hroute
  simp only [Scenario.ofJson] at h
  split at h
  · rename_i f hf
    obtain ⟨_, _, lines, -, -, -, -, -, hlines, rfl⟩ := Scenario.ofFile_eq_ok h
    obtain ⟨line₀, hline₀, r, hr, hresolve⟩ := resolveLines_mem_routes hlines line hline route hroute
    exact resolveRoute_runsInWord (ScenarioFile.parse_timesInWord hf line₀ hline₀ r hr) hresolve
  · cases h

end TransitRouting
