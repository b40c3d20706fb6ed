import TransitRouting.Proofs.Json.Doubles
import TransitRouting.Proofs.Router.Walking
import TransitRouting.Proofs.Router.PlanShape

/-!
# The coordinates of a scenario are numbers

A scenario is read from JSON, and JSON has no text for NaN: every stop of a scenario that was
read and checked has a point with no NaN coordinate (`Scenario.stops_notNaN_of_parse`). The
proof follows the readers of the file format, from a point (written as an object or as an
array) through a stop to the list of stops of a file, keeping in each object draft the
invariant that what it holds so far is free of NaN.

## What this module delivers

- `Schema.readPoint_notNaN`, `Schema.readStop_notNaN`, `Schema.readScenarioFile_notNaN`.
- `ScenarioFile.parse_stops_notNaN`: every stop of a parsed file has a point with no NaN.
- `Scenario.stops_notNaN_of_parse`: the same for a scenario checked from a parsed file.
-/

set_option autoImplicit false

namespace TransitRouting

open Binary64 Json

namespace Schema

/-- Neither coordinate a point draft holds is NaN. -/
def PointDraft.NotNaN (d : PointDraft) : Prop :=
  (∀ x ∈ d.x, isNaN x = false) ∧ ∀ y ∈ d.y, isNaN y = false

theorem pointStep_notNaN {d : PointDraft} (k : String) (hd : d.NotNaN) :
    Yields (pointStep d k) PointDraft.NotNaN := by
  unfold pointStep
  split_ifs
  · exact Yields.bind (Yields.setOnce readF64_notNaN) fun x hx =>
      Yields.pure ⟨fun x' hx' => by cases hx'; exact hx, hd.2⟩
  · exact Yields.bind (Yields.setOnce readF64_notNaN) fun y hy =>
      Yields.pure ⟨hd.1, fun y' hy' => by cases hy'; exact hy⟩
  · exact Yields.bind_right fun _ => Yields.pure hd

/-- A point read from JSON, as an array or as an object, has no NaN coordinate. -/
theorem readPoint_notNaN : Yields readPoint Coord.NotNaN := by
  unfold readPoint
  refine Yields.readRecord ?_ ?_
  · exact Yields.bind (Yields.element readF64_notNaN) fun _ hox =>
      Yields.bind (Yields.required hox) fun _ hx =>
      Yields.bind (Yields.element readF64_notNaN) fun _ hoy =>
      Yields.bind (Yields.required hoy) fun _ hy => Yields.pure (And.intro hx hy)
  · exact Yields.bind (Yields.readDraft (fun d k hd => pointStep_notNaN k hd) ⟨nofun, nofun⟩)
      fun _ hd => Yields.bind (Yields.need hd.1) fun _ hx =>
      Yields.bind (Yields.need hd.2) fun _ hy => Yields.pure (And.intro hx hy)

/-- The point a stop draft holds, if any, has no NaN coordinate. -/
def StopDraft.NotNaN (d : StopDraft) : Prop := ∀ c ∈ d.coord, c.NotNaN

theorem stopStep_notNaN {d : StopDraft} (k : String) (hd : d.NotNaN) :
    Yields (stopStep d k) StopDraft.NotNaN := by
  unfold stopStep
  split_ifs
  · exact Yields.bind_right fun _ => Yields.pure hd
  · exact Yields.bind_right fun _ => Yields.pure hd
  · exact Yields.bind (Yields.setOnce readPoint_notNaN) fun c hc =>
      Yields.pure fun c' hc' => by cases hc'; exact hc
  · exact Yields.bind_right fun _ => Yields.pure hd

/-- A stop read from JSON has a point with no NaN coordinate. -/
theorem readStop_notNaN : Yields readStop fun s => s.coord.NotNaN := by
  unfold readStop
  refine Yields.readRecord ?_ ?_
  · exact Yields.bind_right fun _ => Yields.bind_right fun _ =>
      Yields.bind_right fun _ => Yields.bind_right fun _ =>
      Yields.bind (Yields.element readPoint_notNaN) fun _ hoc =>
      Yields.bind (Yields.required hoc) fun _ hc => Yields.pure hc
  · exact Yields.bind (Yields.readDraft (fun d k hd => stopStep_notNaN k hd) nofun)
      fun _ hd => Yields.bind_right fun _ => Yields.bind_right fun _ =>
      Yields.bind (Yields.need hd) fun _ hc => Yields.pure hc

/-- The stops a file draft holds, if any, have points with no NaN coordinate. -/
def FileDraft.NotNaN (d : FileDraft) : Prop := ∀ l ∈ d.stops, ∀ s ∈ l, s.coord.NotNaN

theorem fileStep_notNaN {d : FileDraft} (k : String) (hd : d.NotNaN) :
    Yields (fileStep d k) FileDraft.NotNaN := by
  unfold fileStep
  split_ifs
  · exact Yields.bind_right fun _ => Yields.pure hd
  · exact Yields.bind_right fun _ => Yields.pure hd
  · exact Yields.bind (Yields.setOnce (Yields.readSeq readStop_notNaN)) fun l hl =>
      Yields.pure fun l' hl' => by cases hl'; exact hl
  · exact Yields.bind_right fun _ => Yields.pure hd
  · exact Yields.bind_right fun _ => Yields.pure hd

theorem getD_nil_notNaN {o : Option (List Stop)} (h : ∀ l ∈ o, ∀ s ∈ l, s.coord.NotNaN) :
    ∀ s ∈ o.getD [], s.coord.NotNaN := by
  cases o with
  | none => exact nofun
  | some l => exact h l rfl

/-- Every stop of a scenario file read from JSON, as an array or as an object, has a point with
no NaN coordinate. -/
theorem readScenarioFile_notNaN :
    Yields readScenarioFile fun f => ∀ s ∈ f.stops, s.coord.NotNaN := by
  unfold readScenarioFile
  refine Yields.readRecord ?_ ?_
  · exact Yields.bind_right fun _ => Yields.bind_right fun _ =>
      Yields.bind_right fun _ => Yields.bind_right fun _ =>
      Yields.bind (Yields.element (Yields.readSeq readStop_notNaN)) fun _ hstops =>
      Yields.bind_right fun _ => Yields.pure (getD_nil_notNaN hstops)
  · exact Yields.bind (Yields.readDraft (fun d k hd => fileStep_notNaN k hd) nofun)
      fun _ hd => Yields.bind_right fun _ => Yields.bind_right fun _ =>
      Yields.pure (getD_nil_notNaN hd)

end Schema

/-- Every stop of a parsed scenario file has a point with no NaN coordinate. -/
theorem ScenarioFile.parse_stops_notNaN {text : String} {f : ScenarioFile}
    (h : ScenarioFile.parse text = .ok f) : ∀ s ∈ f.stops, s.coord.NotNaN :=
  (Yields.bind Schema.readScenarioFile_notNaN fun _ hf =>
    Yields.bind_right fun _ => Yields.pure hf).runOn h

/-- Every stop of a scenario read from JSON and checked has a point with no NaN coordinate. -/
theorem Scenario.stops_notNaN_of_parse {text : String} {f : ScenarioFile} {s : Scenario}
    (hf : ScenarioFile.parse text = .ok f) (hs : Scenario.ofFile f = .ok s) :
    ∀ st ∈ s.stops, st.coord.NotNaN := by
  obtain ⟨_, _, lines, -, -, -, -, -, -, rfl⟩ := Scenario.ofFile_eq_ok hs
  exact ScenarioFile.parse_stops_notNaN hf

end TransitRouting
