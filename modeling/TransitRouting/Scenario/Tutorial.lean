import TransitRouting.Scenario.Check

/-!
# The tutorial scenario

The scenario routers start with when no other is named: a grid of 48 links two kilometres
apart, four stops, and two lines running the same route in opposite directions, every ten
minutes through the day.

## What this module delivers

- `Tutorial.file`: the scenario file.
-/

set_option autoImplicit false

namespace TransitRouting.Tutorial

/-- A point with whole-metre coordinates. -/
def point (x y : Nat) : Coord := ⟨Binary64.ofNat x, Binary64.ofNat y⟩

/-- A link between two whole-metre points, without a given length. -/
def link (id : String) (x1 y1 x2 y2 : Nat) : Link := ⟨id, point x1 y1, point x2 y2, none⟩

/-- The links of the grid. -/
def links : List Link := [
  link "1112" 0 0 0 2000,
  link "1211" 0 2000 0 0,
  link "1121" 0 0 2000 0,
  link "2111" 2000 0 0 0,
  link "1213" 0 2000 0 4000,
  link "1312" 0 4000 0 2000,
  link "1222" 0 2000 2000 2000,
  link "2212" 2000 2000 0 2000,
  link "1314" 0 4000 0 6000,
  link "1413" 0 6000 0 4000,
  link "1323" 0 4000 2000 4000,
  link "2313" 2000 4000 0 4000,
  link "1424" 0 6000 2000 6000,
  link "2414" 2000 6000 0 6000,
  link "2122" 2000 0 2000 2000,
  link "2221" 2000 2000 2000 0,
  link "2131" 2000 0 4000 0,
  link "3121" 4000 0 2000 0,
  link "2223" 2000 2000 2000 4000,
  link "2322" 2000 4000 2000 2000,
  link "2232" 2000 2000 4000 2000,
  link "3222" 4000 2000 2000 2000,
  link "2324" 2000 4000 2000 6000,
  link "2423" 2000 6000 2000 4000,
  link "2333" 2000 4000 4000 4000,
  link "3323" 4000 4000 2000 4000,
  link "2434" 2000 6000 4000 6000,
  link "3424" 4000 6000 2000 6000,
  link "3132" 4000 0 4000 2000,
  link "3231" 4000 2000 4000 0,
  link "3141" 4000 0 6000 0,
  link "4131" 6000 0 4000 0,
  link "3233" 4000 2000 4000 4000,
  link "3332" 4000 4000 4000 2000,
  link "3242" 4000 2000 6000 2000,
  link "4232" 6000 2000 4000 2000,
  link "3334" 4000 4000 4000 6000,
  link "3433" 4000 6000 4000 4000,
  link "3343" 4000 4000 6000 4000,
  link "4333" 6000 4000 4000 4000,
  link "3444" 4000 6000 6000 6000,
  link "4434" 6000 6000 4000 6000,
  link "4142" 6000 0 6000 2000,
  link "4241" 6000 2000 6000 0,
  link "4243" 6000 2000 6000 4000,
  link "4342" 6000 4000 6000 2000,
  link "4344" 6000 4000 6000 6000,
  link "4443" 6000 6000 6000 4000]

/-- The stops. -/
def stops : List Stop := [
  ⟨"1", "1112", point 200 1000⟩,
  ⟨"2a", "2122", point 2200 1000⟩,
  ⟨"2b", "3132", point 4200 1000⟩,
  ⟨"3", "4142", point 5800 1000⟩]

/-- The line "Blue Line". -/
def blueLine : TransitLine :=
  ⟨"Blue Line", [{ id := "1to3", mode := "pt",
                   stops := [⟨"1", 0, 0⟩, ⟨"2a", 240, 270⟩, ⟨"2b", 510, 540⟩, ⟨"3", 780, 780⟩],
                   departures := [],
                   headway := some ⟨21600, 79200, 600⟩ }]⟩

/-- The line "Red Line". -/
def redLine : TransitLine :=
  ⟨"Red Line", [{ id := "3to1", mode := "pt",
                  stops := [⟨"3", 0, 0⟩, ⟨"2b", 240, 270⟩, ⟨"2a", 510, 540⟩, ⟨"1", 780, 780⟩],
                  departures := [21900],
                  headway := some ⟨22200, 79500, 600⟩ }]⟩

/-- The scenario file. -/
def file : ScenarioFile :=
  { name := "pt-tutorial", links, stops, lines := [blueLine, redLine] }

end TransitRouting.Tutorial
