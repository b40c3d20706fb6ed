import TransitRouting.Number.Layout

/-!
# Planar coordinates

A point of the plane in metres. Distances are Euclidean (`Binary64.hypot` of the
differences); the midpoint is computed in double arithmetic, halving each sum.

## What this module delivers

- `Coord` with `Coord.distance` (`√(dx² + dy²)`), `Coord.midpoint` and
  `Coord.display` (`(x, y)` with both numbers in the message layout).
- `Coord.isFinite`: both components finite.
-/

set_option autoImplicit false

namespace TransitRouting

/-- A point of the plane. -/
structure Coord where
  x : Float
  y : Float

namespace Coord

/-- The origin, where a coordinate with no given components lies. -/
def origin : Coord := ⟨0, 0⟩

/-- Euclidean distance. -/
def distance (a b : Coord) : Float := Binary64.hypot (a.x - b.x) (a.y - b.y)

/-- The point halfway between two points. -/
def midpoint (a b : Coord) : Coord := ⟨(a.x + b.x) / 2, (a.y + b.y) / 2⟩

/-- `(x, y)`, each number written positionally in the message layout. -/
def display (c : Coord) : String :=
  "(" ++ Layout.display.render c.x ++ ", " ++ Layout.display.render c.y ++ ")"

/-- Both components are finite. -/
def isFinite (c : Coord) : Bool := Binary64.isFinite c.x && Binary64.isFinite c.y

end Coord

end TransitRouting
