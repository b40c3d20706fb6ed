import TransitRouting.Geo.Coord

/-!
# Scenarios

A scenario is a snapshot of the network and the transit schedule: directed links with their
end points, stops placed on links, and lines whose routes visit stops at fixed offsets from the
moment a vehicle leaves the first stop. A route's departures from its first stop are a list of
times plus an optional headway (every `every` seconds from `first` to `last`, both included).

## What this module delivers

- `Link`, `Stop`, `RouteStop`, `Headway`, `TransitRoute`, `TransitLine`, `ScenarioFile`.
- `Link.coord` (the midpoint) and `Link.effectiveLength` (the given length, else the
  straight-line distance).
- `Headway.times`, `expandSchedule` (sorted, without repeats).
- `partitionPoint` and `TransitRoute.nextDeparture`: the first departure not before a time.
-/

set_option autoImplicit false

namespace TransitRouting

/-- A directed network link from `source` to `target`; `length` in metres when given. -/
structure Link where
  id : String
  source : Coord
  target : Coord
  length : Option Float := none

/-- A transit stop facility on a link. -/
structure Stop where
  id : String
  link : String
  coord : Coord

/-- A stop of a route, with its offsets from the departure at the first stop. -/
structure RouteStop where
  stop : String
  arrivalOffset : Nat
  departureOffset : Nat
deriving Repr, DecidableEq

/-- Regular departures from `first` to `last` (inclusive) every `every` seconds. -/
structure Headway where
  first : Nat
  last : Nat
  every : Nat
deriving Repr, DecidableEq

/-- One stopping pattern of a line. `stopIndices` and `schedule` are filled in when the
scenario is checked: the scenario index of each stop and every departure, sorted. -/
structure TransitRoute where
  id : String
  mode : String := "pt"
  stops : List RouteStop
  departures : List Nat := []
  headway : Option Headway := none
  stopIndices : List Nat := []
  schedule : Array Nat := #[]

/-- A transit line and its routes. -/
structure TransitLine where
  id : String
  routes : List TransitRoute

/-- A scenario as read, before its cross references are checked. -/
structure ScenarioFile where
  name : String
  links : List Link
  stops : List Stop := []
  lines : List TransitLine := []

namespace Link

/-- The representative point of a link: its midpoint. -/
def coord (l : Link) : Coord := l.source.midpoint l.target

/-- The length of a link: the given one, else the straight-line distance. -/
def effectiveLength (l : Link) : Float := l.length.getD (l.source.distance l.target)

end Link

/-! ## Schedules -/

/-- The times `first, first + every, …` up to `last`, for `count` more steps at most. -/
def Headway.timesFrom (every last : Nat) : Nat → Nat → List Nat
  | 0, _ => []
  | fuel + 1, t => if t ≤ last then t :: Headway.timesFrom every last fuel (t + every) else []

/-- The departure times of a headway with a positive step. -/
def Headway.times (h : Headway) : List Nat :=
  Headway.timesFrom h.every h.last ((h.last - h.first) / max h.every 1 + 1) h.first

/-- Drop the repeats of a sorted list. -/
def dedupSorted : List Nat → List Nat
  | a :: b :: rest => if a = b then dedupSorted (b :: rest) else a :: dedupSorted (b :: rest)
  | l => l

/-- All departures of a route: the listed ones and the headway's, sorted, without repeats. -/
def expandSchedule (departures : List Nat) (headway : Option Headway) : Array Nat :=
  let all := departures ++ (headway.map Headway.times).getD []
  (dedupSorted (all.mergeSort (· ≤ ·))).toArray

/-- The first index in `[lo, hi)` whose item fails `p`, for `p` true on a prefix of the array
and false after it; `hi` when all pass. -/
def partitionPoint (a : Array Nat) (p : Nat → Bool) (lo hi : Nat) : Nat :=
  if h : lo < hi then
    let mid := lo + (hi - lo) / 2
    if p (a.getD mid 0) then partitionPoint a p (mid + 1) hi else partitionPoint a p lo mid
  else lo
termination_by hi - lo

/-- The first departure that is not before `earliest` (compared as doubles, so a NaN time
gives the first departure). -/
def TransitRoute.nextDeparture (r : TransitRoute) (earliest : Float) : Option Nat :=
  r.schedule[partitionPoint r.schedule (fun d => Float.ofNat d < earliest) 0 r.schedule.size]?

end TransitRouting
