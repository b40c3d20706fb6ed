import TransitRouting.Geo.Coord

/-!
# Itineraries

An itinerary is a list of plan elements: legs move the traveller, activities sit between legs
(for transit, the `pt interaction` stops where the traveller boards or alights). Times are in
seconds of the day as doubles; a time the engine did not compute is absent.

Every leg carries exactly one route: a generic one (start and end link, distance, travel time),
a network route (the generic data plus the links driven along), or a transit route (the generic
data plus the stops, the boarding time and the line and route ridden).

Legs may carry typed attributes, kept as a map ordered by key: `Attributes` holds its entries
with their keys strictly increasing, so no key comes twice, and setting a key puts its value in
place of the old one or where the key belongs. Only strings, doubles, 32-bit integers and
booleans can be sent over the wire; 64-bit integers and points exist because engines attach
them.

## What this module delivers

- `AttributeValue` with `typeName`; `Attributes` with `empty` and `insert`; `GenericRoute`, `NetworkRoute`, `PtRoute`, `Route`
  with `Route.common`; `Leg`, `Activity` with `Activity.interaction`, `PlanElement`.
-/

set_option autoImplicit false

namespace TransitRouting

/-- The activity type of boarding and alighting points. -/
def ptInteraction : String := "pt interaction"

/-- A dynamically typed leg attribute. -/
inductive AttributeValue where
  | string (s : String)
  | double (x : Float)
  | int (i : Int)
  | bool (b : Bool)
  | long (i : Int)
  | coord (c : Coord)

/-- The name of the type of an attribute value, for error messages. -/
def AttributeValue.typeName : AttributeValue → String
  | .string _ => "string"
  | .double _ => "double"
  | .int _ => "int"
  | .bool _ => "bool"
  | .long _ => "long"
  | .coord _ => "coord"

/-- Leg attributes, a map ordered by key: the keys of the entries strictly increase. -/
structure Attributes where
  entries : List (String × AttributeValue)
  sorted : (entries.map Prod.fst).Pairwise (· < ·)

namespace Attributes

/-- No attributes. -/
def empty : Attributes := ⟨[], List.Pairwise.nil⟩

@[simp] theorem entries_empty : empty.entries = [] := rfl

/-- Set the value of a key among entries in key order: in place of the key's value, else just
before the first greater key. -/
def setEntry (k : String) (v : AttributeValue) :
    List (String × AttributeValue) → List (String × AttributeValue)
  | [] => [(k, v)]
  | (k', v') :: rest =>
    if k < k' then (k, v) :: (k', v') :: rest
    else if k = k' then (k, v) :: rest
    else (k', v') :: setEntry k v rest

/-- Setting a key adds that key and no other. -/
theorem mem_keys_setEntry {k x : String} {v : AttributeValue} :
    ∀ {l : List (String × AttributeValue)}, x ∈ (setEntry k v l).map Prod.fst →
      x = k ∨ x ∈ l.map Prod.fst
  | [], h => by simpa [setEntry] using h
  | (k', v') :: rest, h => by
    simp only [setEntry] at h
    split at h
    · simpa using h
    · split at h
      · rename_i heq
        subst heq
        simpa using h
      · simp only [List.map_cons, List.mem_cons] at h ⊢
        rcases h with h | h
        · exact .inr (.inl h)
        · rcases mem_keys_setEntry h with h | h
          · exact .inl h
          · exact .inr (.inr h)

/-- Setting a key keeps the keys strictly increasing. -/
theorem sorted_setEntry (k : String) (v : AttributeValue) :
    ∀ {l : List (String × AttributeValue)}, (l.map Prod.fst).Pairwise (· < ·) →
      ((setEntry k v l).map Prod.fst).Pairwise (· < ·)
  | [], _ => by simp [setEntry]
  | (k', v') :: rest, hl => by
    simp only [List.map_cons] at hl
    obtain ⟨hhead, htail⟩ := List.pairwise_cons.1 hl
    simp only [setEntry]
    split
    · -- the key goes first, below `k'` and so below every later key
      rename_i hlt
      refine List.pairwise_cons.2 ⟨fun a ha => ?_, hl⟩
      rcases List.mem_cons.1 ha with rfl | ha
      · exact hlt
      · exact String.lt_trans hlt (hhead a ha)
    · split
      · rename_i heq
        subst heq
        exact hl
      · -- the key is above `k'`, which stays first
        rename_i hlt hne
        have hgt : k' < k := String.not_le.1 fun hle => hne (String.le_antisymm hle (String.not_lt.1 hlt))
        refine List.pairwise_cons.2 ⟨fun a ha => ?_, sorted_setEntry k v htail⟩
        rcases mem_keys_setEntry ha with rfl | ha
        · exact hgt
        · exact hhead a ha

/-- Set the value of a key. -/
def insert (a : Attributes) (k : String) (v : AttributeValue) : Attributes :=
  ⟨setEntry k v a.entries, sorted_setEntry k v a.sorted⟩

end Attributes

/-- Route data shared by every kind of route. -/
structure GenericRoute where
  startLink : String
  endLink : String
  distance : Float
  travelTime : Option Float

/-- A route along an explicit sequence of links. -/
structure NetworkRoute where
  generic : GenericRoute
  linkIds : List String

/-- A ride on a scheduled transit service. -/
structure PtRoute where
  generic : GenericRoute
  accessStopId : String
  egressStopId : String
  boardingTime : Option Float
  lineId : String
  routeId : String

/-- The route of a leg. -/
inductive Route where
  | generic (r : GenericRoute)
  | network (r : NetworkRoute)
  | pt (r : PtRoute)

/-- The data common to every kind of route. -/
def Route.common : Route → GenericRoute
  | .generic r => r
  | .network r => r.generic
  | .pt r => r.generic

/-- One movement of the traveller. -/
structure Leg where
  mode : String
  routingMode : Option String
  departureTime : Option Float
  travelTime : Option Float
  attributes : Attributes := .empty
  route : Route

/-- A stay at a location. -/
structure Activity where
  actType : String
  linkId : String
  coord : Coord
  startTime : Option Float := none
  endTime : Option Float := none
  maxDuration : Option Float := none

/-- A zero-length interaction activity, as placed around a transit ride. -/
def Activity.interaction (linkId : String) (coord : Coord) : Activity :=
  { actType := ptInteraction, linkId, coord, maxDuration := some 0 }

/-- An element of an itinerary. -/
inductive PlanElement where
  | activity (a : Activity)
  | leg (l : Leg)

end TransitRouting
