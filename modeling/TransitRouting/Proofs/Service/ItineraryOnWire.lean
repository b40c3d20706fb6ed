import TransitRouting.Proofs.Service.RequestErrors
import TransitRouting.Proofs.Service.WholeSeconds

/-!
# Itineraries on the wire

An itinerary goes on the wire element by element, and the first element that cannot go fails
the whole itinerary. An activity always goes. A leg goes when it has a travel time, when each of
its attributes is a string, a double, a 32-bit integer or a boolean, and, for a transit leg,
when its route has a boarding time; it is checked in that order, the attributes in key order,
so a leg that breaks several rules fails on the first of them.

What goes on the wire keeps the itinerary's shape: as many elements, activities where there
were activities and legs where there were legs, each leg with its kind of route (a network
route with its links in order) and its attributes' keys and types. Every time becomes whole
seconds (`seconds_eq_wholeSeconds`).

The shape and the times are stated through two views of an element, one for each side:
`shape`, what the element is without its times, and `times`, its time fields in a fixed order.

## What this module delivers

- `mapM_eq_error_iff`, `exists_mapM_eq_ok_iff`, `map_eq_map_of_mapM_eq_ok`: a conversion of a
  list, element by element, in the error monad.
- `AttributeValue.sendable`; `RouteShape`, `ElementShape` with `shape` and `times` on both sides.
- `Leg.FailsWith`: the error a leg fails with, in the order its rules are checked.
- `legToWire_eq_error_iff`, `exists_legToWire_eq_ok_iff`: when a leg goes, and how it fails.
- `planToWire_converts`: when an itinerary goes, what it becomes, and how it fails.
-/

set_option autoImplicit false

namespace TransitRouting

/-! ## Lists converted element by element -/

section Traversal

variable {ε α β : Type} {f : α → Except ε β}

/-- A conversion of a list succeeds only if every element converts. -/
theorem forall_of_mapM_eq_ok :
    ∀ {l : List α} {ys : List β}, l.mapM f = .ok ys → ∀ x ∈ l, ∃ y, f x = .ok y
  | [], _, _, _, hx => nomatch hx
  | x :: xs, ys, h, x', hx' => by
    rw [List.mapM_cons] at h
    obtain ⟨y, hy, h⟩ := bind_eq_ok h
    obtain ⟨ys', hys', -⟩ := bind_eq_ok h
    rcases List.mem_cons.1 hx' with rfl | hx'
    · exact ⟨y, hy⟩
    · exact forall_of_mapM_eq_ok hys' x' hx'

/-- A conversion of a list succeeds exactly when every element converts. -/
theorem exists_mapM_eq_ok_iff {l : List α} :
    (∃ ys, l.mapM f = .ok ys) ↔ ∀ x ∈ l, ∃ y, f x = .ok y :=
  ⟨fun ⟨_, h⟩ => forall_of_mapM_eq_ok h, mapM_ok_of_forall⟩

/-- A view of the converted list is the list of the views of the elements, when the view of
each converted element is a view of its source. -/
theorem map_eq_map_of_mapM_eq_ok {γ : Type} {g : β → γ} {k : α → γ}
    (hview : ∀ x y, f x = .ok y → g y = k x) :
    ∀ {l : List α} {ys : List β}, l.mapM f = .ok ys → ys.map g = l.map k
  | [], ys, h => by
    cases h
    rfl
  | x :: xs, ys, h => by
    rw [List.mapM_cons] at h
    obtain ⟨y, hy, h⟩ := bind_eq_ok h
    obtain ⟨ys', hys', h⟩ := bind_eq_ok h
    cases h
    rw [List.map_cons, List.map_cons, hview x y hy, map_eq_map_of_mapM_eq_ok hview hys']

/-- Binding a success onto a converted tail fails exactly when the tail does. -/
theorem bind_cons_eq_error {y : β} {m : Except ε (List β)} {e : ε} :
    (m >>= fun ys => pure (y :: ys)) = .error e ↔ m = .error e := by
  cases m <;> simp [pure, Except.pure]

/-- A conversion of a list fails exactly with the error of its first element that fails: the
list is some elements that convert, then one that fails with that error, then anything. -/
theorem mapM_eq_error_iff {e : ε} :
    ∀ {l : List α}, l.mapM f = .error e ↔
      ∃ before x after, l = before ++ x :: after ∧ (∀ b ∈ before, ∃ y, f b = .ok y) ∧
        f x = .error e
  | [] => by
    simp only [List.mapM_nil, List.nil_eq_append_iff, reduceCtorEq, and_false, false_and,
      exists_false, iff_false]
    exact fun h => nomatch h
  | x :: xs => by
    rw [List.mapM_cons]
    cases hx : f x with
    | error e' =>
      -- the head fails, so it is the first failure
      simp only [Except.error_bind, Except.error.injEq]
      constructor
      · rintro rfl
        exact ⟨[], x, xs, rfl, by simp, hx⟩
      · rintro ⟨before, y, after, hsplit, hbefore, hy⟩
        cases before with
        | nil =>
          obtain ⟨rfl, rfl⟩ := List.cons.inj hsplit
          rw [hx] at hy
          exact Except.error.inj hy
        | cons b before =>
          obtain ⟨rfl, -⟩ := List.cons.inj hsplit
          obtain ⟨y', hy'⟩ := hbefore _ List.mem_cons_self
          rw [hx] at hy'
          cases hy'
    | ok y =>
      -- the head converts, so the first failure is the tail's
      simp only [Except.ok_bind, bind_cons_eq_error, mapM_eq_error_iff]
      constructor
      · rintro ⟨before, z, after, rfl, hbefore, hz⟩
        refine ⟨x :: before, z, after, rfl, fun b hb => ?_, hz⟩
        rcases List.mem_cons.1 hb with rfl | hb
        · exact ⟨y, hx⟩
        · exact hbefore b hb
      · rintro ⟨before, z, after, hsplit, hbefore, hz⟩
        cases before with
        | nil =>
          obtain ⟨rfl, rfl⟩ := List.cons.inj hsplit
          rw [hx] at hz
          cases hz
        | cons b before =>
          obtain ⟨rfl, rfl⟩ := List.cons.inj hsplit
          exact ⟨before, z, after, rfl, fun b' hb' => hbefore b' (List.mem_cons_of_mem _ hb'), hz⟩

end Traversal

/-! ## Views of an itinerary element -/

/-- The kind of a leg's route; a network route with its links. -/
inductive RouteShape where
  | generic
  | network (links : List String)
  | pt
deriving Repr, DecidableEq

/-- An itinerary element without its times: an activity, or a leg with the kind of its route
and the keys and type names of its attributes. -/
inductive ElementShape where
  | activity
  | leg (route : RouteShape) (attributes : List (String × String))
deriving Repr, DecidableEq

/-- Whether the wire can carry an attribute value: strings, doubles, 32-bit integers and
booleans. -/
def AttributeValue.sendable : AttributeValue → Bool
  | .string _ | .double _ | .int _ | .bool _ => true
  | .long _ | .coord _ => false

/-- The name of the type of an attribute value on the wire. -/
def Wire.AttributeValue.typeName : Wire.AttributeValue → String
  | .string _ => "string"
  | .double _ => "double"
  | .int _ => "int"
  | .bool _ => "bool"

/-- The kind of a route. -/
def Route.shape : Route → RouteShape
  | .generic _ => .generic
  | .network r => .network r.linkIds
  | .pt _ => .pt

/-- The kind of a route on the wire. -/
def Wire.LegRoute.shape : Wire.LegRoute → RouteShape
  | .generic _ => .generic
  | .network _ links => .network links
  | .pt _ _ => .pt

/-- The time fields of a route: its travel time, and for a transit route its boarding time. -/
def Route.times : Route → List (Option Float)
  | .generic r => [r.travelTime]
  | .network r => [r.generic.travelTime]
  | .pt r => [r.generic.travelTime, r.boardingTime]

/-- The time fields of a route on the wire, in the same order. -/
def Wire.LegRoute.times : Wire.LegRoute → List (Option Nat)
  | .generic r => [r.travTime]
  | .network d _ => [d.travTime]
  | .pt d info => [d.travTime, some info.boardingTime]

/-- The shape of an itinerary element. -/
def PlanElement.shape : PlanElement → ElementShape
  | .activity _ => .activity
  | .leg l => .leg l.route.shape (l.attributes.entries.map fun kv => (kv.1, kv.2.typeName))

/-- The shape of an element on the wire. -/
def Wire.PlanElement.shape : Wire.PlanElement → ElementShape
  | .activity _ => .activity
  | .leg l => .leg l.route.shape (l.attributes.map fun kv => (kv.1, kv.2.typeName))

/-- The time fields of an itinerary element: an activity's start, end and duration; a leg's
travel and departure times, then its route's. -/
def PlanElement.times : PlanElement → List (Option Float)
  | .activity a => [a.startTime, a.endTime, a.maxDuration]
  | .leg l => [l.travelTime, l.departureTime] ++ l.route.times

/-- The time fields of an element on the wire, in the same order. -/
def Wire.PlanElement.times : Wire.PlanElement → List (Option Nat)
  | .activity a => [a.startTime, a.endTime, a.maxDur]
  | .leg l => [some l.travTime, l.depTime] ++ l.route.times

/-! ## Attributes -/

/-- One attribute on the wire, with its key. -/
def attributeEntryToWire (kv : String × AttributeValue) :
    Except RouteError (String × Wire.AttributeValue) :=
  attributeToWire kv.1 kv.2 >>= fun w => pure (kv.1, w)

/-- An attribute goes on the wire exactly when the wire carries its type, keeping its key and
its type. -/
theorem attributeEntryToWire_eq_ok {kv : String × AttributeValue}
    {w : String × Wire.AttributeValue} (h : attributeEntryToWire kv = .ok w) :
    kv.2.sendable = true ∧ w.1 = kv.1 ∧ w.2.typeName = kv.2.typeName := by
  obtain ⟨k, v⟩ := kv
  cases v <;> cases h <;> exact ⟨rfl, rfl, rfl⟩

theorem exists_attributeEntryToWire_eq_ok {kv : String × AttributeValue}
    (h : kv.2.sendable = true) : ∃ w, attributeEntryToWire kv = .ok w := by
  obtain ⟨k, v⟩ := kv
  cases v <;> first | exact ⟨_, rfl⟩ | cases h

/-- An attribute the wire cannot carry fails with its key and type name. -/
theorem attributeEntryToWire_eq_error_iff {kv : String × AttributeValue} {e : RouteError} :
    attributeEntryToWire kv = .error e ↔
      kv.2.sendable = false ∧ e = .unsupportedAttribute kv.1 kv.2.typeName := by
  obtain ⟨k, v⟩ := kv
  cases v <;> simp [attributeEntryToWire, attributeToWire, AttributeValue.sendable, eq_comm]

section Attributes

variable {attrs : List (String × AttributeValue)}

/-- The attributes go on the wire exactly when the wire carries every one of them. -/
theorem exists_attributes_eq_ok_iff :
    (∃ ws, attrs.mapM attributeEntryToWire = .ok ws) ↔ ∀ kv ∈ attrs, kv.2.sendable = true := by
  rw [exists_mapM_eq_ok_iff]
  refine forall₂_congr fun kv _ => ⟨fun ⟨w, hw⟩ => ?_, exists_attributeEntryToWire_eq_ok⟩
  exact (attributeEntryToWire_eq_ok hw).1

/-- Attributes on the wire keep their keys and types, in order. -/
theorem attributes_view {ws : List (String × Wire.AttributeValue)}
    (h : attrs.mapM attributeEntryToWire = .ok ws) :
    ws.map (fun kv => (kv.1, kv.2.typeName)) = attrs.map (fun kv => (kv.1, kv.2.typeName)) := by
  refine map_eq_map_of_mapM_eq_ok (fun kv w hw => ?_) h
  obtain ⟨-, h1, h2⟩ := attributeEntryToWire_eq_ok hw
  rw [h1, h2]

/-- In a list of attributes with increasing keys, an attribute before another has the smaller
key. -/
theorem key_lt_of_sorted {before after : List (String × AttributeValue)}
    {x : String × AttributeValue}
    (hsorted : ((before ++ x :: after).map Prod.fst).Pairwise (· < ·)) :
    (∀ b ∈ before, b.1 < x.1) ∧ ∀ a ∈ after, x.1 < a.1 := by
  simp only [List.map_append, List.map_cons, List.pairwise_append, List.pairwise_cons,
    List.mem_map, List.mem_cons] at hsorted
  obtain ⟨-, ⟨hx, -⟩, hcross⟩ := hsorted
  exact ⟨fun b hb => hcross _ ⟨b, hb, rfl⟩ _ (.inl rfl), fun a ha => hx _ ⟨a, ha, rfl⟩⟩

/-- With keys in increasing order, the attributes fail exactly on the attribute of least key
among those the wire cannot carry. -/
theorem attributes_eq_error_iff (hsorted : (attrs.map Prod.fst).Pairwise (· < ·))
    {e : RouteError} :
    attrs.mapM attributeEntryToWire = .error e ↔
      ∃ k v, (k, v) ∈ attrs ∧ v.sendable = false ∧
        (∀ kv ∈ attrs, kv.2.sendable = false → k ≤ kv.1) ∧ e = .unsupportedAttribute k v.typeName := by
  rw [mapM_eq_error_iff]
  constructor
  · rintro ⟨before, ⟨k, v⟩, after, rfl, hbefore, hfail⟩
    obtain ⟨hv, rfl⟩ := attributeEntryToWire_eq_error_iff.1 hfail
    obtain ⟨-, hafter⟩ := key_lt_of_sorted hsorted
    refine ⟨k, v, by simp, hv, fun kv hkv hbad => ?_, rfl⟩
    -- every attribute before the failing one is carried; those after it have larger keys
    rcases List.mem_append.1 hkv with hkv | hkv
    · obtain ⟨w, hw⟩ := hbefore kv hkv
      rw [(attributeEntryToWire_eq_ok hw).1] at hbad
      cases hbad
    · rcases List.mem_cons.1 hkv with rfl | hkv
      · exact le_refl _
      · exact le_of_lt (hafter kv hkv)
  · rintro ⟨k, v, hmem, hv, hleast, rfl⟩
    obtain ⟨before, after, rfl⟩ := List.append_of_mem hmem
    obtain ⟨hbefore, -⟩ := key_lt_of_sorted hsorted
    refine ⟨before, (k, v), after, rfl, fun b hb => ?_, attributeEntryToWire_eq_error_iff.2 ⟨hv, rfl⟩⟩
    -- an earlier attribute has a smaller key, so the wire carries it
    apply exists_attributeEntryToWire_eq_ok
    by_contra hbad
    have hle := hleast b (List.mem_append_left _ hb) (by simpa using hbad)
    exact absurd (hbefore b hb) (not_lt_of_ge hle)

end Attributes

/-! ## Routes -/

/-- A route goes on the wire unless it is a transit route without a boarding time. -/
theorem routeToWire_eq_error_iff {r : Route} {e : RouteError} :
    routeToWire r = .error e ↔
      ∃ p, r = .pt p ∧ p.boardingTime = none ∧
        e = .missingBoardingTime p.accessStopId p.egressStopId := by
  cases r with
  | generic g => simp [routeToWire]
  | network n => simp [routeToWire]
  | pt p => cases hb : p.boardingTime <;> simp [routeToWire, hb, eq_comm]

/-- A route on the wire keeps its kind, a network route its links, and its times become whole
seconds. -/
theorem routeToWire_view {r : Route} {w : Wire.LegRoute} (h : routeToWire r = .ok w) :
    w.shape = r.shape ∧ w.times = r.times.map (Option.map seconds) := by
  cases r with
  | generic g =>
    cases h
    exact ⟨rfl, rfl⟩
  | network n =>
    cases h
    exact ⟨rfl, rfl⟩
  | pt p =>
    cases hb : p.boardingTime with
    | none => simp [routeToWire, hb] at h
    | some b =>
      simp only [routeToWire, hb, Except.ok.injEq] at h
      subst h
      simp [Wire.LegRoute.shape, Route.shape, Wire.LegRoute.times, Route.times, genericToWire, hb]

/-- A route goes on the wire exactly when a transit route has its boarding time. -/
theorem exists_routeToWire_eq_ok_iff {r : Route} :
    (∃ w, routeToWire r = .ok w) ↔ ∀ p, r = .pt p → p.boardingTime.isSome := by
  refine ⟨fun ⟨w, hw⟩ p hp => ?_, routeToWire_of_boarding⟩
  subst hp
  cases hb : p.boardingTime with
  | none => simp [routeToWire, hb] at hw
  | some b => rfl

/-! ## Legs -/

/-- The error a leg fails with, by the first rule it breaks: a missing travel time; else the
attribute of least key that the wire cannot carry; else, for a transit route, a missing
boarding time. -/
inductive Leg.FailsWith (l : Leg) : RouteError → Prop where
  | noTravelTime : l.travelTime = none → l.FailsWith (.missingTravelTime l.mode)
  | unsupportedAttribute (key : String) (v : AttributeValue) :
      l.travelTime.isSome → (key, v) ∈ l.attributes.entries → v.sendable = false →
      (∀ kv ∈ l.attributes.entries, kv.2.sendable = false → key ≤ kv.1) →
      l.FailsWith (.unsupportedAttribute key v.typeName)
  | noBoardingTime (r : PtRoute) :
      l.travelTime.isSome → (∀ kv ∈ l.attributes.entries, kv.2.sendable = true) → l.route = .pt r →
      r.boardingTime = none → l.FailsWith (.missingBoardingTime r.accessStopId r.egressStopId)

/-- A leg with a travel time goes on the wire as its attributes and then its route. -/
theorem legToWire_of_travelTime {l : Leg} {t : Float} (h : l.travelTime = some t) :
    legToWire l = (l.attributes.entries.mapM attributeEntryToWire >>= fun attributes =>
      routeToWire l.route >>= fun route =>
        .ok { mode := l.mode, routingMode := l.routingMode, travTime := seconds t,
              depTime := l.departureTime.map seconds, attributes, route }) := by
  unfold legToWire
  rw [h]
  rfl

/-- A leg without a travel time fails at once. -/
theorem legToWire_of_no_travelTime {l : Leg} (h : l.travelTime = none) :
    legToWire l = .error (.missingTravelTime l.mode) := by
  simp [legToWire, h]

/-- A leg goes on the wire exactly when it has a travel time, every attribute has a type the
wire carries, and a transit route has a boarding time. -/
theorem exists_legToWire_eq_ok_iff {l : Leg} :
    (∃ w, legToWire l = .ok w) ↔
      l.travelTime.isSome ∧ (∀ kv ∈ l.attributes.entries, kv.2.sendable = true) ∧
        ∀ r, l.route = .pt r → r.boardingTime.isSome := by
  cases ht : l.travelTime with
  | none => simp [legToWire_of_no_travelTime ht]
  | some t =>
    rw [legToWire_of_travelTime ht, ← exists_attributes_eq_ok_iff, ← exists_routeToWire_eq_ok_iff]
    constructor
    · rintro ⟨w, hw⟩
      obtain ⟨ws, hws, hw⟩ := bind_eq_ok hw
      obtain ⟨rw, hrw, -⟩ := bind_eq_ok hw
      exact ⟨rfl, ⟨ws, hws⟩, ⟨rw, hrw⟩⟩
    · rintro ⟨-, ⟨ws, hws⟩, ⟨rw, hrw⟩⟩
      rw [hws, hrw]
      exact ⟨_, rfl⟩

/-- Keys in increasing order do not repeat, so a key has one value. -/
theorem value_eq_of_sorted {attrs : List (String × AttributeValue)}
    (hsorted : (attrs.map Prod.fst).Pairwise (· < ·)) {k : String} {v v' : AttributeValue}
    (h : (k, v) ∈ attrs) (h' : (k, v') ∈ attrs) : v = v' :=
  (Prod.mk.inj (List.inj_on_of_nodup_map hsorted.nodup h h' rfl)).2

namespace Leg.FailsWith

variable {l : Leg} {e e' : RouteError}

/-- A leg that fails breaks one of the rules of legs the wire carries. -/
theorem not_sendable (h : l.FailsWith e) :
    ¬ (l.travelTime.isSome ∧ (∀ kv ∈ l.attributes.entries, kv.2.sendable = true) ∧
        ∀ r, l.route = .pt r → r.boardingTime.isSome) := by
  rintro ⟨hsome, hall, hboarding⟩
  cases h with
  | noTravelTime hnone => simp [hnone] at hsome
  | unsupportedAttribute _ _ _ hmem hv _ =>
    rw [hall _ hmem] at hv
    cases hv
  | noBoardingTime r _ _ hr hb => simpa [hb] using hboarding r hr

/-- A leg fails with one error at most: its attributes have each key once. -/
theorem unique (h : l.FailsWith e) (h' : l.FailsWith e') : e = e' := by
  cases h with
  | noTravelTime hnone =>
    cases h' with
    | noTravelTime _ => rfl
    | unsupportedAttribute _ _ hsome _ _ _ => simp [hnone] at hsome
    | noBoardingTime _ hsome _ _ _ => simp [hnone] at hsome
  | unsupportedAttribute k v hsome hmem hv hleast =>
    cases h' with
    | noTravelTime hnone => simp [hnone] at hsome
    | unsupportedAttribute k' v' _ hmem' hv' hleast' =>
      -- two least keys are one key, which has one value
      have hk : k = k' := le_antisymm (hleast _ hmem' hv') (hleast' _ hmem hv)
      subst hk
      rw [value_eq_of_sorted l.attributes.sorted hmem hmem']
    | noBoardingTime _ _ hall _ _ =>
      rw [hall _ hmem] at hv
      cases hv
  | noBoardingTime r _ hall hr _ =>
    cases h' with
    | noTravelTime hnone => simp_all
    | unsupportedAttribute _ _ _ hmem hv _ =>
      rw [hall _ hmem] at hv
      cases hv
    | noBoardingTime r' _ _ hr' _ =>
      rw [hr] at hr'
      cases hr'
      rfl

end Leg.FailsWith

/-- A leg that does not go on the wire fails as `Leg.FailsWith` says: on its travel time, else
on the least key of its attributes, which go in key order, else on its route. -/
theorem failsWith_of_legToWire {l : Leg} {e : RouteError} (h : legToWire l = .error e) :
    l.FailsWith e := by
  cases ht : l.travelTime with
  | none =>
    rw [legToWire_of_no_travelTime ht] at h
    cases h
    exact .noTravelTime ht
  | some t =>
    have hsome : l.travelTime.isSome := by simp [ht]
    rw [legToWire_of_travelTime ht] at h
    cases hattrs : l.attributes.entries.mapM attributeEntryToWire with
    | error e' =>
      rw [hattrs] at h
      cases h
      obtain ⟨k, v, hmem, hv, hleast, rfl⟩ := (attributes_eq_error_iff l.attributes.sorted).1 hattrs
      exact .unsupportedAttribute k v hsome hmem hv hleast
    | ok ws =>
      -- the attributes go, so the route failed
      have hall := exists_attributes_eq_ok_iff.1 ⟨ws, hattrs⟩
      rw [hattrs, Except.ok_bind] at h
      cases hroute : routeToWire l.route with
      | error e' =>
        rw [hroute] at h
        cases h
        obtain ⟨r, hr, hb, rfl⟩ := routeToWire_eq_error_iff.1 hroute
        exact .noBoardingTime r hsome hall hr hb
      | ok w =>
        rw [hroute] at h
        cases h

/-- A leg fails exactly as `Leg.FailsWith` says. -/
theorem legToWire_eq_error_iff {l : Leg} {e : RouteError} :
    legToWire l = .error e ↔ l.FailsWith e := by
  refine ⟨failsWith_of_legToWire, fun hf => ?_⟩
  cases hl : legToWire l with
  | error e' => rw [hf.unique (failsWith_of_legToWire hl)]
  | ok w => exact absurd (exists_legToWire_eq_ok_iff.1 ⟨w, hl⟩) hf.not_sendable

/-- A transit leg with a travel time, two points as attributes and no boarding time fails on the
attribute of least key. -/
example :
    legToWire ⟨"pt", none, none, some 60,
      (Attributes.empty.insert "egress" (.long 1)).insert "access" (.coord ⟨0, 0⟩),
      .pt ⟨⟨"a", "b", 0, none⟩, "1", "3", none, "L", "R"⟩⟩ =
      .error (.unsupportedAttribute "access" "coord") :=
  rfl

/-! ## Elements -/

/-- One element on the wire: an activity always goes, a leg as `legToWire` says. -/
def PlanElement.toWire : PlanElement → Except RouteError Wire.PlanElement
  | .activity a => .ok (.activity (activityToWire a))
  | .leg l => (legToWire l).map .leg

/-- An itinerary goes on the wire element by element. -/
theorem planToWire_eq_mapM (plan : List PlanElement) :
    planToWire plan = plan.mapM PlanElement.toWire :=
  rfl

/-- A leg goes on the wire as the leg it converts to. -/
theorem PlanElement.toWire_leg_eq_ok_iff {l : Leg} {y : Wire.PlanElement} :
    (PlanElement.leg l).toWire = .ok y ↔ ∃ w, legToWire l = .ok w ∧ y = .leg w := by
  cases hl : legToWire l <;> simp [PlanElement.toWire, Except.map, hl, eq_comm]

/-- An element on the wire keeps its shape, and its times become whole seconds. -/
theorem PlanElement.toWire_view {x : PlanElement} {y : Wire.PlanElement} (h : x.toWire = .ok y) :
    y.shape = x.shape ∧ y.times = x.times.map (Option.map seconds) := by
  cases x with
  | activity a =>
    cases h
    exact ⟨rfl, rfl⟩
  | leg l =>
    obtain ⟨w, hw, rfl⟩ := PlanElement.toWire_leg_eq_ok_iff.1 h
    cases ht : l.travelTime with
    | none => simp [legToWire_of_no_travelTime ht] at hw
    | some t =>
      rw [legToWire_of_travelTime ht] at hw
      obtain ⟨ws, hws, hw⟩ := bind_eq_ok hw
      obtain ⟨rw, hrw, hw⟩ := bind_eq_ok hw
      cases hw
      obtain ⟨hshape, htimes⟩ := routeToWire_view hrw
      refine ⟨?_, ?_⟩
      · simp only [Wire.PlanElement.shape, PlanElement.shape, hshape, attributes_view hws]
      · simp [Wire.PlanElement.times, PlanElement.times, htimes, ht]

/-- An element fails exactly when it is a leg that fails. -/
theorem PlanElement.toWire_eq_error_iff {x : PlanElement} {e : RouteError} :
    x.toWire = .error e ↔ ∃ l, x = .leg l ∧ l.FailsWith e := by
  cases x with
  | activity a => simp [PlanElement.toWire]
  | leg l =>
    simp only [PlanElement.leg.injEq, exists_eq_left']
    rw [← legToWire_eq_error_iff]
    cases h : legToWire l <;> simp [PlanElement.toWire, Except.map, h]

/-- An element goes exactly when, being a leg, it goes. -/
theorem PlanElement.exists_toWire_eq_ok_iff {x : PlanElement} :
    (∃ y, x.toWire = .ok y) ↔ ∀ l, x = .leg l → ∃ w, legToWire l = .ok w := by
  cases x with
  | activity a => simp [PlanElement.toWire]
  | leg l =>
    simp only [PlanElement.leg.injEq, forall_eq', PlanElement.toWire_leg_eq_ok_iff]
    constructor
    · rintro ⟨y, w, hw, -⟩
      exact ⟨w, hw⟩
    · rintro ⟨w, hw⟩
      exact ⟨.leg w, w, hw, rfl⟩

/-- An itinerary goes on the wire exactly when each of its elements does. -/
theorem exists_planToWire_eq_ok_iff {plan : List PlanElement} :
    (∃ q, planToWire plan = .ok q) ↔ ∀ x ∈ plan, ∃ y, x.toWire = .ok y := by
  rw [planToWire_eq_mapM, exists_mapM_eq_ok_iff]

/-! ## Itineraries -/

/-- An itinerary goes on the wire exactly when every leg has a travel time, every attribute is a string, a double, a 32-bit
integer or a boolean, and every transit route has a boarding time. Then it keeps its length and
the shape of every element (activities and legs in place, each leg's kind of route, a network
route's links in order, and the keys and types of its attributes), and each time field becomes
its whole seconds: the saturating truncation of its value. Otherwise it fails with the error of
its first leg that fails, after elements that all go: a missing travel time first, then the
unsupported attribute of least key, then a missing boarding time. -/
theorem planToWire_converts (plan : List PlanElement) :
    ((∃ q, planToWire plan = .ok q) ↔
      ∀ l, .leg l ∈ plan → l.travelTime.isSome ∧
        (∀ kv ∈ l.attributes.entries, kv.2.sendable = true) ∧
        ∀ r, l.route = .pt r → r.boardingTime.isSome) ∧
    (∀ q, planToWire plan = .ok q →
      q.length = plan.length ∧ q.map Wire.PlanElement.shape = plan.map PlanElement.shape ∧
        q.map Wire.PlanElement.times = plan.map fun x => x.times.map (Option.map seconds)) ∧
    (∀ t, seconds t = wholeSeconds (Binary64.toVal t)) ∧
    (∀ e, planToWire plan = .error e ↔
      ∃ before l after, plan = before ++ .leg l :: after ∧ (∃ q, planToWire before = .ok q) ∧
        l.FailsWith e) := by
  refine ⟨?_, fun q hq => ?_, seconds_eq_wholeSeconds, fun e => ?_⟩
  · -- every element goes exactly when every leg does
    simp only [exists_planToWire_eq_ok_iff, PlanElement.exists_toWire_eq_ok_iff,
      exists_legToWire_eq_ok_iff]
    constructor
    · intro h l hl
      exact h _ hl l rfl
    · rintro h x hx l rfl
      exact h l hx
  · rw [planToWire_eq_mapM] at hq
    have hshape := map_eq_map_of_mapM_eq_ok (fun x y h => (PlanElement.toWire_view h).1) hq
    have htimes := map_eq_map_of_mapM_eq_ok (fun x y h => (PlanElement.toWire_view h).2) hq
    refine ⟨?_, hshape, htimes⟩
    simpa using congrArg List.length hshape
  · rw [planToWire_eq_mapM, mapM_eq_error_iff]
    constructor
    · rintro ⟨before, x, after, rfl, hbefore, hx⟩
      obtain ⟨l, rfl, hl⟩ := PlanElement.toWire_eq_error_iff.1 hx
      exact ⟨before, l, after, rfl, exists_planToWire_eq_ok_iff.2 hbefore, hl⟩
    · rintro ⟨before, l, after, rfl, hprefix, hl⟩
      refine ⟨before, .leg l, after, rfl, exists_planToWire_eq_ok_iff.1 hprefix, ?_⟩
      exact PlanElement.toWire_eq_error_iff.2 ⟨l, rfl, hl⟩

/-- A walk that carries a point as its `origin` attribute fails on it, as the law says. -/
theorem planToWire_converts_point_attribute :
    let plan := [PlanElement.leg ⟨"walk", none, none, some 60,
      Attributes.empty.insert "origin" (.coord ⟨0, 0⟩), .generic ⟨"a", "b", 0, none⟩⟩]
    planToWire plan = .error (.unsupportedAttribute "origin" "coord") ∧
    ((∃ q, planToWire plan = .ok q) ↔
      ∀ l, .leg l ∈ plan → l.travelTime.isSome ∧
        (∀ kv ∈ l.attributes.entries, kv.2.sendable = true) ∧
          ∀ r, l.route = .pt r → r.boardingTime.isSome) ∧
    (∀ q, planToWire plan = .ok q →
      q.length = plan.length ∧ q.map Wire.PlanElement.shape = plan.map PlanElement.shape ∧
        q.map Wire.PlanElement.times = plan.map fun x => x.times.map (Option.map seconds)) ∧
    (∀ t, seconds t = wholeSeconds (Binary64.toVal t)) ∧
    (∀ e, planToWire plan = .error e ↔
      ∃ before l after, plan = before ++ .leg l :: after ∧ (∃ q, planToWire before = .ok q) ∧
        l.FailsWith e) :=
  ⟨rfl, planToWire_converts _⟩

end TransitRouting
