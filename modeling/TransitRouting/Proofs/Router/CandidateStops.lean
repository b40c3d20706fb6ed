import TransitRouting.Proofs.Scenario.Coordinates

/-!
# The candidate stops of a walk

Before a route is searched, `collectWalks` fills a buffer with the walking times from a point to
the stops that may start (or end) a ride: the stops within the search radius, or, when there is
none, the nearest stop alone. The distances are compared as doubles, and the nearest stop is kept
by a running strict minimum, so under ties the first one wins; a NaN radius admits no stop.

For distances that are not NaN the buffer is exactly this (`collectWalks_eq_mapIdx`): one slot
per stop, whatever the buffer held before; a slot holds the time to its stop when the stop is
within the radius, or when no stop is and the stop is the first of least distance
(`IsFirstLeast`); the other slots are empty. Some slot holds a time whenever there is a stop.
Distances from a finite point to the stops of a scenario read from JSON are never NaN, so this
holds of every scenario and every finite point (`collectWalks_candidates`).

## What this module delivers

- `Binary64.double_le_of_not_lt` and the other order facts of doubles that are not NaN.
- `IsFirstLeast ds i`: position `i` holds the first least of `ds`; it is unique.
- `nearestStop_eq_firstLeast`: the running strict minimum ends at the first least.
- `collectWalks_eq_mapIdx`, `collectWalks_exists_isSome` and `collectWalks_candidates`.
-/

set_option autoImplicit false

namespace TransitRouting.Binary64

/-! ## The order of doubles that are not NaN -/

section Order

variable {x y z : Float}

theorem double_le_refl (hx : toVal x ≠ none) : x ≤ x := by
  obtain ⟨a, ha⟩ := Option.ne_none_iff_exists'.1 hx
  exact (le_iff_of_toVal ha ha).2 le_rfl

theorem double_lt_of_lt_of_le (hxy : x < y) (hyz : y ≤ z) : x < z := by
  obtain ⟨a, b, ha, hb, hab⟩ := lt_iff.1 hxy
  obtain ⟨b', c, hb', hc, hbc⟩ := le_iff.1 hyz
  obtain rfl : b = b' := Option.some.inj (hb.symm.trans hb')
  exact (lt_iff_of_toVal ha hc).2 (hab.trans_le hbc)

theorem double_le_of_lt (h : x < y) : x ≤ y := by
  obtain ⟨a, b, ha, hb, hab⟩ := lt_iff.1 h
  exact (le_iff_of_toVal ha hb).2 hab.le

theorem double_not_le_of_lt (h : x < y) : ¬ y ≤ x := by
  obtain ⟨a, b, ha, hb, hab⟩ := lt_iff.1 h
  rw [le_iff_of_toVal hb ha]
  exact not_le.2 hab

/-- Between doubles that are not NaN, not being below is being at least. -/
theorem double_le_of_not_lt (hx : toVal x ≠ none) (hy : toVal y ≠ none) (h : ¬ x < y) :
    y ≤ x := by
  obtain ⟨a, ha⟩ := Option.ne_none_iff_exists'.1 hx
  obtain ⟨b, hb⟩ := Option.ne_none_iff_exists'.1 hy
  rw [lt_iff_of_toVal ha hb] at h
  exact (le_iff_of_toVal hb ha).2 (not_lt.1 h)

end Order

end TransitRouting.Binary64

namespace TransitRouting

open Binary64

/-! ## The nearest stop -/

/-- The first least of a list of doubles: at position `i`, no greater than any, and below every
one before it. -/
def IsFirstLeast (ds : List Float) (i : Nat) : Prop :=
  ∃ x, ds[i]? = some x ∧ (∀ y ∈ ds, x ≤ y) ∧ ∀ y ∈ ds.take i, x < y

instance (ds : List Float) (i : Nat) : Decidable (IsFirstLeast ds i) :=
  match h : ds[i]? with
  | some x => decidable_of_iff ((∀ y ∈ ds, x ≤ y) ∧ ∀ y ∈ ds.take i, x < y) (by simp [IsFirstLeast, h])
  | none => isFalse (by simp [IsFirstLeast, h])

/-- A list has one first least at most. -/
theorem IsFirstLeast.unique {ds : List Float} {i j : Nat} (hi : IsFirstLeast ds i)
    (hj : IsFirstLeast ds j) : i = j := by
  obtain ⟨x, hx, hxle, hxlt⟩ := hi
  obtain ⟨y, hy, hyle, hylt⟩ := hj
  -- an earlier first least would be strictly below the later one
  have hbefore : ∀ {i j : Nat} {x y : Float}, ds[i]? = some x → ds[j]? = some y → i < j →
      (∀ z ∈ ds, x ≤ z) → (∀ z ∈ ds.take j, y < z) → False := by
    intro i j x y hx hy hij hxle hylt
    have hxmem : x ∈ ds.take j := by
      rw [List.mem_iff_getElem?]
      exact ⟨i, by rw [List.getElem?_take, if_pos hij, hx]⟩
    exact double_not_le_of_lt (hylt x hxmem) (hxle y (List.mem_of_getElem? hy))
  rcases lt_trichotomy i j with hij | rfl | hji
  · exact (hbefore hx hy hij hxle hylt).elim
  · rfl
  · exact (hbefore hy hx hji hyle hxlt).elim

theorem IsFirstLeast.value {ds : List Float} {i : Nat} {x : Float} (h : IsFirstLeast ds i)
    (hx : ds[i]? = some x) : (∀ y ∈ ds, x ≤ y) ∧ ∀ y ∈ ds.take i, x < y := by
  obtain ⟨x', hx', hle, hlt⟩ := h
  obtain rfl : x = x' := Option.some.inj (hx.symm.trans hx')
  exact ⟨hle, hlt⟩

/-- A double below the first least becomes the first least. -/
theorem IsFirstLeast.append_lt {P : List Float} {j : Nat} {x d : Float} (hP : IsFirstLeast P j)
    (hx : P[j]? = some x) (hd : d < x) : IsFirstLeast (P ++ [d]) P.length := by
  obtain ⟨hle, -⟩ := hP.value hx
  obtain ⟨a, -, ha, -, -⟩ := lt_iff.1 hd
  refine ⟨d, by simp, fun y hy => ?_, fun y hy => ?_⟩
  · rcases List.mem_append.1 hy with hy | hy
    · exact double_le_of_lt (double_lt_of_lt_of_le hd (hle y hy))
    · obtain rfl := List.mem_singleton.1 hy
      exact double_le_refl (by simp [ha])
  · rw [List.take_left] at hy
    exact double_lt_of_lt_of_le hd (hle y hy)

/-- A double that is not NaN and not below the first least leaves it in place. -/
theorem IsFirstLeast.append_not_lt {P : List Float} {j : Nat} {x d : Float}
    (hP : IsFirstLeast P j) (hx : P[j]? = some x) (hd : ¬ d < x) (hdnan : toVal d ≠ none) :
    IsFirstLeast (P ++ [d]) j := by
  obtain ⟨hle, hlt⟩ := hP.value hx
  have hj : j < P.length := (List.getElem?_eq_some_iff.1 hx).1
  have hxnan : toVal x ≠ none := by
    obtain ⟨a, -, ha, -, -⟩ := le_iff.1 (hle x (List.mem_of_getElem? hx))
    simp [ha]
  refine ⟨x, by rw [List.getElem?_append_left hj, hx], fun y hy => ?_, ?_⟩
  · rcases List.mem_append.1 hy with hy | hy
    · exact hle y hy
    · obtain rfl := List.mem_singleton.1 hy
      exact double_le_of_not_lt hdnan hxnan hd
  · rwa [List.take_append_of_le_length hj.le]

/-- The running strict minimum keeps the first least of what it has seen. -/
theorem nearestStop_firstLeast : ∀ (P l : List Float) {j : Nat} {x : Float},
    (∀ y ∈ P ++ l, toVal y ≠ none) → P[j]? = some x → IsFirstLeast P j →
      ∃ m y, nearestStop P.length (some (j, x)) l = some (m, y) ∧ (P ++ l)[m]? = some y ∧
        IsFirstLeast (P ++ l) m
  | P, [], j, x, _, hx, hP => ⟨j, x, rfl, by simpa using hx, by simpa using hP⟩
  | P, d :: rest, j, x, hnan, hx, hP => by
    have hsplit : P ++ d :: rest = (P ++ [d]) ++ rest := by simp
    have hdnan : toVal d ≠ none := hnan d (by simp)
    simp only [nearestStop]
    rw [hsplit] at hnan ⊢
    by_cases hd : d < x
    · rw [if_pos hd]
      simpa using nearestStop_firstLeast (P ++ [d]) rest hnan (by simp) (hP.append_lt hx hd)
    · rw [if_neg hd]
      have hj : j < P.length := (List.getElem?_eq_some_iff.1 hx).1
      simpa using nearestStop_firstLeast (P ++ [d]) rest hnan
        (by rw [List.getElem?_append_left hj, hx]) (hP.append_not_lt hx hd hdnan)

/-! ## The buffer -/

/-- Writing the times that are there, slot by slot from the end of `pre`, into blank slots
writes the list itself. -/
theorem foldl_write_slots (l pre : List (Option Float)) :
    (l.zipIdx pre.length).foldl (fun buf (w, i) => if w.isSome then buf.set! i w else buf)
      (pre ++ List.replicate l.length none).toArray = (pre ++ l).toArray := by
  induction l generalizing pre with
  | nil => simp
  | cons w l ih =>
    -- the slot of `w` is blank, so leaving it or writing `w` into it come to the same
    have hstep : (if w.isSome then (pre ++ List.replicate (l.length + 1) none).toArray.set! pre.length w
        else (pre ++ List.replicate (l.length + 1) none).toArray) =
          (pre ++ [w] ++ List.replicate l.length none).toArray := by
      cases w <;> simp [Array.set!, List.replicate_succ]
    rw [List.zipIdx_cons, List.foldl_cons, List.length_cons]
    dsimp only
    rw [hstep, show pre.length + 1 = (pre ++ [w]).length by simp, ih]
    simp

/-- The buffer of walking times, as a list: the times within the radius when there are any,
else the time to the nearest stop alone. -/
theorem collectWalks_toList (p : WalkParams) (stops : List Stop) (origin : Coord)
    (buffer : Array (Option Float)) :
    (collectWalks p stops origin buffer).toList =
      let ds := stops.map fun s => origin.distance s.coord
      let within := ds.map fun b => if b ≤ p.searchRadius then some (p.walkTime b) else none
      if within.any Option.isSome then within
      else match nearestStop 0 none ds with
        | some (i, b) => (List.replicate stops.length none).set i (some (p.walkTime b))
        | none => List.replicate stops.length none := by
  have hblank : buffer.shrink 0 ++ Array.replicate stops.length none =
      ([] ++ List.replicate stops.length none).toArray := by
    apply Array.ext'
    simp
  simp only [collectWalks, hblank]
  split_ifs
  · have := foldl_write_slots ((stops.map fun s => origin.distance s.coord).map fun b =>
      if b ≤ p.searchRadius then some (p.walkTime b) else none) []
    simp only [List.length_map, List.length_nil, List.nil_append] at this ⊢
    rw [this]
  · -- the nearest stop alone is written into the blank buffer
    cases nearestStop 0 none (stops.map fun s => origin.distance s.coord) with
    | none => simp
    | some best => simp [Array.set!]

/-- Over distances that are not NaN, the first stop looked at is the nearest so far, and the
scan ends at the first least distance. -/
theorem nearestStop_eq_firstLeast {ds : List Float} (hnan : ∀ d ∈ ds, toVal d ≠ none)
    (hne : ds ≠ []) : ∃ m y, nearestStop 0 none ds = some (m, y) ∧ ds[m]? = some y ∧
      IsFirstLeast ds m := by
  obtain ⟨d, rest, rfl⟩ := List.exists_cons_of_ne_nil hne
  have hfirst : IsFirstLeast [d] 0 :=
    ⟨d, rfl, by simpa using double_le_refl (hnan d List.mem_cons_self), by simp⟩
  simpa [nearestStop] using nearestStop_firstLeast [d] rest (by simpa using hnan) rfl hfirst

/-- The buffer of walking times, slot by slot: the time to a stop exactly when the stop is
within the radius, or when no stop is and it is the first nearest one. -/
theorem collectWalks_eq_mapIdx (p : WalkParams) (stops : List Stop) (origin : Coord)
    (buffer : Array (Option Float))
    (hnan : ∀ s ∈ stops, toVal (origin.distance s.coord) ≠ none) :
    let ds := stops.map fun s => origin.distance s.coord
    (collectWalks p stops origin buffer).toList =
      ds.mapIdx fun i d =>
        if d ≤ p.searchRadius ∨ ((∀ e ∈ ds, ¬ e ≤ p.searchRadius) ∧ IsFirstLeast ds i)
        then some (p.walkTime d) else none := by
  intro ds
  rw [collectWalks_toList]
  dsimp only
  split_ifs with hany
  · -- some stop is within the radius, so the fallback never applies
    have hsome : ¬ ∀ e ∈ ds, ¬ e ≤ p.searchRadius := by
      intro hnone
      obtain ⟨w, hw, hws⟩ := List.any_eq_true.1 hany
      obtain ⟨b, hb, rfl⟩ := List.mem_map.1 hw
      split_ifs at hws with hbr
      · exact hnone b hb hbr
      · simp at hws
    apply List.ext_getElem (by simp [ds])
    intro i h₁ h₂
    have hnot : ¬ ((∀ e ∈ ds, ¬ e ≤ p.searchRadius) ∧ IsFirstLeast ds i) := fun h => hsome h.1
    simp only [List.getElem_mapIdx, or_iff_left hnot]
    simp [ds]
  · -- no stop is within the radius: the nearest one is the only candidate
    have hnone : ∀ e ∈ ds, ¬ e ≤ p.searchRadius := by
      intro e he hle
      refine hany (List.any_eq_true.2 ⟨some (p.walkTime e), List.mem_map.2 ⟨e, he, ?_⟩, rfl⟩)
      simp [hle]
    have hdsnan : ∀ d ∈ ds, toVal d ≠ none := by
      intro d hd
      obtain ⟨s, hs, rfl⟩ := List.mem_map.1 hd
      exact hnan s hs
    by_cases hne : stops = []
    · subst hne
      simp [ds, nearestStop]
    · obtain ⟨m, y, hnear, hy, hm⟩ := nearestStop_eq_firstLeast hdsnan (by simpa [ds] using hne)
      rw [hnear]
      dsimp only
      apply List.ext_getElem (by simp [ds])
      intro i h₁ h₂
      have hi : i < ds.length := by simpa using h₂
      have hmi : IsFirstLeast ds i ↔ m = i := ⟨hm.unique, fun h => h ▸ hm⟩
      have hfar : ¬ ds[i] ≤ p.searchRadius := hnone _ (List.getElem_mem hi)
      simp only [List.getElem_mapIdx, hfar, false_or, and_iff_right hnone, hmi, List.getElem_set,
        List.getElem_replicate]
      split_ifs with hmi'
      · subst hmi'
        rw [List.getElem?_eq_getElem hi, Option.some.injEq] at hy
        rw [hy]
      · rfl

/-- Over distances that are not NaN, some slot holds a time whenever there is a stop. -/
theorem collectWalks_exists_isSome (p : WalkParams) {stops : List Stop} {origin : Coord}
    (buffer : Array (Option Float))
    (hnan : ∀ s ∈ stops, toVal (origin.distance s.coord) ≠ none) (hne : stops ≠ []) :
    ∃ w ∈ (collectWalks p stops origin buffer).toList, w.isSome := by
  rw [collectWalks_toList]
  dsimp only
  split_ifs with hany
  · exact List.any_eq_true.1 hany
  · -- no stop is within the radius: the nearest one has a slot of its own
    have hdsnan : ∀ d ∈ stops.map (fun s => origin.distance s.coord), toVal d ≠ none := by
      intro d hd
      obtain ⟨s, hs, rfl⟩ := List.mem_map.1 hd
      exact hnan s hs
    obtain ⟨m, y, hnear, hy, -⟩ := nearestStop_eq_firstLeast hdsnan (by simpa using hne)
    have hm : m < stops.length := by simpa using (List.getElem?_eq_some_iff.1 hy).1
    rw [hnear]
    refine ⟨some (p.walkTime y), List.mem_iff_getElem?.2 ⟨m, ?_⟩, rfl⟩
    simp [hm]

/-- The distance from a finite point to a stop of a scenario read from JSON is not NaN. -/
theorem Scenario.distance_ne_nan {text : String} {f : ScenarioFile} {s : Scenario}
    (hf : ScenarioFile.parse text = .ok f) (hs : Scenario.ofFile f = .ok s) {origin : Coord}
    (horigin : origin.isFinite = true) :
    ∀ st ∈ s.stops, toVal (origin.distance st.coord) ≠ none := by
  intro st hst
  obtain ⟨d, hd, -⟩ := Coord.distance_nonneg horigin (Scenario.stops_notNaN_of_parse hf hs st hst)
  simp [hd]

/-- For a scenario read from JSON and checked, a finite point and any buffer, the buffer of
walking times has one slot per stop. A slot holds the walking time to its stop exactly when the
stop is within the search radius, or when no stop is and it is the first stop of least distance;
every other slot is empty. So some slot holds a time whenever the scenario has a stop. -/
theorem collectWalks_candidates (p : WalkParams) {text : String} {f : ScenarioFile}
    {s : Scenario} (hf : ScenarioFile.parse text = .ok f) (hs : Scenario.ofFile f = .ok s)
    (origin : Coord) (horigin : origin.isFinite = true) (buffer : Array (Option Float)) :
    let ds := s.stops.map fun st => origin.distance st.coord
    let walks := collectWalks p s.stops origin buffer
    walks.size = s.stops.length ∧
      walks.toList = ds.mapIdx (fun i d =>
        if d ≤ p.searchRadius ∨ ((∀ e ∈ ds, ¬ e ≤ p.searchRadius) ∧ IsFirstLeast ds i)
        then some (p.walkTime d) else none) ∧
      (s.stops ≠ [] → ∃ w ∈ walks.toList, w.isSome) := by
  intro ds walks
  have hnan := Scenario.distance_ne_nan hf hs horigin
  have hlist := collectWalks_eq_mapIdx p s.stops origin buffer hnan
  refine ⟨?_, hlist, collectWalks_exists_isSome p buffer hnan⟩
  rw [← Array.length_toList, hlist]
  simp

/-- A scenario of two stops on one link, both five kilometres from the origin and so beyond the
default search radius; the first point is written as an array, the second as an object. -/
def tiedFarStops : String :=
  "\x7b\"name\": \"t\", \"links\": [[\"l\", [0, 0], [1, 0]]], " ++
    "\"stops\": [[\"a\", \"l\", [3000, 4000]], [\"b\", \"l\", \x7b\"x\": -4000, \"y\": 3000\x7d]]\x7d"

/-- The two-stop scenario is read and checked, the origin is finite, and the walk from the origin
finds its candidate stops. -/
theorem collectWalks_candidates_tied_far_stops :
    (⟨0, 0⟩ : Coord).isFinite = true ∧
    match ScenarioFile.parse tiedFarStops with
    | .ok f =>
      match Scenario.ofFile f with
      | .ok s =>
        let ds := s.stops.map fun st => (⟨0, 0⟩ : Coord).distance st.coord
        let walks := collectWalks WalkParams.default s.stops ⟨0, 0⟩ #[]
        walks.size = s.stops.length ∧
          walks.toList = ds.mapIdx (fun i d =>
            if d ≤ WalkParams.default.searchRadius ∨
              ((∀ e ∈ ds, ¬ e ≤ WalkParams.default.searchRadius) ∧ IsFirstLeast ds i)
            then some (WalkParams.default.walkTime d) else none) ∧
          (s.stops ≠ [] → ∃ w ∈ walks.toList, w.isSome)
      | .error _ => False
    | .error _ => False := by
  have horigin : (⟨0, 0⟩ : Coord).isFinite = true := by decide +kernel
  have hread : (Scenario.ofJson tiedFarStops).toBool = true := by
    set_option maxRecDepth 100000 in decide +kernel
  refine ⟨horigin, ?_⟩
  split
  · next f hf =>
    split
    · next s hs => exact collectWalks_candidates WalkParams.default hf hs ⟨0, 0⟩ horigin #[]
    · next e hs => simp [Scenario.ofJson, hf, hs, Except.toBool] at hread
  · next e hf => simp [Scenario.ofJson, hf, Except.toBool] at hread

-- Of the two stops at the same distance beyond the radius, the first gets the only time.
set_option maxRecDepth 100000 in
example : ((Scenario.ofJson tiedFarStops).map fun s =>
    (collectWalks WalkParams.default s.stops ⟨0, 0⟩ #[]).toList.map Option.isSome) =
      .ok [true, false] := by
  decide +kernel

end TransitRouting
