import TransitRouting.Proofs.Number.Infinities
import TransitRouting.Proofs.Geo.Distance
import TransitRouting.Router.Timetable

/-!
# Walking times

`collectWalks` fills a buffer, one slot per stop, with the walking time from a point to that
stop, or nothing: every time it holds is the time for the straight line from the point to the
stop of its slot (`collectWalks_entry`, `walkAt_collectWalks`).

The straight line from a finite point to a point with no NaN coordinate is a non-negative value,
perhaps infinite (`Coord.distance_nonneg`). Over such lengths a walking model with a finite speed
and a positive detour factor has two regimes (`walkTime_regimes`): with a speed other than zero
and a finite factor every time is a value of the speed's sign; with a zero speed or an infinite
factor every time is NaN or the infinity of the speed's sign.
-/

set_option autoImplicit false

namespace TransitRouting

open Binary64 Float.Model.UnpackedFloat

/-! ## Distances -/

/-- A point whose coordinates are not NaN. -/
def Coord.NotNaN (c : Coord) : Prop := isNaN c.x = false ∧ isNaN c.y = false

theorem exists_real_of_isFinite {x : Float} (h : isFinite x = true) :
    ∃ a : ℝ, toVal x = some (a : EReal) :=
  finiteForm_iff_toVal.1 (isFinite_iff.1 h)

/-- The straight line from a finite point to a point with no NaN coordinate has a non-negative
length, perhaps infinite. -/
theorem Coord.distance_nonneg {a b : Coord} (ha : a.isFinite = true) (hb : b.NotNaN) :
    ∃ d, toVal (a.distance b) = some d ∧ 0 ≤ d := by
  simp only [Coord.isFinite, Bool.and_eq_true] at ha
  obtain ⟨ax, hax⟩ := exists_real_of_isFinite ha.1
  obtain ⟨ay, hay⟩ := exists_real_of_isFinite ha.2
  exact hypot_nonneg (toVal_sub_ne_none_of_finite hax (toVal_ne_none_of_isNaN hb.1))
    (toVal_sub_ne_none_of_finite hay (toVal_ne_none_of_isNaN hb.2))

/-! ## The buffer of walking times -/

/-- The first stop of least distance is one of the stops looked at, or the best one before. -/
theorem nearestStop_mem : ∀ {k : Nat} {best : Option (Nat × Float)} {l : List Float} {i : Nat}
    {b : Float}, nearestStop k best l = some (i, b) → best = some (i, b) ∨ (k ≤ i ∧ l[i - k]? = some b)
  | _, _, [], _, _, h => .inl h
  | k, best, d :: rest, i, b, h => by
    simp only [nearestStop] at h
    rcases nearestStop_mem h with h' | ⟨hki, hget⟩
    · -- the best after the first stop is that stop or the best before it
      split at h'
      · obtain ⟨rfl, rfl⟩ := Prod.mk.inj (Option.some.inj h')
        exact .inr ⟨le_rfl, by simp⟩
      · split_ifs at h' with hd
        · obtain ⟨rfl, rfl⟩ := Prod.mk.inj (Option.some.inj h')
          exact .inr ⟨le_rfl, by simp⟩
        · exact .inl h'
    · refine .inr ⟨by omega, ?_⟩
      rw [show i - k = (i - (k + 1)) + 1 by omega, List.getElem?_cons_succ]
      exact hget

/-- Writing the times of `l` into a buffer keeps every time it holds one that `P` allows, when
`P` allows every time written. -/
theorem foldl_set_entries {P : Nat → Float → Prop} :
    ∀ {l : List (Option Float × Nat)} {buf : Array (Option Float)},
      (∀ j w, buf[j]? = some (some w) → P j w) → (∀ w i, (some w, i) ∈ l → P i w) →
      ∀ j w, (l.foldl (fun buf (w, i) => if w.isSome then buf.set! i w else buf) buf)[j]? =
        some (some w) → P j w
  | [], _, hbuf, _ => hbuf
  | (v, i) :: rest, buf, hbuf, hl => by
    refine foldl_set_entries (l := rest) ?_ (fun w i hw => hl w i (List.mem_cons_of_mem _ hw))
    intro j w hj
    dsimp only at hj
    split_ifs at hj with hv
    · -- the slot written now holds the time of the pair just read
      rw [Array.set!, Array.getElem?_setIfInBounds] at hj
      split_ifs at hj with hij
      · subst hij
        obtain rfl : v = some w := Option.some.inj hj
        exact hl w i List.mem_cons_self
      · exact hbuf j w hj
    · exact hbuf j w hj

/-- Every walking time in the buffer is the time for the straight line from the point to the
stop of its slot. -/
theorem collectWalks_entry {p : WalkParams} {stops : List Stop} {origin : Coord}
    {buffer : Array (Option Float)} {i : Nat} {w : Float}
    (h : (collectWalks p stops origin buffer)[i]? = some (some w)) :
    ∃ st, stops[i]? = some st ∧ w = p.walkTime (origin.distance st.coord) := by
  -- the blank buffer holds no time
  have hblank : ∀ (j : Nat) (w : Float), (buffer.shrink 0 ++ Array.replicate stops.length none)[j]? =
      some (some w) → ∃ st : Stop, stops[j]? = some st ∧
        w = p.walkTime (origin.distance st.coord) := by
    intro j w hj
    simp only [Array.getElem?_append, Array.size_shrink, Nat.zero_min, Nat.not_lt_zero,
      if_false, Nat.sub_zero, Array.getElem?_replicate] at hj
    split_ifs at hj
    · cases hj
  simp only [collectWalks] at h
  split_ifs at h
  · refine foldl_set_entries hblank ?_ i w h
    intro w j hw
    obtain ⟨-, hj, hv⟩ := List.mem_zipIdx hw
    simp only [Nat.sub_zero, List.getElem_map] at hv
    have hj' : j < stops.length := by simpa using hj
    have hst : stops[j]? = some stops[j] := List.getElem?_eq_getElem hj'
    split_ifs at hv
    · exact ⟨_, hst, Option.some.inj hv⟩
  · split at h
    · rename_i k b hnear
      rw [Array.set!, Array.getElem?_setIfInBounds] at h
      split_ifs at h with hki
      · subst hki
        obtain rfl := Option.some.inj (Option.some.inj h)
        rcases nearestStop_mem hnear with hnone | ⟨-, hb⟩
        · cases hnone
        · rw [Nat.sub_zero, List.getElem?_map, Option.map_eq_some_iff] at hb
          obtain ⟨st, hst, rfl⟩ := hb
          exact ⟨st, hst, rfl⟩
      · exact hblank i w h
    · exact hblank i w h

theorem walkAt_eq_some {walks : Array (Option Float)} {indices : List Nat} {pos : Nat}
    {w : Float} (h : walkAt walks indices pos = some w) :
    ∃ i, indices[pos]? = some i ∧ walks[i]? = some (some w) := by
  simp only [walkAt, Option.bind_eq_some_iff, Option.join_eq_some_iff] at h
  exact h

/-- A walking time read at a route position is the time for the straight line from the point
to the stop at that position. -/
theorem walkAt_collectWalks {p : WalkParams} {stops : List Stop} {origin : Coord}
    {buffer : Array (Option Float)} {indices : List Nat} {pos : Nat} {w : Float}
    (h : walkAt (collectWalks p stops origin buffer) indices pos = some w) :
    ∃ i st, indices[pos]? = some i ∧ stops[i]? = some st ∧
      w = p.walkTime (origin.distance st.coord) := by
  obtain ⟨i, hi, hw⟩ := walkAt_eq_some h
  obtain ⟨st, hst, rfl⟩ := collectWalks_entry hw
  exact ⟨i, st, hi, hst, rfl⟩

/-! ## Two regimes of walking times -/

theorem toVal_zero : toVal (0 : Float) = some ((0 : ℝ) : EReal) := by
  rw [show ((0 : ℝ) : EReal) = ((0 : ℕ) : EReal) by simp]
  exact toVal_ofNat (by norm_num)

/-- Over non-negative lengths, a model with a finite speed and a positive detour factor gives
times that are all of the speed's sign, when the speed is not zero and the factor finite; or
times that are each NaN or the infinity of the speed's sign. -/
theorem walkTime_regimes {p : WalkParams} (hspeed : isFinite p.speed = true)
    (hfactor : (0 : Float) < p.beelineFactor) :
    (∃ v : ℝ, v ≠ 0 ∧ toVal p.speed = some (v : EReal) ∧
      ∀ {b : Float} {d : EReal}, toVal b = some d → 0 ≤ d →
        ∃ w, toVal (p.walkTime b) = some w ∧ (0 < v → 0 ≤ w) ∧ (v < 0 → w ≤ 0)) ∨
    (∃ σ : Sign, ∀ {b : Float} {d : EReal}, toVal b = some d → 0 ≤ d →
      toVal (p.walkTime b) = none ∨ unpacked (p.walkTime b) = .infinity σ) := by
  obtain ⟨z, c, hz, hc, hzc⟩ := lt_iff.1 hfactor
  rw [toVal_zero, Option.some.injEq] at hz
  subst hz
  -- the speed is a signed zero or a finite double other than zero
  have hform := isFinite_iff.1 hspeed
  have hspeed_cases : ∃ σ : Sign, unpacked p.speed = .zero σ ∨
      ∃ m e h, unpacked p.speed = .finite σ m e h := by
    cases hu : unpacked p.speed with
    | zero σ => exact ⟨σ, .inl rfl⟩
    | finite σ m e h => exact ⟨σ, .inr ⟨m, e, h, rfl⟩⟩
    | _ => rw [hu] at hform; exact hform.elim
  obtain ⟨σ, hσ⟩ := hspeed_cases
  cases c with
  | bot => exact absurd hzc (by simp)
  | top =>
    -- an infinite detour factor: every length but zero walks for ever
    refine .inr ⟨σ, fun hb hd => ?_⟩
    exact div_of_inf_cases (mul_inf_cases hb hd (unpacked_of_toVal_top hc)) hσ
  | coe c =>
    have hc0 : 0 < c := EReal.coe_pos.1 hzc
    rcases hσ with hzero | ⟨m, e, h, hfin⟩
    · refine .inr ⟨σ, fun hb hd => ?_⟩
      obtain ⟨r, hr, hr0⟩ := toVal_mul_nonneg hb hd hc hc0
      exact div_zero_cases hr hr0 hzero
    · obtain ⟨v, hv⟩ := finiteForm_iff_toVal.1 hform
      have hv0 : v ≠ 0 := by
        obtain ⟨-, hval⟩ := finiteForm_of_toVal hv
        rw [hfin, value_finite] at hval
        have : (0 : ℝ) < m * 2 ^ e := mul_pos (by exact_mod_cast h) (two_zpow_pos e)
        cases σ <;> simp only [signed] at hval <;> intro hv0 <;> linarith
      refine .inl ⟨v, hv0, hv, fun hb hd => ?_⟩
      obtain ⟨r, hr, hr0⟩ := toVal_mul_nonneg hb hd hc hc0
      exact toVal_div_aligned hr hr0 hv hv0

end TransitRouting
