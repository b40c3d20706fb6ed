import TransitRouting.Proofs.Number.Infinities
import TransitRouting.Proofs.Scenario.Schedule

/-!
# The first vehicle that can be caught

On a sorted array the binary search `partitionPoint` finds the first index where a predicate
that holds on a prefix fails (`partitionPoint_spec`). Departures converted to doubles keep their
order, whatever their size (`ofNat_lt_of_le`), so on a sorted schedule "before `t`" holds on a
prefix. `nextDeparture t` is then the first departure of the schedule that is not before `t` as
doubles: the same as a scan from the front (`nextDeparture_eq_find?`), the least departure at or
after `t` when `t` is a number (`nextDeparture_eq_some_iff`), the first departure when `t` is
NaN, which nothing is before, and none exactly when every departure is before `t`
(`nextDeparture_eq_none_iff`). Every route of a checked scenario has a sorted schedule, so all of
this holds there (`Scenario.ofFile_nextDeparture_first`).

The router asks for the first departure not before `ready - offset`, rounded, where `ready` is
the time the traveller reaches the stop and `offset` the time the vehicle takes from the first
stop. That rounding loses no vehicle and gains none (`not_lt_sub_iff`): a departure `D` is not
before the rounded difference exactly when `D + offset` is not before `ready`. When `ready` has
a fractional part the difference is exact; when it is an integer, so is the difference.
-/

set_option autoImplicit false

namespace TransitRouting

open Binary64

/-! ## Binary search -/

/-- On a predicate that holds on a prefix of `[lo, hi)`, the binary search returns the first
index of the range where it fails, or `hi`. -/
theorem partitionPoint_spec (a : Array Nat) (p : Nat → Bool) (lo hi : Nat)
    (hlead : ∀ i j, lo ≤ i → i ≤ j → j < hi → p (a.getD j 0) = true → p (a.getD i 0) = true) :
    lo ≤ partitionPoint a p lo hi ∧ (lo ≤ hi → partitionPoint a p lo hi ≤ hi) ∧
      (∀ i, lo ≤ i → i < partitionPoint a p lo hi → p (a.getD i 0) = true) ∧
      (∀ i, partitionPoint a p lo hi ≤ i → i < hi → p (a.getD i 0) = false) := by
  fun_induction partitionPoint a p lo hi with
  | case1 lo hi hlt mid hmid ih =>
    -- the predicate holds at the middle, so on all of its left
    obtain ⟨hlo, hle, htrue, hfalse⟩ :=
      ih fun i j hi hij hj => hlead i j (by omega) hij hj
    refine ⟨by omega, fun _ => hle (by omega), fun i hi hir => ?_, hfalse⟩
    by_cases him : i ≤ mid
    · exact hlead i mid hi him (by omega) hmid
    · exact htrue i (by omega) hir
  | case2 lo hi hlt mid hmid ih =>
    -- the predicate fails at the middle, so on all of its right
    obtain ⟨hlo, hle, htrue, hfalse⟩ :=
      ih fun i j hi hij hj => hlead i j hi hij (by omega)
    refine ⟨hlo, fun _ => by omega, htrue, fun i hri hi => ?_⟩
    by_cases him : i < mid
    · exact hfalse i hri him
    · exact Bool.eq_false_iff.2 fun hpi => hmid (hlead mid i (by omega) (by omega) hi hpi)
  | case3 lo hi hge =>
    exact ⟨le_rfl, fun h => h, fun i hi hir => absurd hir (by omega),
      fun i hri hi => absurd hi (by omega)⟩

/-! ## The first departure not before a time -/

theorem toVal_ofNat_real {n : ℕ} (hn : n < 2 ^ 53) :
    toVal (Float.ofNat n) = some ((n : ℝ) : EReal) := by
  rw [toVal_ofNat hn]
  simp

/-- Departures keep their order as doubles: one before a time leaves every earlier one before it
too. -/
theorem ofNat_lt_of_le {d d' : Nat} {t : Float} (hdd : d ≤ d') (h : Float.ofNat d' < t) :
    Float.ofNat d < t := by
  obtain ⟨a, b, ha, hb, hab⟩ := lt_iff.1 h
  rw [toVal_ofNat_roundExt, Option.some.injEq] at ha
  subst ha
  rw [lt_iff_of_toVal (toVal_ofNat_roundExt d) hb]
  exact lt_of_le_of_lt (roundExt_mono (by exact_mod_cast hdd)) hab

/-- Nothing is before NaN. -/
theorem not_ofNat_lt_of_isNaN {t : Float} (ht : isNaN t = true) (d : Nat) :
    ¬ Float.ofNat d < t := by
  rw [lt_iff]
  rintro ⟨a, b, -, hb, -⟩
  rw [toVal_eq_none_iff.2 (isNaN_iff.1 ht)] at hb
  cases hb

/-- Before a number `t`, not being before it is being at or after it. -/
theorem not_ofNat_lt_iff {t : Float} (ht : isNaN t = false) (d : Nat) :
    ¬ Float.ofNat d < t ↔ t ≤ Float.ofNat d := by
  obtain ⟨b, hb⟩ := Option.ne_none_iff_exists'.1 (toVal_ne_none_of_isNaN ht)
  rw [lt_iff_of_toVal (toVal_ofNat_roundExt d) hb, le_iff_of_toVal hb (toVal_ofNat_roundExt d),
    not_lt]

section NextDeparture

variable {r : TransitRoute} {t : Float}

theorem TransitRoute.schedule_le (hsorted : r.schedule.toList.Pairwise (· ≤ ·)) {i j : Nat}
    (hij : i ≤ j) (hj : j < r.schedule.size) :
    r.schedule[i] ≤ r.schedule[j] := by
  rcases hij.eq_or_lt with rfl | hlt
  · exact le_rfl
  · have := List.pairwise_iff_getElem.1 hsorted i j (by simpa using hlt.trans hj)
      (by simpa using hj) hlt
    simpa only [Array.getElem_toList] using this

/-- What the search of `nextDeparture` returns on a sorted schedule: every departure at an
earlier index is before `t`, none from it on is. -/
theorem TransitRoute.partitionPoint_spec (hsorted : r.schedule.toList.Pairwise (· ≤ ·)) :
    let k := partitionPoint r.schedule (fun d => Float.ofNat d < t) 0 r.schedule.size
    k ≤ r.schedule.size ∧
      (∀ i (hi : i < r.schedule.size), i < k → Float.ofNat r.schedule[i] < t) ∧
      ∀ i (hi : i < r.schedule.size), k ≤ i → ¬ Float.ofNat r.schedule[i] < t := by
  have hget : ∀ i (hi : i < r.schedule.size), r.schedule.getD i 0 = r.schedule[i] := by
    intro i hi
    rw [Array.getD_eq_getD_getElem?, Array.getElem?_eq_getElem hi, Option.getD_some]
  have hspec := TransitRouting.partitionPoint_spec r.schedule (fun d => decide (Float.ofNat d < t))
    0 r.schedule.size fun i j _ hij hj hpj => by
      simp only [decide_eq_true_eq, hget j hj, hget i (by omega)] at hpj ⊢
      exact ofNat_lt_of_le (TransitRoute.schedule_le hsorted hij hj) hpj
  obtain ⟨-, hle, htrue, hfalse⟩ := hspec
  refine ⟨hle (Nat.zero_le _), fun i hi hik => ?_, fun i hi hki => ?_⟩
  · simpa [hget i hi] using htrue i (Nat.zero_le _) hik
  · simpa [hget i hi] using hfalse i hki hi

/-- On a sorted schedule the binary search finds what a scan from the front finds: the first
departure that is not before `t`. -/
theorem TransitRoute.nextDeparture_eq_find? (hsorted : r.schedule.toList.Pairwise (· ≤ ·)) :
    r.nextDeparture t = r.schedule.toList.find? (fun d => !(Float.ofNat d < t)) := by
  obtain ⟨hle, hbefore, hafter⟩ := TransitRoute.partitionPoint_spec (t := t) hsorted
  set k := partitionPoint r.schedule (fun d => Float.ofNat d < t) 0 r.schedule.size with hk
  simp only [TransitRoute.nextDeparture, ← hk]
  rcases hle.lt_or_eq with hks | hks
  · -- the departure at the index found is the first one not before `t`
    rw [Array.getElem?_eq_getElem hks, eq_comm, List.find?_eq_some_iff_getElem]
    refine ⟨by simpa using hafter k hks le_rfl, k, by simpa using hks, by simp, fun j hj => ?_⟩
    simpa using hbefore j (by omega) hj
  · -- every departure is before `t`
    rw [Array.getElem?_eq_none (by omega), eq_comm, List.find?_eq_none]
    intro d hd
    obtain ⟨j, hj, rfl⟩ := List.getElem_of_mem hd
    simpa using hbefore j (by simpa using hj) (by simpa [hks] using hj)

/-- The next departure is the least departure of the schedule that is not before `t`. -/
theorem TransitRoute.nextDeparture_eq_some_iff (hsorted : r.schedule.toList.Pairwise (· ≤ ·))
    {vd : Nat} :
    r.nextDeparture t = some vd ↔
      vd ∈ r.schedule ∧ ¬ Float.ofNat vd < t ∧
        ∀ d ∈ r.schedule, ¬ Float.ofNat d < t → vd ≤ d := by
  obtain ⟨hle, hbefore, hafter⟩ := TransitRoute.partitionPoint_spec (t := t) hsorted
  set k := partitionPoint r.schedule (fun d => Float.ofNat d < t) 0 r.schedule.size with hk
  -- a departure not before `t` sits at or after the index found
  have hleast : ∀ j (hj : j < r.schedule.size), ¬ Float.ofNat r.schedule[j] < t → k ≤ j := by
    intro j hj hnot
    by_contra hjk
    exact hnot (hbefore j hj (by omega))
  simp only [TransitRoute.nextDeparture, ← hk]
  constructor
  · intro h
    obtain ⟨hks, rfl⟩ := Array.getElem?_eq_some_iff.1 h
    refine ⟨Array.getElem_mem hks, hafter k hks le_rfl, fun d hd hnot => ?_⟩
    obtain ⟨j, hj, rfl⟩ := Array.mem_iff_getElem.1 hd
    exact TransitRoute.schedule_le hsorted (hleast j hj hnot) hj
  · rintro ⟨hmem, hnot, hmin⟩
    obtain ⟨j, hj, rfl⟩ := Array.mem_iff_getElem.1 hmem
    have hkj := hleast j hj hnot
    have hks : k < r.schedule.size := lt_of_le_of_lt hkj hj
    rw [Array.getElem?_eq_getElem hks, Option.some.injEq]
    -- the departure at the index found is not before `t`, and no later than the one given
    have h1 := hmin _ (Array.getElem_mem hks) (hafter k hks le_rfl)
    have h2 := TransitRoute.schedule_le hsorted hkj hj
    omega

/-- There is no next departure exactly when every departure is before `t`. -/
theorem TransitRoute.nextDeparture_eq_none_iff (hsorted : r.schedule.toList.Pairwise (· ≤ ·)) :
    r.nextDeparture t = none ↔ ∀ d ∈ r.schedule, Float.ofNat d < t := by
  rw [TransitRoute.nextDeparture_eq_find? hsorted, List.find?_eq_none]
  simp

end NextDeparture

/-- On every route of a checked scenario and at every time `t`, NaN and the infinities
included, the next departure is the first departure of the schedule that is not before `t` as
doubles. It is none exactly when every departure is before `t`; for NaN, which no departure is
before, it is the first departure; for any other `t` it is the least departure at or after
`t`. -/
theorem Scenario.ofFile_nextDeparture_first {f : ScenarioFile} {s : Scenario}
    (h : Scenario.ofFile f = .ok s) :
    ∀ line ∈ s.lines, ∀ route ∈ line.routes, ∀ t : Float,
      route.nextDeparture t = route.schedule.toList.find? (fun d => !(Float.ofNat d < t)) ∧
      (route.nextDeparture t = none ↔ ∀ d ∈ route.schedule, Float.ofNat d < t) ∧
      (isNaN t = true → route.nextDeparture t = route.schedule[0]?) ∧
      (isNaN t = false → ∀ d, route.nextDeparture t = some d ↔
        d ∈ route.schedule ∧ t ≤ Float.ofNat d ∧
          ∀ d' ∈ route.schedule, t ≤ Float.ofNat d' → d ≤ d') := by
  intro line hline route hroute t
  have hsorted : route.schedule.toList.Pairwise (· ≤ ·) := by
    rw [Scenario.ofFile_schedule_eq h line hline route hroute]
    exact (expandSchedule_pairwise_lt _ _).imp le_of_lt
  refine ⟨TransitRoute.nextDeparture_eq_find? hsorted,
    TransitRoute.nextDeparture_eq_none_iff hsorted, fun hnan => ?_, fun hnum d => ?_⟩
  · -- no departure is before NaN, so the scan stops at the first one
    rw [TransitRoute.nextDeparture_eq_find? hsorted, ← Array.getElem?_toList]
    cases hl : route.schedule.toList with
    | nil => rfl
    | cons d rest =>
      rw [List.find?_cons_of_pos (by simpa using not_ofNat_lt_of_isNaN hnan d)]
      rfl
  · rw [TransitRoute.nextDeparture_eq_some_iff hsorted, not_ofNat_lt_iff hnum]
    simp only [not_ofNat_lt_iff hnum]

/-- A route leaving at 3600 and 100 and every 500 seconds from 1000 to 2000. -/
theorem Scenario.ofFile_nextDeparture_first_headway :
    Scenario.ofFile ⟨"x", [⟨"a", ⟨0, 0⟩, ⟨1, 0⟩, none⟩], [⟨"s", "a", ⟨0, 0⟩⟩, ⟨"t", "a", ⟨1, 0⟩⟩],
        [⟨"l", [{ id := "r", stops := [⟨"s", 0, 0⟩, ⟨"t", 60, 60⟩], departures := [3600, 100],
                  headway := some ⟨1000, 2000, 500⟩ }]⟩]⟩ =
      .ok ⟨"x", [⟨"a", ⟨0, 0⟩, ⟨1, 0⟩, none⟩], ⟨[("a", 0)]⟩,
        [⟨"s", "a", ⟨0, 0⟩⟩, ⟨"t", "a", ⟨1, 0⟩⟩],
        [⟨"l", [{ id := "r", stops := [⟨"s", 0, 0⟩, ⟨"t", 60, 60⟩], departures := [3600, 100],
                  headway := some ⟨1000, 2000, 500⟩, stopIndices := [0, 1],
                  schedule := expandSchedule [3600, 100] (some ⟨1000, 2000, 500⟩) }]⟩]⟩ ∧
    ∀ line ∈ [(⟨"l", [{ id := "r", stops := [⟨"s", 0, 0⟩, ⟨"t", 60, 60⟩],
                        departures := [3600, 100], headway := some ⟨1000, 2000, 500⟩,
                        stopIndices := [0, 1],
                        schedule := expandSchedule [3600, 100] (some ⟨1000, 2000, 500⟩) }]⟩ :
                TransitLine)],
      ∀ route ∈ line.routes, ∀ t : Float,
        route.nextDeparture t = route.schedule.toList.find? (fun d => !(Float.ofNat d < t)) ∧
        (route.nextDeparture t = none ↔ ∀ d ∈ route.schedule, Float.ofNat d < t) ∧
        (isNaN t = true → route.nextDeparture t = route.schedule[0]?) ∧
        (isNaN t = false → ∀ d, route.nextDeparture t = some d ↔
          d ∈ route.schedule ∧ t ≤ Float.ofNat d ∧
            ∀ d' ∈ route.schedule, t ≤ Float.ofNat d' → d ≤ d') := by
  refine ⟨?checked, Scenario.ofFile_nextDeparture_first ?checked⟩
  rfl

/-! ## Catching a vehicle -/

/-- Between a natural number `D` and a double `r` above `D + O` lies a double above `D` and at
most `r - O`: the difference itself when `r` has a fractional part, `D + 1` when `r` is an
integer. -/
theorem exists_onGrid_between {r : ℝ} {D O : ℕ} (hr : OnGrid r) (hD : D < 2 ^ 52)
    (h : (D : ℝ) + O < r) : ∃ g, OnGrid g ∧ (D : ℝ) < g ∧ g ≤ r - O := by
  obtain ⟨k, t, hk, ht, rfl⟩ := hr
  rcases lt_or_ge t 0 with htneg | htpos
  · -- a fractional grid: the difference is on it, with a smaller significand
    obtain ⟨m, rfl⟩ : ∃ m : ℕ, t = -(m : ℤ) := ⟨(-t).toNat, by omega⟩
    have hpow : (2 : ℝ) ^ (-(m : ℤ)) * 2 ^ m = 1 := by
      rw [zpow_neg, zpow_natCast, inv_mul_cancel₀ (by positivity)]
    have hmul : ((k - O * 2 ^ m : ℤ) : ℝ) * 2 ^ (-(m : ℤ)) = k * 2 ^ (-(m : ℤ)) - O := by
      push_cast
      linear_combination (-(O : ℝ)) * hpow
    refine ⟨((k - O * 2 ^ m : ℤ) : ℝ) * 2 ^ (-(m : ℤ)), ⟨k - O * 2 ^ m, -(m : ℤ), ?_, ht, rfl⟩,
      by rw [hmul]; linarith, hmul.le⟩
    have hpos : (0 : ℝ) < (k - O * 2 ^ m : ℤ) := by
      have h0 : (0 : ℝ) < ((k - O * 2 ^ m : ℤ) : ℝ) * 2 ^ (-(m : ℤ)) := by
        rw [hmul]; have : (0 : ℝ) ≤ D := Nat.cast_nonneg D; linarith
      exact pos_of_mul_pos_left h0 (two_zpow_pos _).le
    have hOm : (0 : ℤ) ≤ O * 2 ^ m := by positivity
    rw [abs_of_pos (by exact_mod_cast hpos)]
    have := le_abs_self k
    omega
  · -- an integer: so is the difference, which is then at least `D + 1`
    obtain ⟨m, rfl⟩ : ∃ m : ℕ, t = (m : ℤ) := ⟨t.toNat, by omega⟩
    have hint : (k : ℝ) * 2 ^ (m : ℤ) = ((k * 2 ^ m : ℤ) : ℝ) := by push_cast; rfl
    rw [hint] at h ⊢
    have hlt : (D : ℤ) + O < k * 2 ^ m := by exact_mod_cast h
    refine ⟨(D : ℝ) + 1, ⟨D + 1, 0, ?_, by norm_num, by push_cast; ring⟩, by linarith, ?_⟩
    · rw [abs_of_pos (by positivity)]
      omega
    · have : (D : ℤ) + 1 ≤ k * 2 ^ m - O := by omega
      have : ((D : ℤ) + 1 : ℝ) ≤ ((k * 2 ^ m - O : ℤ) : ℝ) := by exact_mod_cast this
      push_cast at this ⊢
      linarith

/-- A natural number below `2^52` plus another is exact. -/
theorem toVal_ofNat_add_ofNat {a b : ℕ} (ha : a < 2 ^ 52) (hb : b < 2 ^ 52) :
    toVal (Float.ofNat a + Float.ofNat b) = some (((a : ℝ) + b : ℝ) : EReal) := by
  rw [toVal_add (toVal_ofNat_real (by omega)) (toVal_ofNat_real (by omega))]
  congr 1
  have hlt : ((a + b : ℕ) : ℝ) < 2 ^ 53 := by exact_mod_cast (show a + b < 2 ^ 53 by omega)
  refine roundExt_eq_self ⟨a + b, 0, ?_, le_of_lt (by norm_num), by push_cast; ring⟩ ?_
  · rw [abs_of_nonneg (by positivity)]
    exact_mod_cast (show a + b < 2 ^ 53 by omega)
  · rw [abs_of_nonneg (by positivity), overflowBound]
    calc (a : ℝ) + b = ((a + b : ℕ) : ℝ) := by push_cast; ring
      _ < 2 ^ 53 := hlt
      _ ≤ 2 ^ (1024 : ℤ) := by
        rw [show (2 : ℝ) ^ 53 = 2 ^ (53 : ℤ) by norm_num]
        exact zpow_le_zpow_right₀ (by norm_num) (by norm_num)

/-- Rounding the time left before the vehicle leaves the first stop loses no vehicle: with a
departure `D` and an offset `O` below `2^52`, `D` is not before the rounded `R - O` exactly when
`D + O` is not before `R`. -/
theorem not_lt_sub_iff {R : Float} {D O : ℕ} (hR : toVal R ≠ none) (hD : D < 2 ^ 52)
    (hO : O < 2 ^ 52) : ¬ Float.ofNat D < R - Float.ofNat O ↔ R ≤ Float.ofNat D + Float.ofNat O := by
  obtain ⟨r, hr⟩ := Option.ne_none_iff_exists'.1 hR
  have hd := toVal_ofNat_real (n := D) (by omega)
  have ho := toVal_ofNat_real (n := O) (by omega)
  rw [le_iff_of_toVal hr (toVal_ofNat_add_ofNat hD hO)]
  cases r with
  | bot =>
    rw [lt_iff_of_toVal hd (toVal_inf_sub (unpacked_of_toVal_bot hr) ho)]
    exact ⟨fun _ => bot_le, fun _ => not_lt_bot⟩
  | top =>
    rw [lt_iff_of_toVal hd (toVal_inf_sub (unpacked_of_toVal_top hr) ho)]
    exact ⟨fun h => absurd (EReal.coe_lt_top _) h, fun h => absurd h (not_le.2 (EReal.coe_lt_top _))⟩
  | coe r =>
    rw [lt_iff_of_toVal hd (toVal_sub hr ho), not_lt, EReal.coe_le_coe_iff]
    constructor
    · intro hround
      by_contra hgt
      obtain ⟨g, hg, hDg, hgr⟩ := exists_onGrid_between (onGrid_of_toVal hr).1 hD (not_le.1 hgt)
      -- the rounded difference is at least the double `g`, which is above `D`
      have hglt : |g| < overflowBound := by
        have hr' := (onGrid_of_toVal hr).2
        rw [abs_of_pos (lt_of_le_of_lt (Nat.cast_nonneg D) hDg)]
        have : (0 : ℝ) ≤ O := Nat.cast_nonneg O
        have := le_abs_self r
        linarith
      have := (roundExt_eq_self hg hglt).symm.trans_le (roundExt_mono hgr)
      exact absurd (lt_of_lt_of_le (EReal.coe_lt_coe_iff.2 hDg) this) (not_lt.2 hround)
    · intro hle
      have hDgrid : OnGrid (D : ℝ) := ⟨D, 0, by
        rw [abs_of_nonneg (by positivity)]; exact_mod_cast (show D < 2 ^ 53 by omega),
        by norm_num, by simp⟩
      have hDlt : |(D : ℝ)| < overflowBound := by
        have := (toVal_ofNat_real (n := D) (by omega))
        exact (onGrid_of_toVal this).2
      calc roundExt (r - O) ≤ roundExt D := roundExt_mono (by linarith)
        _ = D := roundExt_eq_self hDgrid hDlt

end TransitRouting
