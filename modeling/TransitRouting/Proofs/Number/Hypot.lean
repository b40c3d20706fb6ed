import TransitRouting.Proofs.Number.Doubles
import TransitRouting.Number.Binary64

/-!
# The length of a vector is never negative

`hypot` takes the length `√(a² + b²)` by the square root `h` of the rounded sum of squares and
one correction step (`lengthStep`), after scaling very long or very short sides by `2^∓600`.
The correction subtracts from `h` an estimate of `(h² - x² - y²) / 2h`, built from `h - y` when
the shorter side `y` is at least half of `h` and from `h - x` otherwise. Followed through every
rounding, the estimate stays below `4/5` of `h`, so the corrected length of two sides is a finite
non-negative double (`lengthStep_nonneg`).

The bounds are carried as intervals: a double that holds `r` up to one rounding lies within
`2^-52` of any bound of `|r|`, plus the least positive double, of `r` (`Approx.near`). The large
and small powers of two stay behind `leastDouble` and `finiteBound`, so the interval arithmetic is
linear in a handful of atoms.
-/

set_option autoImplicit false

namespace TransitRouting.Binary64

/-! ## One rounding as an interval -/

/-- A double that holds `r` up to one rounding lies in the interval about `r` that a bound `B` of
`|r|` gives. -/
theorem Approx.bounds {z : Float} {r v B : ℝ} (h : Approx z r v) (hr : |r| ≤ B) :
    r - (B / 2 ^ 52 + leastDouble) ≤ v ∧ v ≤ r + (B / 2 ^ 52 + leastDouble) := by
  have hB : |v - r| ≤ B / 2 ^ 52 + leastDouble := h.2.trans (by gcongr)
  obtain ⟨hlo, hhi⟩ := abs_le.1 hB
  exact ⟨by linarith, by linarith⟩

theorem Approx.near {z : Float} {r v B : ℝ} (h : Approx z r v) (hr : |r| ≤ B) :
    ∃ w : ℝ, toVal z = some (w : EReal) ∧ r - (B / 2 ^ 52 + leastDouble) ≤ w ∧
      w ≤ r + (B / 2 ^ 52 + leastDouble) :=
  ⟨v, h.1, h.bounds hr⟩

/-- Magnitude bounds with small relative excesses multiply. -/
theorem abs_mul_le_rel {a b A B ε δ κ : ℝ} (ha : |a| ≤ A * (1 + ε)) (hb : |b| ≤ B * (1 + δ))
    (hA : 0 ≤ A) (hB : 0 ≤ B) (hκ : (1 + ε) * (1 + δ) ≤ 1 + κ) : |a * b| ≤ A * B * (1 + κ) := by
  rw [abs_mul]
  calc |a| * |b| ≤ A * (1 + ε) * (B * (1 + δ)) :=
        mul_le_mul ha hb (abs_nonneg _) ((abs_nonneg _).trans ha)
    _ = A * B * ((1 + ε) * (1 + δ)) := by ring
    _ ≤ A * B * (1 + κ) := mul_le_mul_of_nonneg_left hκ (mul_nonneg hA hB)

theorem leastDouble_mul_two_pow (n : ℕ) : leastDouble * 2 ^ n = 2 ^ ((n : ℤ) - 1074) := by
  rw [leastDouble, ← zpow_natCast, ← zpow_add₀ two_ne_zero]
  congr 1

theorem toVal_two : toVal (2 : Float) = some ((2 : ℝ) : EReal) := by
  have := toVal_ofNat (n := 2) (by norm_num)
  exact_mod_cast this

theorem toVal_four : toVal (4 : Float) = some ((4 : ℝ) : EReal) := by
  have := toVal_ofNat (n := 4) (by norm_num)
  exact_mod_cast this

theorem OnGrid.two_mul {f : ℝ} (h : OnGrid f) : OnGrid (2 * f) := by
  obtain ⟨k, t, hk, ht, rfl⟩ := h
  exact ⟨k, t + 1, hk, by omega, by rw [zpow_add_one₀ two_ne_zero]; ring⟩

/-- Doubling a double of magnitude up to `finiteBound / 2` is exact. -/
theorem toVal_two_mul {x : Float} {a : ℝ} (hx : toVal x = some (a : EReal))
    (ha : |a| ≤ finiteBound / 2) : toVal (2 * x) = some ((2 * a : ℝ) : EReal) := by
  have hbound : |2 * a| ≤ finiteBound := by
    rw [abs_mul, abs_two]
    linarith
  rw [toVal_mul toVal_two hx, roundExt_of_abs_le hbound,
    roundSigned_eq_self (onGrid_of_toVal hx).1.two_mul]

/-! ## The rounded root of the sum of squares -/

/-- The root of the rounded sum of squares, for a longer side `X` whose square is far above the
least double: at least `X` less `2^-48` of it, and its square at most `X² + Y²` plus `2^-48` of
that. -/
theorem root_bounds {X Y SX SY S H : ℝ} (hηXX : leastDouble * 2 ^ 52 ≤ X * X)
    (hηX : leastDouble * 2 ^ 100 ≤ X)
    (hSX : |SX - X * X| ≤ |X * X| / 2 ^ 52 + leastDouble)
    (hSY : |SY - Y * Y| ≤ |Y * Y| / 2 ^ 52 + leastDouble)
    (hS : |S - (SX + SY)| ≤ |SX + SY| / 2 ^ 52 + leastDouble)
    (hH : |H - Real.sqrt S| ≤ |Real.sqrt S| / 2 ^ 52 + leastDouble) :
    X * (1 - 1 / 2 ^ 48) ≤ H ∧ H * H ≤ (X * X + Y * Y) * (1 + 1 / 2 ^ 48) := by
  have hη := leastDouble_pos
  have hX0 : 0 < X := lt_of_lt_of_le (by positivity) hηX
  rw [abs_of_nonneg (mul_self_nonneg X)] at hSX
  rw [abs_of_nonneg (mul_self_nonneg Y)] at hSY
  obtain ⟨hSX1, hSX2⟩ := abs_le.1 hSX
  obtain ⟨hSY1, hSY2⟩ := abs_le.1 hSY
  have hYY : 0 ≤ Y * Y := mul_self_nonneg Y
  have hsum0 : 0 ≤ SX + SY := by linarith
  rw [abs_of_nonneg hsum0] at hS
  obtain ⟨hS1, hS2⟩ := abs_le.1 hS
  -- the rounded sum of squares is within eight rounding errors of `X² + Y²`
  have hSlo : (X * X + Y * Y) * (1 - 8 / 2 ^ 52) ≤ S := by linarith
  have hShi : S ≤ (X * X + Y * Y) * (1 + 8 / 2 ^ 52) := by linarith
  have hS0 : 0 ≤ S := by linarith
  set σ := Real.sqrt S with hσ
  have hσσ : σ * σ = S := Real.mul_self_sqrt hS0
  have hσ0 : 0 ≤ σ := Real.sqrt_nonneg S
  have hσX : X * (1 - 8 / 2 ^ 52) ≤ σ := by
    rw [hσ, Real.le_sqrt (by positivity) hS0,
      show (X * (1 - 8 / 2 ^ 52)) ^ 2 = X * X * (1 - 8 / 2 ^ 52) ^ 2 by ring]
    linarith
  rw [abs_of_nonneg hσ0] at hH
  obtain ⟨hH1, hH2⟩ := abs_le.1 hH
  have hHlo : X * (1 - 1 / 2 ^ 48) ≤ H := by linarith
  refine ⟨hHlo, ?_⟩
  have hH0 : 0 ≤ H := by linarith
  have hHσ : H ≤ σ * (1 + 2 / 2 ^ 52) := by linarith
  calc H * H ≤ (σ * (1 + 2 / 2 ^ 52)) * (σ * (1 + 2 / 2 ^ 52)) :=
        mul_le_mul hHσ hHσ hH0 (by positivity)
    _ = S * (1 + 2 / 2 ^ 52) ^ 2 := by rw [← hσσ]; ring
    _ ≤ (X * X + Y * Y) * (1 + 8 / 2 ^ 52) * (1 + 2 / 2 ^ 52) ^ 2 := by gcongr
    _ ≤ (X * X + Y * Y) * (1 + 1 / 2 ^ 48) := by linarith

/-- What the error analysis of the correction needs of the rounded root `H` of the sum of the
squares of `X` and `Y`: `H` is about `√(X² + Y²)`, far above the least double and far below the
largest. -/
structure RootBounds (X Y H : ℝ) : Prop where
  long_le : X ≤ H * (1 + 1 / 2 ^ 46)
  sq_le : H * H ≤ (X * X + Y * Y) * (1 + 1 / 2 ^ 48)
  least_le : leastDouble * 2 ^ 100 ≤ H
  least_le_sq : leastDouble * 2 ^ 50 ≤ H * H
  le_finite : H * 2 ^ 10 ≤ finiteBound
  sq_le_finite : H * H ≤ finiteBound * (3 / 5)

theorem RootBounds.pos {X Y H : ℝ} (hb : RootBounds X Y H) : 0 < H :=
  lt_of_lt_of_le (by have := leastDouble_pos; positivity) hb.least_le

/-! ## The estimate from `h - y`, when `y` is at least half of `h` -/

section LongShort

variable {x y h : Float} {X Y H : ℝ}

/-- `h - y` is about `h / 2` at most, and barely negative. -/
theorem length_sub_short (hy : toVal y = some (Y : EReal)) (hh : toVal h = some (H : EReal))
    (hYX : Y ≤ X) (hb : RootBounds X Y H) (hHY : H ≤ 2 * Y) :
    ∃ D : ℝ, toVal (h - y) = some (D : EReal) ∧ -(H / 2 ^ 45) ≤ D ∧
      D ≤ H / 2 * (1 + 1 / 2 ^ 44) := by
  have hH0 := hb.pos
  obtain ⟨hXH, -, hη, -, hHB, -⟩ := hb
  obtain ⟨D, hD, hD1, hD2⟩ := (approx_sub hh hy (abs_le.2 ⟨by linarith, by linarith⟩)).near
    (B := H / 2 * (1 + 1 / 2 ^ 45)) (abs_le.2 ⟨by linarith, by linarith⟩)
  exact ⟨D, hD, by linarith, by linarith⟩

theorem first_term_long_short (hx : toVal x = some (X : EReal)) (hy : toVal y = some (Y : EReal))
    (hh : toVal h = some (H : EReal)) (hYX : Y ≤ X) (hb : RootBounds X Y H) (hHY : H ≤ 2 * Y) :
    ∃ T : ℝ, toVal (x * (2 * (h - y) - x)) = some (T : EReal) ∧
      |T| ≤ H * H * (1 + 1 / 2 ^ 40) := by
  have hH0 := hb.pos
  obtain ⟨D, hD, hD1, hD2⟩ := length_sub_short hy hh hYX hb hHY
  obtain ⟨hXH, -, hη, hηH, hHB, hHH⟩ := hb
  -- twice `D`, less the longer side
  obtain ⟨E, hE, hE1, hE2⟩ := (approx_mul toVal_two hD (abs_le.2 ⟨by linarith, by linarith⟩)).near
    (B := H * (1 + 1 / 2 ^ 44)) (abs_le.2 ⟨by linarith, by linarith⟩)
  obtain ⟨A, hA, hA1, hA2⟩ := (approx_sub hE hx (abs_le.2 ⟨by linarith, by linarith⟩)).near
    (B := H * (1 + 1 / 2 ^ 43)) (abs_le.2 ⟨by linarith, by linarith⟩)
  have hAabs : |A| ≤ H * (1 + 1 / 2 ^ 42) := abs_le.2 ⟨by linarith, by linarith⟩
  have hXabs : |X| ≤ H * (1 + 1 / 2 ^ 46) := abs_le.2 ⟨by linarith, by linarith⟩
  have hXA : |X * A| ≤ H * H * (1 + 1 / 2 ^ 41) :=
    abs_mul_le_rel hXabs hAabs hH0.le hH0.le (by norm_num)
  obtain ⟨T, hT, hT1, hT2⟩ := (approx_mul hx hA (by linarith)).near hXA
  obtain ⟨hXA1, hXA2⟩ := abs_le.1 hXA
  exact ⟨T, hT, abs_le.2 ⟨by linarith, by linarith⟩⟩

theorem second_term_long_short (hx : toVal x = some (X : EReal))
    (hy : toVal y = some (Y : EReal)) (hh : toVal h = some (H : EReal)) (hYX : Y ≤ X)
    (hb : RootBounds X Y H) (hHY : H ≤ 2 * Y) :
    ∃ T : ℝ, toVal ((h - y - 2 * (x - y)) * (h - y)) = some (T : EReal) ∧
      |T| ≤ H * H / 2 * (1 + 1 / 2 ^ 39) := by
  have hH0 := hb.pos
  obtain ⟨D, hD, hD1, hD2⟩ := length_sub_short hy hh hYX hb hHY
  obtain ⟨hXH, -, hη, hηH, hHB, hHH⟩ := hb
  -- twice the difference of the sides, taken from `D`
  obtain ⟨B, hB, hB1, hB2⟩ := (approx_sub hx hy (abs_le.2 ⟨by linarith, by linarith⟩)).near
    (B := H / 2 * (1 + 1 / 2 ^ 44)) (abs_le.2 ⟨by linarith, by linarith⟩)
  obtain ⟨C, hC, hC1, hC2⟩ := (approx_mul toVal_two hB (abs_le.2 ⟨by linarith, by linarith⟩)).near
    (B := H * (1 + 1 / 2 ^ 43)) (abs_le.2 ⟨by linarith, by linarith⟩)
  obtain ⟨E, hE, hE1, hE2⟩ := (approx_sub hD hC (abs_le.2 ⟨by linarith, by linarith⟩)).near
    (B := H * (1 + 1 / 2 ^ 42)) (abs_le.2 ⟨by linarith, by linarith⟩)
  have hEabs : |E| ≤ H * (1 + 1 / 2 ^ 41) := abs_le.2 ⟨by linarith, by linarith⟩
  have hDabs : |D| ≤ H / 2 * (1 + 1 / 2 ^ 44) := abs_le.2 ⟨by linarith, by linarith⟩
  have hED : |E * D| ≤ H * (H / 2) * (1 + 1 / 2 ^ 40) :=
    abs_mul_le_rel hEabs hDabs hH0.le (by positivity) (by norm_num)
  obtain ⟨T, hT, hT1, hT2⟩ := (approx_mul hE hD (by linarith)).near hED
  obtain ⟨hED1, hED2⟩ := abs_le.1 hED
  exact ⟨T, hT, abs_le.2 ⟨by linarith, by linarith⟩⟩

end LongShort

/-! ## The estimate from `h - x`, when `y` is under half of `h` -/

section ShortShort

variable {x y h : Float} {X Y H : ℝ}

/-- When the shorter side is under half of `h`, the longer one is at least `6/7` of it. -/
theorem long_side_ge {X Y H : ℝ} (hY : 0 ≤ Y) (hX : 0 ≤ X) (hH : 0 < H)
    (hHH : H * H ≤ (X * X + Y * Y) * (1 + 1 / 2 ^ 48)) (hYH : 2 * Y < H) : 6 / 7 * H ≤ X := by
  by_contra hlt
  rw [not_le] at hlt
  have hXX : X * X ≤ 36 / 49 * (H * H) := by nlinarith
  have hYY : Y * Y ≤ 1 / 4 * (H * H) := by nlinarith
  nlinarith

/-- `h - x` is under `h / 7` in magnitude. -/
theorem length_sub_long (hx : toVal x = some (X : EReal)) (hh : toVal h = some (H : EReal))
    (hb : RootBounds X Y H) (hHX : 6 / 7 * H ≤ X) :
    ∃ D : ℝ, toVal (h - x) = some (D : EReal) ∧ |D| ≤ H / 7 * (1 + 1 / 2 ^ 44) := by
  have hH0 := hb.pos
  obtain ⟨hXH, -, hη, -, hHB, -⟩ := hb
  obtain ⟨D, hD, hD1, hD2⟩ := (approx_sub hh hx (abs_le.2 ⟨by linarith, by linarith⟩)).near
    (B := H / 7) (abs_le.2 ⟨by linarith, by linarith⟩)
  exact ⟨D, hD, abs_le.2 ⟨by linarith, by linarith⟩⟩

theorem first_term_short (hx : toVal x = some (X : EReal)) (hy : toVal y = some (Y : EReal))
    (hh : toVal h = some (H : EReal)) (hY : 0 ≤ Y) (hb : RootBounds X Y H) (hHX : 6 / 7 * H ≤ X)
    (hYH : 2 * Y < H) :
    ∃ T : ℝ, toVal (2 * (h - x) * (x - 2 * y)) = some (T : EReal) ∧
      |T| ≤ 2 / 7 * H * H * (1 + 1 / 2 ^ 40) := by
  have hH0 := hb.pos
  obtain ⟨D, hD, hDabs⟩ := length_sub_long hx hh hb hHX
  obtain ⟨hXH, -, hη, hηH, hHB, hHH⟩ := hb
  obtain ⟨hD1, hD2⟩ := abs_le.1 hDabs
  obtain ⟨P, hP, hP1, hP2⟩ := (approx_mul toVal_two hD (abs_le.2 ⟨by linarith, by linarith⟩)).near
    (B := 2 / 7 * H * (1 + 1 / 2 ^ 44)) (abs_le.2 ⟨by linarith, by linarith⟩)
  have hPabs : |P| ≤ 2 / 7 * H * (1 + 1 / 2 ^ 43) := abs_le.2 ⟨by linarith, by linarith⟩
  -- the longer side less twice the shorter, with the doubling exact
  have hy2 := toVal_two_mul hy (abs_le.2 ⟨by linarith, by linarith⟩)
  obtain ⟨Q, hQ, hQ1, hQ2⟩ := (approx_sub hx hy2 (abs_le.2 ⟨by linarith, by linarith⟩)).near
    (B := H * (1 + 1 / 2 ^ 46)) (abs_le.2 ⟨by linarith, by linarith⟩)
  have hQabs : |Q| ≤ H * (1 + 1 / 2 ^ 45) := abs_le.2 ⟨by linarith, by linarith⟩
  have hPQ : |P * Q| ≤ 2 / 7 * H * H * (1 + 1 / 2 ^ 42) :=
    abs_mul_le_rel hPabs hQabs (by positivity) hH0.le (by norm_num)
  obtain ⟨T, hT, hT1, hT2⟩ := (approx_mul hP hQ (by linarith)).near hPQ
  obtain ⟨hPQ1, hPQ2⟩ := abs_le.1 hPQ
  exact ⟨T, hT, abs_le.2 ⟨by linarith, by linarith⟩⟩

theorem second_term_short (hx : toVal x = some (X : EReal)) (hy : toVal y = some (Y : EReal))
    (hh : toVal h = some (H : EReal)) (hY : 0 ≤ Y) (hb : RootBounds X Y H) (hHX : 6 / 7 * H ≤ X)
    (hYH : 2 * Y < H) :
    ∃ T : ℝ, toVal ((4 * (h - x) - y) * y + (h - x) * (h - x)) = some (T : EReal) ∧
      |T| ≤ 109 / 196 * H * H * (1 + 1 / 2 ^ 40) := by
  have hH0 := hb.pos
  obtain ⟨D, hD, hDabs⟩ := length_sub_long hx hh hb hHX
  obtain ⟨hXH, -, hη, hηH, hHB, hHH⟩ := hb
  obtain ⟨hD1, hD2⟩ := abs_le.1 hDabs
  -- four times `D`, less the shorter side, times the shorter side
  obtain ⟨F, hF, hF1, hF2⟩ := (approx_mul toVal_four hD (abs_le.2 ⟨by linarith, by linarith⟩)).near
    (B := 4 / 7 * H * (1 + 1 / 2 ^ 44)) (abs_le.2 ⟨by linarith, by linarith⟩)
  obtain ⟨G, hG, hG1, hG2⟩ := (approx_sub hF hy (abs_le.2 ⟨by linarith, by linarith⟩)).near
    (B := 15 / 14 * H * (1 + 1 / 2 ^ 43)) (abs_le.2 ⟨by linarith, by linarith⟩)
  have hGabs : |G| ≤ 15 / 14 * H * (1 + 1 / 2 ^ 42) := abs_le.2 ⟨by linarith, by linarith⟩
  have hGY : |G * Y| ≤ 15 / 28 * H * H * (1 + 1 / 2 ^ 42) := by
    rw [abs_mul, abs_of_nonneg hY]
    calc |G| * Y ≤ 15 / 14 * H * (1 + 1 / 2 ^ 42) * (H / 2) :=
          mul_le_mul hGabs (by linarith) hY (by positivity)
      _ = 15 / 28 * H * H * (1 + 1 / 2 ^ 42) := by ring
  obtain ⟨GY, hGYv, hGY1, hGY2⟩ := (approx_mul hG hy (by linarith)).near hGY
  obtain ⟨hGY3, hGY4⟩ := abs_le.1 hGY
  -- the square of `D`
  have hDD : |D * D| ≤ H / 7 * (H / 7) * (1 + 1 / 2 ^ 42) :=
    abs_mul_le_rel hDabs hDabs (by positivity) (by positivity) (by norm_num)
  obtain ⟨DD, hDDv, hDD1, hDD2⟩ := (approx_mul hD hD (by linarith)).near hDD
  obtain ⟨hDD3, hDD4⟩ := abs_le.1 hDD
  have hsum : |GY + DD| ≤ 109 / 196 * H * H * (1 + 1 / 2 ^ 41) :=
    abs_le.2 ⟨by linarith, by linarith⟩
  obtain ⟨T, hT, hT1, hT2⟩ := (approx_add hGYv hDDv (by linarith)).near hsum
  obtain ⟨hsum1, hsum2⟩ := abs_le.1 hsum
  exact ⟨T, hT, abs_le.2 ⟨by linarith, by linarith⟩⟩

end ShortShort

/-! ## The correction -/

/-- Subtracting `(t1 + t2) / 2h` from `h` leaves a non-negative double when the two terms
together are at most `3/2 h²`: the subtracted estimate is then at most about `3/4 h`. -/
theorem corrected_nonneg {h t1 t2 : Float} {X Y H T1 T2 : ℝ} (hh : toVal h = some (H : EReal))
    (ht1 : toVal t1 = some (T1 : EReal)) (ht2 : toVal t2 = some (T2 : EReal))
    (hb : RootBounds X Y H) (hT : |T1| + |T2| ≤ 3 / 2 * (H * H) * (1 + 1 / 2 ^ 39)) :
    ∃ L : ℝ, toVal (h - (t1 + t2) / (2 * h)) = some (L : EReal) ∧ 0 ≤ L := by
  have hH0 := hb.pos
  obtain ⟨-, -, hη, hηH, hHB, hHH⟩ := hb
  have hsum : |T1 + T2| ≤ 3 / 2 * (H * H) * (1 + 1 / 2 ^ 39) := (abs_add_le _ _).trans hT
  obtain ⟨hsum1, hsum2⟩ := abs_le.1 hsum
  obtain ⟨K, hK, hK1, hK2⟩ := (approx_add ht1 ht2 (by linarith)).near hsum
  have hKabs : |K| ≤ 3 / 2 * (H * H) * (1 + 1 / 2 ^ 38) := abs_le.2 ⟨by linarith, by linarith⟩
  have h2H := toVal_two_mul hh (abs_le.2 ⟨by linarith, by linarith⟩)
  have hq : |K / (2 * H)| ≤ 3 / 4 * H * (1 + 1 / 2 ^ 38) := by
    rw [abs_div, abs_of_pos (by positivity : (0 : ℝ) < 2 * H), div_le_iff₀ (by positivity)]
    exact hKabs.trans_eq (by ring)
  obtain ⟨C, hC, hC1, hC2⟩ := (approx_div hK h2H (by positivity) (by linarith)).near hq
  obtain ⟨hq1, hq2⟩ := abs_le.1 hq
  have hdiff : |H - C| ≤ 2 * H := abs_le.2 ⟨by linarith, by linarith⟩
  obtain ⟨L, hL, hL1, -⟩ := (approx_sub hh hC (by linarith)).near hdiff
  exact ⟨L, hL, by linarith⟩

/-! ## The corrected length -/

/-- The rounded root of the sum of the squares of two sides `x ≥ y ≥ 0`, the longer between
`2^-511` and `2^511`, is finite and meets `RootBounds`. -/
theorem rootBounds_of_sides {x y : Float} {X Y : ℝ} (hx : toVal x = some (X : EReal))
    (hy : toVal y = some (Y : EReal)) (hY : 0 ≤ Y) (hYX : Y ≤ X) (hXlo : 2 ^ (-511 : ℤ) ≤ X)
    (hXhi : X ≤ 2 ^ (511 : ℤ)) :
    ∃ H : ℝ, toVal (x * x + y * y).sqrt = some (H : EReal) ∧ RootBounds X Y H := by
  -- the range of the sides, `m = 2^-511` to `M = 2^511`, against the constants of the rounding;
  -- the powers themselves are kept out of the linear arithmetic
  obtain ⟨m, hm⟩ : ∃ m : ℝ, m = 2 ^ (-511 : ℤ) := ⟨_, rfl⟩
  obtain ⟨M, hM⟩ : ∃ M : ℝ, M = 2 ^ (511 : ℤ) := ⟨_, rfl⟩
  rw [← hm] at hXlo
  rw [← hM] at hXhi
  have hη := leastDouble_pos
  have hm0 : 0 < m := hm ▸ two_zpow_pos _
  have hηm : leastDouble * 2 ^ 101 ≤ m := by
    rw [leastDouble_mul_two_pow, hm]
    exact zpow_le_zpow_right₀ (by norm_num) (by norm_num)
  have hηmm : leastDouble * 2 ^ 52 = m * m := by
    rw [leastDouble_mul_two_pow, hm, ← zpow_add₀ two_ne_zero]; norm_num
  have hfin : finiteBound = 7 / 2 * (M * M) := by
    rw [finiteBound, hM, ← zpow_add₀ two_ne_zero, show (511 : ℤ) + 511 = 1 + 1021 by norm_num,
      zpow_add₀ two_ne_zero, zpow_one]
    ring
  have hM20 : 2 ^ 20 ≤ M := by
    rw [hM, show (2 : ℝ) ^ 20 = 2 ^ (20 : ℤ) by norm_num]
    exact zpow_le_zpow_right₀ (by norm_num) (by norm_num)
  clear hm hM
  have hMM : 2 ^ 20 * M ≤ M * M := mul_le_mul_of_nonneg_right hM20 (by positivity)
  have hX0 : 0 < X := hm0.trans_le hXlo
  have hXX : X * X ≤ M * M := mul_le_mul hXhi hXhi hX0.le (by positivity)
  have hYY : Y * Y ≤ X * X := mul_le_mul hYX hYX hY hX0.le
  have hYY0 : 0 ≤ Y * Y := mul_self_nonneg Y
  have hmX : m * m ≤ X * X := mul_le_mul hXlo hXlo hm0.le hX0.le
  -- the squares, their sum and its root, each rounded once
  have hsx := approx_mul hx hx (by rw [abs_of_nonneg (mul_self_nonneg X)]; linarith)
  have hsy := approx_mul hy hy (by rw [abs_of_nonneg hYY0]; linarith)
  generalize roundSigned (X * X) = SX at hsx
  generalize roundSigned (Y * Y) = SY at hsy
  obtain ⟨hSX1, hSX2⟩ := hsx.bounds (le_of_eq (abs_of_nonneg (mul_self_nonneg X)))
  obtain ⟨hSY1, hSY2⟩ := hsy.bounds (le_of_eq (abs_of_nonneg hYY0))
  have hsum0 : 0 ≤ SX + SY := by linarith
  have hs := approx_add hsx.1 hsy.1 (by rw [abs_of_nonneg hsum0]; linarith)
  generalize roundSigned (SX + SY) = S at hs
  obtain ⟨hS1, hS2⟩ := hs.bounds (le_of_eq (abs_of_nonneg hsum0))
  have hS0 : 0 ≤ S := by linarith
  have hroot : Real.sqrt S ≤ 2 * M := by
    calc Real.sqrt S ≤ Real.sqrt ((2 * M) * (2 * M)) := Real.sqrt_le_sqrt (by linarith)
      _ = 2 * M := Real.sqrt_mul_self (by positivity)
  have hsq := approx_sqrt hs.1 hS0 (by linarith)
  generalize roundSigned (Real.sqrt S) = H at hsq
  obtain ⟨hHlo, hHhi⟩ := root_bounds (by linarith) (by linarith) hsx.2 hsy.2 hs.2 hsq.2
  have hH0 : 0 < H := by linarith
  have hHM : H ≤ 2 * M := (mul_self_le_mul_self_iff hH0.le (by positivity)).2 (by linarith)
  refine ⟨H, hsq.1, by linarith, hHhi, by linarith, ?_, by linarith, by linarith⟩
  have : m / 2 * (m / 2) ≤ H * H := mul_le_mul (by linarith) (by linarith) (by positivity) hH0.le
  linarith

/-- The corrected length of two sides `x ≥ y ≥ 0`, the longer between `2^-511` and `2^511`, is a
finite non-negative double. -/
theorem lengthStep_nonneg {x y : Float} {X Y : ℝ} (hx : toVal x = some (X : EReal))
    (hy : toVal y = some (Y : EReal)) (hY : 0 ≤ Y) (hYX : Y ≤ X) (hXlo : 2 ^ (-511 : ℤ) ≤ X)
    (hXhi : X ≤ 2 ^ (511 : ℤ)) :
    ∃ L : ℝ, toVal (lengthStep x y) = some (L : EReal) ∧ 0 ≤ L := by
  obtain ⟨H, hh, hb⟩ := rootBounds_of_sides hx hy hY hYX hXlo hXhi
  clear hXlo hXhi
  have hH0 := hb.pos
  have hHH0 : 0 ≤ H * H := mul_self_nonneg H
  have hy2 := toVal_two_mul hy
    (abs_le.2 ⟨by linarith [finiteBound_pos], by linarith [hb.le_finite, hb.long_le]⟩)
  simp only [lengthStep]
  generalize (x * x + y * y).sqrt = h at hh ⊢
  split_ifs with hc
  · -- the shorter side is at least half of the length
    have hHY : H ≤ 2 * Y := by exact_mod_cast (le_iff_of_toVal hh hy2).1 hc
    obtain ⟨T1, hT1, hT1b⟩ := first_term_long_short hx hy hh hYX hb hHY
    obtain ⟨T2, hT2, hT2b⟩ := second_term_long_short hx hy hh hYX hb hHY
    exact corrected_nonneg hh hT1 hT2 hb (by linarith)
  · have hYH : 2 * Y < H := by
      have := mt (le_iff_of_toVal hh hy2).2 hc
      exact_mod_cast not_le.1 this
    have hHX := long_side_ge hY (hY.trans hYX) hH0 hb.sq_le hYH
    obtain ⟨T1, hT1, hT1b⟩ := first_term_short hx hy hh hY hb hHX hYH
    obtain ⟨T2, hT2, hT2b⟩ := second_term_short hx hy hh hY hb hHX hYH
    exact corrected_nonneg hh hT1 hT2 hb (by linarith)

/-! ## The length of two sides -/

theorem isNaN_eq_false {x : Float} (hx : toVal x ≠ none) : isNaN x = false := by
  rw [Bool.eq_false_iff]
  exact fun h => hx (toVal_eq_none_iff.2 (isNaN_iff.1 h))

/-- A power of two whose double unpacks to its canonical form has that power as its value. -/
theorem toVal_twoPow {k : ℤ}
    (h : unpacked (twoPow k) = .finite .positive (2 ^ 52) (k - 52) (by norm_num)) :
    toVal (twoPow k) = some (((2 : ℝ) ^ k : ℝ) : EReal) := by
  rw [toVal_of_ne_nan (by rw [h]; exact fun h => nomatch h), h]
  change some (((signed .positive (((2 ^ 52 : ℕ) : ℝ) * 2 ^ (k - 52)) : ℝ) : EReal)) = _
  rw [signed, Nat.cast_pow, Nat.cast_ofNat, two_pow_mul_zpow]
  congr 3
  push_cast
  ring

theorem onGrid_two_zpow {k : ℤ} (hk : -1074 ≤ k) : OnGrid (2 ^ k) :=
  ⟨1, k, by norm_num, hk, by simp⟩

theorem roundSigned_le_of_le {r f : ℝ} (hf : OnGrid f) (h : r ≤ f) : roundSigned r ≤ f :=
  (roundSigned_mono h).trans_eq (roundSigned_eq_self hf)

theorem le_roundSigned_of_le {r f : ℝ} (hf : OnGrid f) (h : f ≤ r) : f ≤ roundSigned r :=
  (roundSigned_eq_self hf).symm.trans_le (roundSigned_mono h)

theorem roundExt_nonneg {r : ℝ} (hr : 0 ≤ r) : 0 ≤ roundExt r := by
  have h0 : roundExt 0 = ((0 : ℝ) : EReal) :=
    roundExt_eq_self onGrid_zero (by simpa using overflowBound_pos)
  calc (0 : EReal) = roundExt 0 := by rw [h0]; rfl
    _ ≤ roundExt r := roundExt_mono hr

/-- A positive double is at least the least positive double. -/
theorem leastDouble_le_of_onGrid {f : ℝ} (hf : OnGrid f) (h0 : 0 < f) : leastDouble ≤ f := by
  obtain ⟨k, t, -, ht, rfl⟩ := hf
  have hk : (1 : ℝ) ≤ k := by
    have : (0 : ℝ) < k := pos_of_mul_pos_left h0 (two_zpow_pos t).le
    exact_mod_cast (show (0 : ℤ) < k by exact_mod_cast this)
  calc leastDouble ≤ 2 ^ t := zpow_le_zpow_right₀ (by norm_num) ht
    _ ≤ k * 2 ^ t := le_mul_of_one_le_left (two_zpow_pos t).le hk

/-- The longer and the shorter of two non-negative sides, as `hypot` picks them. -/
theorem long_short_values {x y : Float} {X Y : ℝ} (hx : toVal x = some (X : EReal))
    (hy : toVal y = some (Y : EReal)) (hX : 0 ≤ X) (hY : 0 ≤ Y) :
    ∃ Lg Sh : ℝ, toVal (if x < y then y else x) = some (Lg : EReal) ∧
      toVal (if x < y then x else y) = some (Sh : EReal) ∧ 0 ≤ Sh ∧ Sh ≤ Lg := by
  by_cases h : x < y
  · rw [if_pos h, if_pos h]
    have hlt := (lt_iff_of_toVal hx hy).1 h
    exact ⟨Y, X, hy, hx, hX, by exact_mod_cast hlt.le⟩
  · rw [if_neg h, if_neg h]
    have hle := mt (lt_iff_of_toVal hx hy).2 h
    exact ⟨X, Y, hx, hy, hY, by exact_mod_cast not_lt.1 hle⟩

/-- Two rounded values between grid points: ordered, non-negative and finite when their exact
values are. -/
theorem rounded_pair {u v : Float} {ru rv lo hi : ℝ} (hu : toVal u = some (roundExt ru))
    (hv : toVal v = some (roundExt rv)) (hv0 : 0 ≤ rv) (hvu : rv ≤ ru) (hlo : lo ≤ ru)
    (hhi : ru ≤ hi) (hlog : OnGrid lo) (hhig : OnGrid hi) (hfin : hi ≤ finiteBound) :
    ∃ U V : ℝ, toVal u = some (U : EReal) ∧ toVal v = some (V : EReal) ∧ 0 ≤ V ∧ V ≤ U ∧
      lo ≤ U ∧ U ≤ hi := by
  have hu' : |ru| ≤ finiteBound := abs_le.2 ⟨by linarith, by linarith⟩
  have hv' : |rv| ≤ finiteBound := abs_le.2 ⟨by linarith, by linarith⟩
  rw [roundExt_of_abs_le hu'] at hu
  rw [roundExt_of_abs_le hv'] at hv
  refine ⟨_, _, hu, hv, ?_, roundSigned_mono hvu, le_roundSigned_of_le hlog hlo,
    roundSigned_le_of_le hhig hhi⟩
  exact le_roundSigned_of_le onGrid_zero hv0

/-- A sum of two non-negative sides is a non-negative value. -/
theorem sum_nonneg {x y : Float} {X Y : ℝ} (hx : toVal x = some (X : EReal))
    (hy : toVal y = some (Y : EReal)) (hX : 0 ≤ X) (hY : 0 ≤ Y) :
    ∃ d : EReal, toVal (x + y) = some d ∧ 0 ≤ d :=
  ⟨_, toVal_add hx hy, roundExt_nonneg (add_nonneg hX hY)⟩

/-- Very long sides are scaled down by `2^-600` for the correction and back up after it. -/
theorem scaled_down_nonneg {long short : Float} {Lg Sh : ℝ} (hl : toVal long = some (Lg : EReal))
    (hs : toVal short = some (Sh : EReal)) (hS0 : 0 ≤ Sh) (hSL : Sh ≤ Lg)
    (hc : long > twoPow 511) :
    ∃ d : EReal, toVal (lengthStep (long * twoPow (-600)) (short * twoPow (-600)) /
      twoPow (-600)) = some d ∧ 0 ≤ d := by
  have hscale := toVal_twoPow (k := -600) rfl
  have hbig : (2 : ℝ) ^ (511 : ℤ) < Lg := by
    exact_mod_cast (lt_iff_of_toVal (toVal_twoPow (k := 511) rfl) hl).1 hc
  have hlt : Lg < 2 ^ (1024 : ℤ) := by
    have := (onGrid_of_toVal hl).2
    rwa [abs_of_nonneg (hS0.trans hSL), overflowBound] at this
  -- the scaled longer side lies between `2^-89` and `2^424`
  have hlo : (2 : ℝ) ^ (-89 : ℤ) ≤ Lg * 2 ^ (-600 : ℤ) := by
    rw [show (-89 : ℤ) = 511 + -600 by norm_num, zpow_add₀ two_ne_zero]
    exact mul_le_mul_of_nonneg_right hbig.le (two_zpow_pos _).le
  have hhi : Lg * 2 ^ (-600 : ℤ) ≤ 2 ^ (424 : ℤ) := by
    rw [show (424 : ℤ) = 1024 + -600 by norm_num, zpow_add₀ two_ne_zero]
    exact mul_le_mul_of_nonneg_right hlt.le (two_zpow_pos _).le
  have hfin : (2 : ℝ) ^ (424 : ℤ) ≤ finiteBound := by
    rw [finiteBound]
    calc (2 : ℝ) ^ (424 : ℤ) ≤ 2 ^ (1021 : ℤ) := zpow_le_zpow_right₀ (by norm_num) (by norm_num)
      _ ≤ 7 * 2 ^ (1021 : ℤ) := le_mul_of_one_le_left (two_zpow_pos _).le (by norm_num)
  obtain ⟨X, Y, hX, hY, hY0, hYX, hXlo, hXhi⟩ :=
    rounded_pair (toVal_mul hl hscale) (toVal_mul hs hscale) (by positivity)
      (mul_le_mul_of_nonneg_right hSL (two_zpow_pos _).le) hlo hhi
      (onGrid_two_zpow (by norm_num)) (onGrid_two_zpow (by norm_num)) hfin
  obtain ⟨L, hL, hL0⟩ := lengthStep_nonneg hX hY hY0 hYX
    ((zpow_le_zpow_right₀ (by norm_num) (by norm_num)).trans hXlo)
    (hXhi.trans (zpow_le_zpow_right₀ (by norm_num) (by norm_num)))
  exact ⟨_, toVal_div hL hscale (two_zpow_pos _).ne',
    roundExt_nonneg (div_nonneg hL0 (two_zpow_pos _).le)⟩

/-- Very short sides, not negligible against each other, are scaled up by `2^600` for the
correction and back down after it. -/
theorem scaled_up_nonneg {long short : Float} {Lg Sh : ℝ} (hl : toVal long = some (Lg : EReal))
    (hs : toVal short = some (Sh : EReal)) (hS0 : 0 ≤ Sh) (hSL : Sh ≤ Lg)
    (hsmall : short < twoPow (-511)) (hc : ¬(long ≥ short / twoPow (-54))) :
    ∃ d : EReal, toVal (lengthStep (long / twoPow (-600)) (short / twoPow (-600)) *
      twoPow (-600)) = some d ∧ 0 ≤ d := by
  have hscale := toVal_twoPow (k := -600) rfl
  have hsm : Sh < 2 ^ (-511 : ℤ) := by
    exact_mod_cast (lt_iff_of_toVal hs (toVal_twoPow (k := -511) rfl)).1 hsmall
  -- the shorter side over `2^-54` is at most `2^-457`, and the longer side is below that
  have hq : Sh / 2 ^ (-54 : ℤ) ≤ 2 ^ (-457 : ℤ) := by
    rw [div_le_iff₀ (two_zpow_pos _), ← zpow_add₀ two_ne_zero]
    exact hsm.le.trans_eq (by norm_num)
  have hqfin : |Sh / 2 ^ (-54 : ℤ)| ≤ finiteBound := by
    rw [abs_of_nonneg (div_nonneg hS0 (two_zpow_pos _).le), finiteBound]
    calc Sh / 2 ^ (-54 : ℤ) ≤ 2 ^ (-457 : ℤ) := hq
      _ ≤ 2 ^ (1021 : ℤ) := zpow_le_zpow_right₀ (by norm_num) (by norm_num)
      _ ≤ 7 * 2 ^ (1021 : ℤ) := le_mul_of_one_le_left (two_zpow_pos _).le (by norm_num)
  have hQ := toVal_div hs (toVal_twoPow (k := -54) rfl) (two_zpow_pos _).ne'
  rw [roundExt_of_abs_le hqfin] at hQ
  have hLq : Lg < roundSigned (Sh / 2 ^ (-54 : ℤ)) := by
    have := mt (le_iff_of_toVal hQ hl).2 hc
    exact_mod_cast not_le.1 this
  have hLg : Lg < 2 ^ (-457 : ℤ) :=
    hLq.trans_le (roundSigned_le_of_le (onGrid_two_zpow (by norm_num)) hq)
  -- so the shorter side is not zero, and at least the least double
  have hSpos : 0 < Sh := by
    rcases hS0.eq_or_lt with h | h
    · rw [← h, zero_div, roundSigned_eq_self onGrid_zero] at hLq
      linarith
    · exact h
  have hSleast := leastDouble_le_of_onGrid (onGrid_of_toVal hs).1 hSpos
  -- the scaled longer side lies between `2^-474` and `2^143`
  have hlo : (2 : ℝ) ^ (-474 : ℤ) ≤ Lg / 2 ^ (-600 : ℤ) := by
    rw [le_div_iff₀ (two_zpow_pos _), ← zpow_add₀ two_ne_zero]
    exact (show (2 : ℝ) ^ (-474 + -600 : ℤ) = leastDouble by rw [leastDouble]; norm_num) ▸
      hSleast.trans hSL
  have hhi : Lg / 2 ^ (-600 : ℤ) ≤ 2 ^ (143 : ℤ) := by
    rw [div_le_iff₀ (two_zpow_pos _), ← zpow_add₀ two_ne_zero]
    exact hLg.le.trans_eq (by norm_num)
  have hfin : (2 : ℝ) ^ (143 : ℤ) ≤ finiteBound := by
    rw [finiteBound]
    calc (2 : ℝ) ^ (143 : ℤ) ≤ 2 ^ (1021 : ℤ) := zpow_le_zpow_right₀ (by norm_num) (by norm_num)
      _ ≤ 7 * 2 ^ (1021 : ℤ) := le_mul_of_one_le_left (two_zpow_pos _).le (by norm_num)
  obtain ⟨X, Y, hX, hY, hY0, hYX, hXlo, hXhi⟩ :=
    rounded_pair (toVal_div hl hscale (two_zpow_pos _).ne') (toVal_div hs hscale (two_zpow_pos _).ne')
      (div_nonneg hS0 (two_zpow_pos _).le) (div_le_div_of_nonneg_right hSL (two_zpow_pos _).le)
      hlo hhi (onGrid_two_zpow (by norm_num)) (onGrid_two_zpow (by norm_num)) hfin
  obtain ⟨L, hL, hL0⟩ := lengthStep_nonneg hX hY hY0 hYX
    ((zpow_le_zpow_right₀ (by norm_num) (by norm_num)).trans hXlo)
    (hXhi.trans (zpow_le_zpow_right₀ (by norm_num) (by norm_num)))
  exact ⟨_, toVal_mul hL hscale, roundExt_nonneg (mul_nonneg hL0 (two_zpow_pos _).le)⟩

/-- Sides between `2^-511` and `2^511` go to the correction as they are. -/
theorem plain_nonneg {long short : Float} {Lg Sh : ℝ} (hl : toVal long = some (Lg : EReal))
    (hs : toVal short = some (Sh : EReal)) (hS0 : 0 ≤ Sh) (hSL : Sh ≤ Lg)
    (hc1 : ¬(long > twoPow 511)) (hc2 : ¬(short < twoPow (-511))) :
    ∃ d : EReal, toVal (lengthStep long short) = some d ∧ 0 ≤ d := by
  have hLg : Lg ≤ 2 ^ (511 : ℤ) := by
    have := mt (lt_iff_of_toVal (toVal_twoPow (k := 511) rfl) hl).2 hc1
    exact_mod_cast not_lt.1 this
  have hSh : 2 ^ (-511 : ℤ) ≤ Sh := by
    have := mt (lt_iff_of_toVal hs (toVal_twoPow (k := -511) rfl)).2 hc2
    exact_mod_cast not_lt.1 this
  obtain ⟨L, hL, hL0⟩ := lengthStep_nonneg hl hs hS0 hSL (hSh.trans hSL) hLg
  exact ⟨L, hL, by exact_mod_cast hL0⟩

/-- A double that is neither NaN nor infinite has a real value. -/
theorem exists_real_of_not_infinite {x : Float} (hx : toVal x ≠ none)
    (hi : isInfinite x = false) : ∃ a : ℝ, toVal x = some (a : EReal) := by
  apply finiteForm_iff_toVal.1
  cases hu : unpacked x with
  | notANumber => exact hx (toVal_eq_none_iff.2 hu)
  | infinity s =>
    rw [isInfinite_iff.2 ⟨s, hu⟩] at hi
    cases hi
  | zero s => trivial
  | finite s m e h => trivial

/-- The length of two sides that are not NaN is a non-negative value of the extended line: never
NaN, and infinite only when a side is or the length overflows. -/
theorem hypot_nonneg {a b : Float} (ha : toVal a ≠ none) (hb : toVal b ≠ none) :
    ∃ d : EReal, toVal (hypot a b) = some d ∧ 0 ≤ d := by
  unfold hypot
  by_cases hinf : (isInfinite a || isInfinite b) = true
  · rw [if_pos hinf]
    exact ⟨⊤, toVal_of_unpacked_infinity (s := .positive) rfl, le_top⟩
  rw [if_neg hinf, if_neg (by simp [isNaN_eq_false ha, isNaN_eq_false hb])]
  simp only [Bool.or_eq_true, not_or, Bool.not_eq_true] at hinf
  obtain ⟨A, hA⟩ := exists_real_of_not_infinite ha hinf.1
  obtain ⟨B, hB⟩ := exists_real_of_not_infinite hb hinf.2
  obtain ⟨Lg, Sh, hl, hs, hS0, hSL⟩ :=
    long_short_values (toVal_abs hA) (toVal_abs hB) (abs_nonneg A) (abs_nonneg B)
  dsimp only
  generalize (if a.abs < b.abs then b.abs else a.abs) = long at hl ⊢
  generalize (if a.abs < b.abs then a.abs else b.abs) = short at hs ⊢
  have hL0 := hS0.trans hSL
  split_ifs with h1 h2 h3 h4 h5
  · exact sum_nonneg hl hs hL0 hS0
  · exact scaled_down_nonneg hl hs hS0 hSL h1
  · exact sum_nonneg hl hs hL0 hS0
  · exact scaled_up_nonneg hl hs hS0 hSL h3 h4
  · exact sum_nonneg hl hs hL0 hS0
  · exact plain_nonneg hl hs hS0 hSL h1 h3

end TransitRouting.Binary64
