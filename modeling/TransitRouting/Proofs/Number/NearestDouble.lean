import Mathlib

/-!
# Rounding a real number to the nearest double

The doubles of one binade `[2^k, 2^(k+1))` are the multiples of `2^(k-52)`, and those below
`2^-1022` are multiples of `2^-1074`. Rounding to nearest with ties to even scales a
non-negative real by the last place of its binade (`quantum`), takes the nearest integer, the
even one on a tie (`roundEven`), and scales back (`roundNear`). The rounding of a signed real
works on its magnitude, and a magnitude that rounds to `2^1024` or beyond overflows to an
infinity (`roundExt`, on the extended real line).

What the rest of the library needs of it is proved here from one fact: `roundNear v` is a
point of the grid of doubles nearest to `v` (`roundNear_nearest`). So it is monotone
(`roundNear_mono`, `roundExt_mono`), it fixes every double (`roundNear_eq_self`), and it moves
a value by at most half a last place (`roundNear_sub_le`), which for a normal value is at most
`2^-53` of it (`roundNear_sub_le_rel`).
-/

set_option autoImplicit false

namespace TransitRouting.Binary64

/-- The literal `2` of the reals, the base of every binade, through one named proof that it is
at least two. Definitions over the reals below then hold no proof of their own for it, and read
the same whatever was loaded before them. -/
instance atLeastTwo_two : Nat.AtLeastTwo 2 :=
  ⟨le_refl 2⟩

/-! ## The nearest integer -/

/-- The nearest integer to a real, the even one of two at the same distance. -/
noncomputable def roundEven (x : ℝ) : ℤ :=
  if x - ⌊x⌋ < 1 / 2 then ⌊x⌋
  else if 1 / 2 < x - ⌊x⌋ then ⌊x⌋ + 1
  else ⌊x⌋ + ⌊x⌋ % 2

theorem roundEven_sub_le (x : ℝ) : |(roundEven x : ℝ) - x| ≤ 1 / 2 := by
  have hlo := Int.floor_le x
  have hhi := Int.lt_floor_add_one x
  have hpar : ⌊x⌋ % 2 = 0 ∨ ⌊x⌋ % 2 = 1 := Int.emod_two_eq ⌊x⌋
  unfold roundEven
  split_ifs with h1 h2
  · rw [abs_le]; constructor <;> linarith
  · push_cast; rw [abs_le]; constructor <;> linarith
  · -- a tie: the floor or the next integer, at distance one half either way
    rcases hpar with hp | hp <;> rw [hp] <;> push_cast <;> rw [abs_le] <;>
      constructor <;> linarith

/-- No integer is nearer. -/
theorem roundEven_nearest (x : ℝ) (k : ℤ) : |(roundEven x : ℝ) - x| ≤ |(k : ℝ) - x| := by
  by_cases hk : roundEven x = k
  · rw [hk]
  -- two different integers are at least one apart
  have hone : (1 : ℝ) ≤ |(roundEven x : ℝ) - k| := by
    have : (1 : ℤ) ≤ |roundEven x - k| := Int.one_le_abs (sub_ne_zero.2 hk)
    exact_mod_cast this
  have htri := abs_sub_le (roundEven x : ℝ) x k
  have hhalf := roundEven_sub_le x
  rw [abs_sub_comm x] at htri
  linarith

@[simp]
theorem roundEven_intCast (k : ℤ) : roundEven k = k := by
  simp [roundEven]

@[simp]
theorem roundEven_zero : roundEven 0 = 0 := by
  simpa using roundEven_intCast 0

theorem roundEven_of_lt {x : ℝ} (h : x - ⌊x⌋ < 1 / 2) : roundEven x = ⌊x⌋ := by
  rw [roundEven, if_pos h]

theorem roundEven_of_gt {x : ℝ} (h : 1 / 2 < x - ⌊x⌋) : roundEven x = ⌊x⌋ + 1 := by
  rw [roundEven, if_neg (by linarith), if_pos h]

theorem roundEven_of_eq {x : ℝ} (h : x - ⌊x⌋ = 1 / 2) : roundEven x = ⌊x⌋ + ⌊x⌋ % 2 := by
  rw [roundEven, if_neg (by linarith), if_neg (by linarith)]

theorem roundEven_le_of_le {x : ℝ} {k : ℤ} (h : x ≤ k) : roundEven x ≤ k := by
  have hn := roundEven_nearest x k
  have hle : (roundEven x : ℝ) - x ≤ k - x :=
    (le_abs_self _).trans (hn.trans_eq (abs_of_nonneg (by linarith)))
  exact_mod_cast (by linarith : (roundEven x : ℝ) ≤ k)

theorem le_roundEven_of_le {x : ℝ} {k : ℤ} (h : (k : ℝ) ≤ x) : k ≤ roundEven x := by
  have hn := roundEven_nearest x k
  have hle : x - roundEven x ≤ x - k := by
    rw [abs_sub_comm, abs_sub_comm (k : ℝ)] at hn
    exact (le_abs_self _).trans (hn.trans_eq (abs_of_nonneg (by linarith)))
  exact_mod_cast (by linarith : (k : ℝ) ≤ roundEven x)

/-! ## The grid of doubles -/

/-- A double of unbounded exponent: an integer significand below `2^53` in magnitude times a
power of two no smaller than the last place of the subnormals. -/
def OnGrid (f : ℝ) : Prop :=
  ∃ k t : ℤ, |k| < 2 ^ 53 ∧ -1074 ≤ t ∧ f = k * 2 ^ t

theorem onGrid_zero : OnGrid 0 := ⟨0, 0, by norm_num, by norm_num, by simp⟩

theorem OnGrid.neg {f : ℝ} (h : OnGrid f) : OnGrid (-f) := by
  obtain ⟨k, t, hk, ht, rfl⟩ := h
  exact ⟨-k, t, by rwa [abs_neg], ht, by push_cast; ring⟩

/-- The last place of the doubles in the binade of a positive real: 52 places below its
leading bit, but not below `2^-1074`. -/
noncomputable def quantum (v : ℝ) : ℤ := max (Int.log 2 v - 52) (-1074)

theorem le_quantum (v : ℝ) : -1074 ≤ quantum v := le_max_right _ _

theorem two_zpow_pos (t : ℤ) : (0 : ℝ) < 2 ^ t := zpow_pos (by norm_num) t

/-- A positive real lies in the binade its `Int.log` names. -/
theorem zpow_log_le {v : ℝ} (hv : 0 < v) : (2 : ℝ) ^ Int.log 2 v ≤ v := by
  have := Int.zpow_log_le_self (b := 2) (by norm_num) hv
  simpa using this

theorem lt_zpow_log_add_one (v : ℝ) : v < (2 : ℝ) ^ (Int.log 2 v + 1) := by
  have := Int.lt_zpow_succ_log_self (R := ℝ) (b := 2) (by norm_num) v
  simpa using this

theorem le_log_of_two_zpow_le {k : ℤ} {v : ℝ} (hv : 0 < v) (h : (2 : ℝ) ^ k ≤ v) :
    k ≤ Int.log 2 v :=
  (Int.zpow_le_iff_le_log (b := 2) (by norm_num) hv).1 (by exact_mod_cast h)

theorem log_lt_of_lt_two_zpow {k : ℤ} {v : ℝ} (hv : 0 < v) (h : v < (2 : ℝ) ^ k) :
    Int.log 2 v < k :=
  (Int.lt_zpow_iff_log_lt (b := 2) (by norm_num) hv).1 (by exact_mod_cast h)

/-- A positive real is below `2^53` last places of its binade. -/
theorem div_quantum_lt {v : ℝ} : v / 2 ^ quantum v < 2 ^ 53 := by
  rw [div_lt_iff₀ (two_zpow_pos _)]
  calc v < (2 : ℝ) ^ (Int.log 2 v + 1) := lt_zpow_log_add_one v
    _ ≤ 2 ^ ((53 : ℤ) + quantum v) :=
        zpow_le_zpow_right₀ (by norm_num) (by unfold quantum; omega)
    _ = 2 ^ 53 * 2 ^ quantum v := by rw [zpow_add₀ (by norm_num)]; norm_num

/-- Every double is a multiple of the last place of the binade of `v`, or lies below that
binade, whose first point `2^52 · 2^(quantum v)` is itself such a multiple. -/
theorem onGrid_cases {v f : ℝ} (hf : OnGrid f) :
    (∃ n : ℤ, f = n * 2 ^ quantum v) ∨
      (quantum v = Int.log 2 v - 52 ∧ f < 2 ^ Int.log 2 v) := by
  obtain ⟨k, t, hk, ht, rfl⟩ := hf
  by_cases hq : quantum v ≤ t
  · -- a coarser place: a multiple
    refine .inl ⟨k * 2 ^ (t - quantum v).toNat, ?_⟩
    have ht' : t = (t - quantum v).toNat + quantum v := by omega
    push_cast
    conv_lhs => rw [ht', zpow_add₀ (by norm_num), zpow_natCast]
    ring
  · -- a finer place than the subnormals' is impossible, so the binade is normal
    have hnormal : quantum v = Int.log 2 v - 52 := by
      unfold quantum at hq ⊢
      omega
    refine .inr ⟨hnormal, ?_⟩
    have hkr : (k : ℝ) < 2 ^ 53 := by
      have : k < 2 ^ 53 := (le_abs_self k).trans_lt hk
      exact_mod_cast this
    calc (k : ℝ) * 2 ^ t < 2 ^ 53 * 2 ^ t := mul_lt_mul_of_pos_right hkr (two_zpow_pos t)
      _ = 2 ^ ((53 : ℤ) + t) := by rw [zpow_add₀ (by norm_num)]; norm_num
      _ ≤ 2 ^ Int.log 2 v := zpow_le_zpow_right₀ (by norm_num) (by omega)

/-! ## Rounding a non-negative real -/

/-- A non-negative real rounded to the nearest double of unbounded exponent, ties to even. -/
noncomputable def roundNear (v : ℝ) : ℝ :=
  (roundEven (v / 2 ^ quantum v) : ℝ) * 2 ^ quantum v

/-- Scaled by the last place of the binade, no multiple of that place is nearer. -/
theorem roundNear_nearest_multiple (v : ℝ) (n : ℤ) :
    |roundNear v - v| ≤ |(n : ℝ) * 2 ^ quantum v - v| := by
  have hq := two_zpow_pos (quantum v)
  have hscale : ∀ m : ℝ, m * 2 ^ quantum v - v = (m - v / 2 ^ quantum v) * 2 ^ quantum v := by
    intro m
    field_simp
  rw [roundNear, hscale, hscale, abs_mul, abs_mul, abs_of_pos hq]
  exact mul_le_mul_of_nonneg_right (roundEven_nearest _ n) hq.le

/-- Rounding to nearest: no double is nearer. -/
theorem roundNear_nearest {v f : ℝ} (hv : 0 ≤ v) (hf : OnGrid f) :
    |roundNear v - v| ≤ |f - v| := by
  rcases hv.eq_or_lt with rfl | hv
  · simp [roundNear]
  rcases onGrid_cases (v := v) hf with ⟨n, rfl⟩ | ⟨hnormal, hbelow⟩
  · exact roundNear_nearest_multiple v n
  · -- below the binade: farther than the binade's first point
    have hfirst : (2 : ℝ) ^ Int.log 2 v = ((2 ^ 52 : ℤ) : ℝ) * 2 ^ quantum v := by
      rw [hnormal, zpow_sub₀ (by norm_num)]
      push_cast
      field_simp
      norm_num
    have hlow := zpow_log_le hv
    calc |roundNear v - v| ≤ |((2 ^ 52 : ℤ) : ℝ) * 2 ^ quantum v - v| :=
          roundNear_nearest_multiple v _
      _ = v - 2 ^ Int.log 2 v := by rw [← hfirst, abs_of_nonpos (by linarith)]; ring
      _ ≤ |f - v| := by rw [abs_of_neg (by linarith)]; linarith

theorem roundNear_nonneg {v : ℝ} (hv : 0 ≤ v) : 0 ≤ roundNear v := by
  have : (0 : ℤ) ≤ roundEven (v / 2 ^ quantum v) :=
    le_roundEven_of_le (by simpa using div_nonneg hv (two_zpow_pos (quantum v)).le)
  exact mul_nonneg (by exact_mod_cast this) (two_zpow_pos _).le

/-- The rounding is a double: a significand up to `2^53`, where `2^53` is `2^52` one place up. -/
theorem roundNear_onGrid {v : ℝ} (hv : 0 ≤ v) : OnGrid (roundNear v) := by
  set n := roundEven (v / 2 ^ quantum v) with hn
  have hn0 : 0 ≤ n := le_roundEven_of_le (by simpa using div_nonneg hv (two_zpow_pos _).le)
  have hn53 : n ≤ 2 ^ 53 := roundEven_le_of_le (by exact_mod_cast div_quantum_lt.le)
  rcases hn53.lt_or_eq with hlt | heq
  · exact ⟨n, quantum v, by rwa [abs_of_nonneg hn0], le_quantum v, rfl⟩
  · -- the significand carried into a new binade
    refine ⟨2 ^ 52, quantum v + 1, by norm_num, by have := le_quantum v; omega, ?_⟩
    rw [roundNear, ← hn, heq, zpow_add₀ (by norm_num)]
    push_cast
    ring

/-- Rounding fixes every double. -/
theorem roundNear_eq_self {f : ℝ} (hf : OnGrid f) (h0 : 0 ≤ f) : roundNear f = f := by
  have := roundNear_nearest h0 hf
  rw [sub_self, abs_zero] at this
  exact sub_eq_zero.1 (abs_nonpos_iff.1 this)

/-- Rounding is monotone: of two nearest points, the one of the smaller value is not above the
other, since each is at least as near to its own value. -/
theorem roundNear_mono {v w : ℝ} (hv : 0 ≤ v) (hvw : v ≤ w) : roundNear v ≤ roundNear w := by
  by_contra hlt
  rw [not_le] at hlt
  have hw : 0 ≤ w := hv.trans hvw
  have h1 := roundNear_nearest hv (roundNear_onGrid hw)
  have h2 := roundNear_nearest hw (roundNear_onGrid hv)
  rw [← sq_le_sq] at h1 h2
  -- a nearer point of two lies on the side of their midpoint: so `v` is above it, `w` below
  have hv_mid : roundNear v + roundNear w ≤ 2 * v := by nlinarith
  have hw_mid : 2 * w ≤ roundNear v + roundNear w := by nlinarith
  have hveq : v = w := le_antisymm hvw (by linarith)
  subst hveq
  exact lt_irrefl _ hlt

/-- Rounding moves a value by at most half a last place. -/
theorem roundNear_sub_le (v : ℝ) : |roundNear v - v| ≤ 2 ^ quantum v / 2 := by
  have hq := two_zpow_pos (quantum v)
  have hscale : roundNear v - v = ((roundEven (v / 2 ^ quantum v) : ℝ) - v / 2 ^ quantum v) *
      2 ^ quantum v := by
    rw [roundNear]
    field_simp
  rw [hscale, abs_mul, abs_of_pos hq]
  have := roundEven_sub_le (v / 2 ^ quantum v)
  nlinarith

/-- For a normal value the last place is at most `2^-52` of it, so rounding moves it by at most
`2^-53` of it. -/
theorem roundNear_sub_le_rel {v : ℝ} (hv : (2 : ℝ) ^ (-1022 : ℤ) ≤ v) :
    |roundNear v - v| ≤ v / 2 ^ 53 := by
  have hpos : 0 < v := (two_zpow_pos _).trans_le hv
  have hlog : -1022 ≤ Int.log 2 v := by
    have := Int.zpow_le_iff_le_log (R := ℝ) (b := 2) (by norm_num) hpos (x := -1022)
    exact this.1 (by simpa using hv)
  have hquantum : quantum v = Int.log 2 v - 52 := by unfold quantum; omega
  have hplace : (2 : ℝ) ^ quantum v ≤ v / 2 ^ 52 := by
    rw [hquantum, zpow_sub₀ (by norm_num)]
    exact div_le_div_of_nonneg_right (zpow_log_le hpos) (by norm_num)
  calc |roundNear v - v| ≤ 2 ^ quantum v / 2 := roundNear_sub_le v
    _ ≤ v / 2 ^ 52 / 2 := by linarith
    _ = v / 2 ^ 53 := by ring

/-- The least positive double, `2^-1074`: the absolute part of every rounding error. -/
noncomputable def leastDouble : ℝ := 2 ^ (-1074 : ℤ)

theorem leastDouble_pos : 0 < leastDouble := two_zpow_pos _

/-- Rounding moves a non-negative value by at most `2^-52` of it plus `2^-1074`: a relative
error for normal values, and at most half the subnormals' last place below them. -/
theorem roundNear_sub_le_abs {v : ℝ} (hv : 0 ≤ v) :
    |roundNear v - v| ≤ v / 2 ^ 52 + leastDouble := by
  have hη := leastDouble_pos
  unfold leastDouble at hη ⊢
  rcases hv.eq_or_lt with rfl | hpos
  · simp only [roundNear, zero_div, roundEven_zero, Int.cast_zero, zero_mul, sub_zero, abs_zero]
    linarith
  by_cases hnormal : (2 : ℝ) ^ (-1022 : ℤ) ≤ v
  · have hrel := roundNear_sub_le_rel hnormal
    have : v / 2 ^ 53 ≤ v / 2 ^ 52 := div_le_div_of_nonneg_left hv (by norm_num) (by norm_num)
    linarith
  · -- below the normal range the last place is the subnormals' `2^-1074`
    have hlog := log_lt_of_lt_two_zpow hpos (not_le.1 hnormal)
    have hq : quantum v = -1074 := by unfold quantum; omega
    have habs := roundNear_sub_le v
    rw [hq] at habs
    have : 0 ≤ v / 2 ^ 52 := by positivity
    linarith

/-! ## Rounding a signed real, with overflow -/

/-- A real rounded to the nearest double of unbounded exponent: its magnitude rounded, signed. -/
noncomputable def roundSigned (v : ℝ) : ℝ :=
  if 0 ≤ v then roundNear v else -roundNear (-v)

theorem roundSigned_mono {v w : ℝ} (hvw : v ≤ w) : roundSigned v ≤ roundSigned w := by
  unfold roundSigned
  split_ifs with hv hw hw
  · exact roundNear_mono hv hvw
  · exact absurd (hv.trans hvw) hw
  · have := roundNear_nonneg (by linarith : 0 ≤ -v)
    have := roundNear_nonneg hw
    linarith
  · exact neg_le_neg (roundNear_mono (by linarith) (by linarith))

theorem roundSigned_eq_self {f : ℝ} (hf : OnGrid f) : roundSigned f = f := by
  unfold roundSigned
  split_ifs with h0
  · exact roundNear_eq_self hf h0
  · rw [roundNear_eq_self hf.neg (by linarith), neg_neg]

/-- Rounding moves any real by at most `2^-52` of its magnitude plus `2^-1074`. -/
theorem roundSigned_sub_le (r : ℝ) : |roundSigned r - r| ≤ |r| / 2 ^ 52 + leastDouble := by
  unfold roundSigned
  split_ifs with hr
  · rw [abs_of_nonneg hr]
    exact roundNear_sub_le_abs hr
  · have hneg : 0 ≤ -r := by linarith
    rw [abs_of_neg (not_le.1 hr), show -roundNear (-r) - r = -(roundNear (-r) - -r) by ring,
      abs_neg]
    exact roundNear_sub_le_abs hneg

/-- The least magnitude no finite double reaches, `2^1024`. -/
noncomputable def overflowBound : ℝ := 2 ^ (1024 : ℤ)

theorem overflowBound_pos : 0 < overflowBound := two_zpow_pos 1024

/-- A real at or beyond `2^1024` in magnitude is an infinity of the extended line. -/
noncomputable def clip (x : ℝ) : EReal :=
  if overflowBound ≤ x then ⊤ else if x ≤ -overflowBound then ⊥ else (x : EReal)

theorem clip_mono {x y : ℝ} (hxy : x ≤ y) : clip x ≤ clip y := by
  unfold clip
  split_ifs <;> first
    | exact le_top
    | exact bot_le
    | exact EReal.coe_le_coe_iff.2 hxy
    | (exfalso; linarith)

/-- A real rounded to the nearest double: infinite when its rounded magnitude reaches
`overflowBound`. -/
noncomputable def roundExt (v : ℝ) : EReal := clip (roundSigned v)

theorem roundExt_mono {v w : ℝ} (hvw : v ≤ w) : roundExt v ≤ roundExt w :=
  clip_mono (roundSigned_mono hvw)

/-- A double below `2^1024` in magnitude rounds to itself. -/
theorem roundExt_eq_self {f : ℝ} (hf : OnGrid f) (hlt : |f| < overflowBound) :
    roundExt f = (f : EReal) := by
  rw [roundExt, roundSigned_eq_self hf, clip, abs_lt] at *
  rw [if_neg (by linarith), if_neg (by linarith)]

/-- A magnitude whose rounding is always finite, `7 · 2^1021`: a double below `2^1024`. -/
noncomputable def finiteBound : ℝ := 7 * 2 ^ (1021 : ℤ)

theorem finiteBound_pos : 0 < finiteBound := by
  unfold finiteBound
  have := two_zpow_pos 1021
  positivity

/-- A real of magnitude at most `finiteBound` rounds to a finite double. -/
theorem roundExt_of_abs_le {r : ℝ} (h : |r| ≤ finiteBound) :
    roundExt r = ((roundSigned r : ℝ) : EReal) := by
  unfold finiteBound at h
  have hgrid : OnGrid (7 * 2 ^ (1021 : ℤ)) := ⟨7, 1021, by norm_num, by norm_num, by push_cast; ring⟩
  have hlt : (7 : ℝ) * 2 ^ (1021 : ℤ) < overflowBound := by
    rw [overflowBound, show (1024 : ℤ) = 3 + 1021 by norm_num, zpow_add₀ two_ne_zero]
    have := two_zpow_pos 1021
    norm_num
  obtain ⟨hlo, hhi⟩ := abs_le.1 h
  have h1 : roundSigned r ≤ 7 * 2 ^ (1021 : ℤ) :=
    (roundSigned_mono hhi).trans_eq (roundSigned_eq_self hgrid)
  have h2 : -(7 * 2 ^ (1021 : ℤ)) ≤ roundSigned r :=
    (roundSigned_eq_self hgrid.neg).symm.trans_le (roundSigned_mono hlo)
  unfold roundExt clip
  rw [if_neg (by linarith), if_neg (by linarith)]

end TransitRouting.Binary64
