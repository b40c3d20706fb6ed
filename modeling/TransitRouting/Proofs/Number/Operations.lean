import TransitRouting.Proofs.Number.Packing

/-!
# The operations of the double model round the exact result

The model computes a sum, a difference, a product, a quotient or a square root of finite
doubles exactly, as a significand and an exponent with an accuracy, and hands it to the rounding
of `RoundingModel`. So each operation on finite doubles holds the exact real result rounded to
nearest, with its sign (`RoundsTo`): `add_roundsTo`, `sub_roundsTo`, `mul_roundsTo`,
`div_roundsTo`, `sqrt_roundsTo`. Packed and unpacked again, such a result is `roundExt` of the
exact real (`extValue_unpack_pack_of_roundsTo`).

Comparison in the model orders the canonical forms lexicographically by exponent and
significand; on canonical forms that is the order of their values (`compare_eq`).
-/

set_option autoImplicit false

namespace TransitRouting.Binary64

open Float.Model Float.Model.UnpackedFloat

/-! ## Rounded results with a sign -/

/-- An unpacked double holds the real `r` rounded to nearest: a canonical form of the rounded
magnitude, with the sign of `r` (either sign when `r` is zero). -/
def RoundsTo (u : UnpackedFloat) (r : ℝ) : Prop :=
  ∃ sign, Holds sign u (roundNear |r|) ∧ signed sign |r| = r

theorem signed_nonneg {sign : Sign} {r : ℝ} (h : signed sign |r| = r) (hr : 0 ≤ r) :
    signed sign (roundNear |r|) = roundNear r := by
  rw [abs_of_nonneg hr] at h ⊢
  cases sign
  · -- only a zero carries the negative sign here
    have : r = 0 := by simp only [signed] at h; linarith
    subst this
    simp [signed, roundNear]
  · rfl

theorem roundSigned_eq_signed {sign : Sign} {r : ℝ} (h : signed sign |r| = r) :
    roundSigned r = signed sign (roundNear |r|) := by
  unfold roundSigned
  split_ifs with hr
  · exact (signed_nonneg h hr).symm
  · have hneg : r < 0 := not_le.1 hr
    rw [abs_of_neg hneg] at h ⊢
    cases sign
    · rfl
    · simp only [signed] at h
      linarith

/-- A rounded result, packed and unpacked, has the rounded real as its value. -/
theorem extValue_unpack_pack_of_roundsTo {u : UnpackedFloat} {r : ℝ} (h : RoundsTo u r) :
    extValue (UnpackedFloat.unpack Format.binary64 (UnpackedFloat.pack Format.binary64 u)) =
      roundExt r := by
  obtain ⟨sign, hholds, hsign⟩ := h
  rw [extValue_unpack_pack hholds, roundExt, roundSigned_eq_signed hsign]

theorem unpack_pack_ne_nan_of_roundsTo {u : UnpackedFloat} {r : ℝ} (h : RoundsTo u r) :
    UnpackedFloat.unpack Format.binary64 (UnpackedFloat.pack Format.binary64 u) ≠ .notANumber :=
  let ⟨_, hholds, _⟩ := h
  unpack_pack_ne_nan hholds

/-! ## Rounding an exact significand -/

/-- The model's `round` holds the rounding of `m · 2^e`: it first lowers the exponent to the
last place of the result's binade, then rounds exactly. -/
theorem round_holds (sign : Sign) {m : ℕ} (hm : 0 < m) (e : ℤ) :
    Holds sign (UnpackedFloat.round Format.binary64 sign m e) (roundNear (m * 2 ^ e)) := by
  have hv : 0 < (m : ℝ) * 2 ^ e := mul_pos (by exact_mod_cast hm) (two_zpow_pos e)
  have hq : Format.binary64.targetExponent (totalExponent m e) = quantum ((m : ℝ) * 2 ^ e) :=
    @targetExponent_eq_quantum .exact _ _ _ hm (by
      simp only [Describes]
      field_simp)
  set k := (e - Format.binary64.targetExponent (totalExponent m e)).toNat with hk
  have hdesc : Describes .exact (m <<< k) ((m : ℝ) * 2 ^ e / 2 ^ (e - k)) := by
    simp only [Describes, Nat.shiftLeft_eq]
    rw [zpow_sub₀ (by norm_num), zpow_natCast]
    push_cast
    field_simp
  have hshift : 0 < m <<< k := by
    rw [Nat.shiftLeft_eq]
    exact Nat.mul_pos hm (Nat.two_pow_pos k)
  unfold UnpackedFloat.round decreaseExponent
  exact roundWithAccuracy_holds sign hv hdesc (targetExponent_eq_quantum hshift hdesc)
    (by omega)

theorem signed_cast_apply (s : Sign) (n : ℕ) : ((s.apply n : ℤ) : ℝ) = signed s n := by
  cases s <;> simp [Sign.apply, signed]

/-- `normalize` rounds a signed significand, with the given sign for an exact zero. -/
theorem normalize_roundsTo (M e : ℤ) (zeroSign : Sign) :
    RoundsTo (UnpackedFloat.normalize Format.binary64 M e zeroSign) (M * 2 ^ e) := by
  unfold UnpackedFloat.normalize
  rcases lt_trichotomy M 0 with hM | rfl | hM
  · rw [show compare M 0 = .lt from compare_lt_iff_lt.2 hM]
    have habs : |(M : ℝ) * 2 ^ e| = (((-M).toNat : ℕ) : ℝ) * 2 ^ e := by
      rw [abs_mul, abs_of_pos (two_zpow_pos e), abs_of_neg (by exact_mod_cast hM),
        ← Int.cast_natCast, Int.toNat_of_nonneg (by omega)]
      push_cast
      ring
    refine ⟨.negative, habs ▸ round_holds .negative (by omega) e, ?_⟩
    rw [abs_of_neg (mul_neg_of_neg_of_pos (by exact_mod_cast hM) (two_zpow_pos e))]
    simp [signed]
  · refine ⟨zeroSign, .inl ⟨by simp [roundNear], rfl⟩, ?_⟩
    cases zeroSign <;> simp [signed]
  · rw [show compare M 0 = .gt from compare_gt_iff_gt.2 hM]
    have habs : |(M : ℝ) * 2 ^ e| = ((M.toNat : ℕ) : ℝ) * 2 ^ e := by
      rw [abs_of_pos (mul_pos (by exact_mod_cast hM) (two_zpow_pos e)), ← Int.cast_natCast,
        Int.toNat_of_nonneg hM.le]
    refine ⟨.positive, habs ▸ round_holds .positive (by omega) e, ?_⟩
    rw [abs_of_pos (mul_pos (by exact_mod_cast hM) (two_zpow_pos e))]
    rfl

/-! ## Sums and differences -/

/-- A significand shifted left to a lower exponent keeps its signed value. -/
theorem apply_shiftLeft_mul (s : Sign) (m : ℕ) {e t : ℤ} (ht : t ≤ e) :
    ((s.apply ((m <<< (e - t).toNat : ℕ) : ℤ) : ℤ) : ℝ) * 2 ^ t = signed s (m * 2 ^ e) := by
  rw [signed_cast_apply, Nat.shiftLeft_eq]
  have he : e = ((e - t).toNat : ℤ) + t := by omega
  cases s
  · simp only [signed]
    push_cast
    conv_rhs => rw [he, zpow_add₀ (by norm_num), zpow_natCast]
    ring
  · simp only [signed]
    push_cast
    conv_rhs => rw [he, zpow_add₀ (by norm_num), zpow_natCast]
    ring

theorem add_finite (s₁ s₂ : Sign) {m₁ m₂ : ℕ} {e₁ e₂ : ℤ} (h₁ : 0 < m₁) (h₂ : 0 < m₂) :
    RoundsTo (UnpackedFloat.add Format.binary64 (.finite s₁ m₁ e₁ h₁) (.finite s₂ m₂ e₂ h₂))
      (signed s₁ (m₁ * 2 ^ e₁) + signed s₂ (m₂ * 2 ^ e₂)) := by
  have hsum := normalize_roundsTo
    (s₁.apply ((m₁ <<< (e₁ - min e₁ e₂).toNat : ℕ) : ℤ) +
      s₂.apply ((m₂ <<< (e₂ - min e₁ e₂).toNat : ℕ) : ℤ)) (min e₁ e₂) .positive
  rw [Int.cast_add, add_mul, apply_shiftLeft_mul s₁ m₁ (min_le_left e₁ e₂),
    apply_shiftLeft_mul s₂ m₂ (min_le_right e₁ e₂)] at hsum
  exact hsum

theorem sub_finite (s₁ s₂ : Sign) {m₁ m₂ : ℕ} {e₁ e₂ : ℤ} (h₁ : 0 < m₁) (h₂ : 0 < m₂) :
    RoundsTo (UnpackedFloat.sub Format.binary64 (.finite s₁ m₁ e₁ h₁) (.finite s₂ m₂ e₂ h₂))
      (signed s₁ (m₁ * 2 ^ e₁) - signed s₂ (m₂ * 2 ^ e₂)) := by
  have hdiff := normalize_roundsTo
    (s₁.apply ((m₁ <<< (e₁ - min e₁ e₂).toNat : ℕ) : ℤ) -
      s₂.apply ((m₂ <<< (e₂ - min e₁ e₂).toNat : ℕ) : ℤ)) (min e₁ e₂) .positive
  rw [Int.cast_sub, sub_mul, apply_shiftLeft_mul s₁ m₁ (min_le_left e₁ e₂),
    apply_shiftLeft_mul s₂ m₂ (min_le_right e₁ e₂)] at hdiff
  exact hdiff

/-! ## Products -/

theorem abs_signed (s : Sign) (r : ℝ) : |signed s r| = |r| := by
  cases s <;> simp [signed]

theorem signed_mul (s₁ s₂ : Sign) (x y : ℝ) :
    signed (s₁ * s₂) (x * y) = signed s₁ x * signed s₂ y := by
  cases s₁ <;> cases s₂
  · exact (neg_mul_neg x y).symm
  · exact (neg_mul x y).symm
  · exact (mul_neg x y).symm
  · rfl

theorem signed_div (s₁ s₂ : Sign) (x y : ℝ) :
    signed (s₁ / s₂) (x / y) = signed s₁ x / signed s₂ y := by
  cases s₁ <;> cases s₂
  · exact (neg_div_neg_eq x y).symm
  · exact (neg_div y x).symm
  · exact (div_neg x).symm
  · rfl

/-- The exact product of two canonical significands is at or below the last place of its
binade: a factor above the subnormals has its leading bit at position 52, and two subnormal
exponents add up below the least exponent. -/
theorem mul_exponent_le {m₁ m₂ : ℕ} {e₁ e₂ : ℤ} (h₁ : 0 < m₁) (h₂ : 0 < m₂)
    (hc₁ : Canonical m₁ e₁) (hc₂ : Canonical m₂ e₂) :
    e₁ + e₂ ≤ Format.binary64.targetExponent (totalExponent (m₁ * m₂) (e₁ + e₂)) := by
  have hprod : m₁ * m₂ ≠ 0 := Nat.mul_ne_zero (by omega) (by omega)
  have hlog : 2 ^ 52 ≤ m₁ * m₂ → 52 ≤ (m₁ * m₂).log2 := (Nat.le_log2 hprod).2
  rw [targetExponent_binary64, totalExponent]
  rcases hc₁.normal_or_subnormal with hn₁ | he₁
  · have := hlog (le_trans hn₁ (Nat.le_mul_of_pos_right m₁ h₂))
    omega
  · rcases hc₂.normal_or_subnormal with hn₂ | he₂
    · have := hlog (le_trans hn₂ (Nat.le_mul_of_pos_left m₂ h₁))
      omega
    · omega

/-- A product of two finite forms, at an exponent no higher than the last place of the
product's binade, holds the exact product rounded; the forms need not be canonical. -/
theorem mul_finite_of_le (s₁ s₂ : Sign) {m₁ m₂ : ℕ} {e₁ e₂ : ℤ} (h₁ : 0 < m₁) (h₂ : 0 < m₂)
    (hle : e₁ + e₂ ≤ Format.binary64.targetExponent (totalExponent (m₁ * m₂) (e₁ + e₂))) :
    RoundsTo (UnpackedFloat.mul Format.binary64 (.finite s₁ m₁ e₁ h₁) (.finite s₂ m₂ e₂ h₂))
      (signed s₁ (m₁ * 2 ^ e₁) * signed s₂ (m₂ * 2 ^ e₂)) := by
  have hm : 0 < m₁ * m₂ := Nat.mul_pos h₁ h₂
  have hvalue : (m₁ : ℝ) * 2 ^ e₁ * (m₂ * 2 ^ e₂) = ((m₁ * m₂ : ℕ) : ℝ) * 2 ^ (e₁ + e₂) := by
    rw [zpow_add₀ (by norm_num)]
    push_cast
    ring
  have hv : 0 < ((m₁ * m₂ : ℕ) : ℝ) * 2 ^ (e₁ + e₂) :=
    mul_pos (by exact_mod_cast hm) (two_zpow_pos _)
  have hdesc : Describes .exact (m₁ * m₂) (((m₁ * m₂ : ℕ) : ℝ) * 2 ^ (e₁ + e₂) / 2 ^ (e₁ + e₂)) := by
    simp only [Describes]
    field_simp
  have htarget := targetExponent_eq_quantum hm hdesc
  refine ⟨s₁ * s₂, ?_, ?_⟩
  · rw [abs_mul, abs_signed, abs_signed, abs_of_pos (mul_pos (by exact_mod_cast h₁)
      (two_zpow_pos _)), abs_of_pos (mul_pos (by exact_mod_cast h₂) (two_zpow_pos _)), hvalue]
    exact roundWithAccuracy_holds _ hv hdesc htarget (htarget ▸ hle)
  · rw [abs_mul, abs_signed, abs_signed, abs_of_pos (mul_pos (by exact_mod_cast h₁)
      (two_zpow_pos _)), abs_of_pos (mul_pos (by exact_mod_cast h₂) (two_zpow_pos _)),
      signed_mul]

theorem mul_finite (s₁ s₂ : Sign) {m₁ m₂ : ℕ} {e₁ e₂ : ℤ} (h₁ : 0 < m₁) (h₂ : 0 < m₂)
    (hc₁ : Canonical m₁ e₁) (hc₂ : Canonical m₂ e₂) :
    RoundsTo (UnpackedFloat.mul Format.binary64 (.finite s₁ m₁ e₁ h₁) (.finite s₂ m₂ e₂ h₂))
      (signed s₁ (m₁ * 2 ^ e₁) * signed s₂ (m₂ * 2 ^ e₂)) :=
  mul_finite_of_le s₁ s₂ h₁ h₂ (mul_exponent_le h₁ h₂ hc₁ hc₂)

/-! ## Quotients -/

/-- The accuracy of a quotient read off the remainder: where `M / d` lies from its integer
part. -/
theorem describes_div (M d : ℕ) (hd : 0 < d) :
    Describes (accuracyOfFraction (M % d) d) (M / d) ((M : ℝ) / d) := by
  have hdr : (0 : ℝ) < d := by exact_mod_cast hd
  have hsplit : (M : ℝ) / d = (M / d : ℕ) + ((M % d : ℕ) : ℝ) / d := by
    have h : (d : ℝ) * (M / d : ℕ) + (M % d : ℕ) = M := by exact_mod_cast Nat.div_add_mod M d
    rw [div_eq_iff hdr.ne', add_mul, div_mul_cancel₀ _ hdr.ne']
    linarith
  have hrem : ((M % d : ℕ) : ℝ) < d := by exact_mod_cast Nat.mod_lt M hd
  unfold accuracyOfFraction
  split_ifs with hzero
  · simp only [Describes, hsplit, hzero]
    simp
  · have hpos : (0 : ℝ) < ((M % d : ℕ) : ℝ) / d := div_pos (by exact_mod_cast Nat.pos_of_ne_zero hzero) hdr
    have hlt1 : ((M % d : ℕ) : ℝ) / d < 1 := (div_lt_one hdr).2 hrem
    rcases lt_trichotomy (2 * (M % d)) d with hlt | heq | hgt
    · rw [show compare (2 * (M % d)) d = .lt from compare_lt_iff_lt.2 hlt]
      have : ((M % d : ℕ) : ℝ) / d < 1 / 2 := by
        rw [div_lt_iff₀ hdr]
        have : ((2 * (M % d) : ℕ) : ℝ) < d := by exact_mod_cast hlt
        push_cast at this
        linarith
      exact ⟨by rw [hsplit]; linarith, by rw [hsplit]; linarith⟩
    · rw [show compare (2 * (M % d)) d = .eq from compare_eq_iff_eq.2 heq]
      show (M : ℝ) / d = (M / d : ℕ) + 1 / 2
      rw [hsplit]
      have : ((2 * (M % d) : ℕ) : ℝ) = d := by exact_mod_cast heq
      push_cast at this
      field_simp
      linarith
    · rw [show compare (2 * (M % d)) d = .gt from compare_gt_iff_gt.2 hgt]
      have : 1 / 2 < ((M % d : ℕ) : ℝ) / d := by
        rw [lt_div_iff₀ hdr]
        have : (d : ℝ) < ((2 * (M % d) : ℕ) : ℝ) := by exact_mod_cast hgt
        push_cast at this
        linarith
      exact ⟨by rw [hsplit]; linarith, by rw [hsplit]; linarith⟩

/-- A quotient of significands is at least `2^L`, for `L` the difference of the positions of
their leading bits and of their exponents, less one. -/
theorem two_zpow_le_quotient {m₁ m₂ : ℕ} (h₁ : 0 < m₁) (h₂ : 0 < m₂) (e₁ e₂ : ℤ) :
    (2 : ℝ) ^ ((m₁.log2 : ℤ) - m₂.log2 + e₁ - e₂ - 1) ≤ m₁ * 2 ^ e₁ / (m₂ * 2 ^ e₂) := by
  have hlo : ((2 ^ m₁.log2 : ℕ) : ℝ) ≤ m₁ := by exact_mod_cast Nat.log2_self_le (by omega)
  have hhi : (m₂ : ℝ) < ((2 ^ (m₂.log2 + 1) : ℕ) : ℝ) := by exact_mod_cast Nat.lt_log2_self
  push_cast at hlo hhi
  have hsplit : (2 : ℝ) ^ ((m₁.log2 : ℤ) - m₂.log2 + e₁ - e₂ - 1) =
      2 ^ m₁.log2 * 2 ^ e₁ / (2 ^ (m₂.log2 + 1) * 2 ^ e₂) := by
    rw [show ((m₁.log2 : ℤ) - m₂.log2 + e₁ - e₂ - 1) =
      ((m₁.log2 : ℕ) + e₁) - (((m₂.log2 + 1 : ℕ) : ℤ) + e₂) by push_cast; ring,
      zpow_sub₀ (by norm_num), zpow_add₀ (by norm_num), zpow_add₀ (by norm_num), zpow_natCast,
      zpow_natCast]
  rw [hsplit]
  exact div_le_div₀ (by positivity) (mul_le_mul_of_nonneg_right hlo (two_zpow_pos e₁).le)
    (by positivity) (mul_le_mul_of_nonneg_right hhi.le (two_zpow_pos e₂).le)

theorem div_finite (s₁ s₂ : Sign) {m₁ m₂ : ℕ} {e₁ e₂ : ℤ} (h₁ : 0 < m₁) (h₂ : 0 < m₂) :
    RoundsTo (UnpackedFloat.div Format.binary64 (.finite s₁ m₁ e₁ h₁) (.finite s₂ m₂ e₂ h₂))
      (signed s₁ (m₁ * 2 ^ e₁) / signed s₂ (m₂ * 2 ^ e₂)) := by
  have hx : 0 < (m₁ : ℝ) * 2 ^ e₁ := mul_pos (by exact_mod_cast h₁) (two_zpow_pos _)
  have hy : 0 < (m₂ : ℝ) * 2 ^ e₂ := mul_pos (by exact_mod_cast h₂) (two_zpow_pos _)
  set v : ℝ := m₁ * 2 ^ e₁ / (m₂ * 2 ^ e₂) with hv_def
  have hv : 0 < v := div_pos hx hy
  set t := min (e₁ - e₂)
    (Format.binary64.targetExponent (totalExponent m₁ e₁ - totalExponent m₂ e₂)) with ht
  set k := (e₁ - e₂ - t).toNat with hk
  have hkt : (k : ℤ) = e₁ - e₂ - t := by omega
  -- the significand shifted so that the integer quotient has enough bits
  have hscaled : v / 2 ^ t = ((m₁ <<< k : ℕ) : ℝ) / m₂ := by
    rw [Nat.shiftLeft_eq, Nat.cast_mul, Nat.cast_pow, Nat.cast_ofNat, ← zpow_natCast, hkt,
      hv_def, zpow_sub₀ (by norm_num), zpow_sub₀ (by norm_num)]
    field_simp
  have hdesc : Describes (accuracyOfFraction ((m₁ <<< k) % m₂) m₂) ((m₁ <<< k) / m₂)
      (v / 2 ^ t) := hscaled ▸ describes_div _ _ h₂
  have hlog : (m₁.log2 : ℤ) - m₂.log2 + e₁ - e₂ - 1 ≤ Int.log 2 v :=
    le_log_of_two_zpow_le hv (two_zpow_le_quotient h₁ h₂ e₁ e₂)
  have htq : t ≤ max ((m₁.log2 : ℤ) - m₂.log2 + e₁ - e₂ - 53) (-1074) := by
    rw [ht, targetExponent_binary64, totalExponent, totalExponent]
    omega
  have he : t ≤ quantum v := by
    unfold quantum
    omega
  have htarget : Format.binary64.targetExponent (totalExponent ((m₁ <<< k) / m₂) t) =
      quantum v := by
    rcases Nat.eq_zero_or_pos ((m₁ <<< k) / m₂) with hq | hq
    · -- a quotient below one last place happens only below the least exponent
      have hlt : v < 2 ^ t := by
        have := hdesc.bounds.2
        rw [hq, div_lt_iff₀ (two_zpow_pos t)] at this
        push_cast at this
        linarith
      have hlogt := log_lt_of_lt_two_zpow hv hlt
      rw [hq, targetExponent_binary64, totalExponent]
      unfold quantum
      simp only [Nat.log2_zero, Nat.cast_zero]
      omega
    · exact targetExponent_eq_quantum hq hdesc
  refine ⟨s₁ / s₂, ?_, ?_⟩
  · rw [abs_div, abs_signed, abs_signed, abs_of_pos hx, abs_of_pos hy]
    exact roundWithAccuracy_holds _ hv hdesc htarget he
  · rw [abs_div, abs_signed, abs_signed, abs_of_pos hx, abs_of_pos hy, signed_div]

/-! ## Square roots -/

/-- The accuracy of an integer square root read off the remainder: `√M` lies below the midpoint
`r + 1/2` exactly when `M - r² ≤ r`. -/
theorem describes_sqrt (M : ℕ) :
    Describes (if M - Nat.sqrt M * Nat.sqrt M = 0 then .exact
      else .inexact (if M - Nat.sqrt M * Nat.sqrt M ≤ Nat.sqrt M then .lt else .gt))
      (Nat.sqrt M) (Real.sqrt M) := by
  set r := Nat.sqrt M with hr
  have hle : r * r ≤ M := Nat.sqrt_le M
  have hlt : M < (r + 1) * (r + 1) := Nat.lt_succ_sqrt M
  have hr0 : (0 : ℝ) ≤ r := Nat.cast_nonneg r
  split_ifs with hzero hbelow
  · -- a perfect square
    have hM : (M : ℝ) = r * r := by exact_mod_cast (by omega : M = r * r)
    show Real.sqrt M = r
    rw [hM, Real.sqrt_mul_self hr0]
  · have h1 : (r : ℝ) * r < M := by exact_mod_cast (by omega : r * r < M)
    have h2 : (M : ℝ) ≤ r * r + r := by exact_mod_cast (by omega : M ≤ r * r + r)
    refine ⟨(Real.lt_sqrt hr0).2 (by nlinarith), (Real.sqrt_lt' (by positivity)).2 (by nlinarith)⟩
  · have h1 : (r : ℝ) * r + r + 1 ≤ M := by exact_mod_cast (by omega : r * r + r + 1 ≤ M)
    have h2 : (M : ℝ) < (r + 1) * (r + 1) := by exact_mod_cast hlt
    refine ⟨(Real.lt_sqrt (by positivity)).2 (by nlinarith),
      (Real.sqrt_lt' (by positivity)).2 (by nlinarith)⟩

theorem sqrt_finite {m : ℕ} {e : ℤ} (h : 0 < m) :
    RoundsTo (UnpackedFloat.sqrt Format.binary64 (.finite .positive m e h))
      (Real.sqrt (m * 2 ^ e)) := by
  have hx : 0 < (m : ℝ) * 2 ^ e := mul_pos (by exact_mod_cast h) (two_zpow_pos _)
  have hv : 0 < Real.sqrt (m * 2 ^ e) := Real.sqrt_pos.2 hx
  set t := min (e / 2) (Format.binary64.targetExponent ((totalExponent m e + 1) / 2)) with ht
  set k := (e - 2 * t).toNat with hk
  have hkt : (k : ℤ) = e - 2 * t := by omega
  -- the significand shifted to an even exponent with enough bits for the root
  have hroot : Real.sqrt (m * 2 ^ e) = Real.sqrt ((m <<< k : ℕ) : ℝ) * 2 ^ t := by
    have hsplit : (m : ℝ) * 2 ^ e = ((m <<< k : ℕ) : ℝ) * (2 ^ t * 2 ^ t) := by
      rw [Nat.shiftLeft_eq, Nat.cast_mul, Nat.cast_pow, Nat.cast_ofNat, ← zpow_natCast, hkt,
        mul_assoc, ← zpow_add₀ (by norm_num), ← zpow_add₀ (by norm_num)]
      ring_nf
    rw [hsplit, Real.sqrt_mul (Nat.cast_nonneg _), Real.sqrt_mul_self (two_zpow_pos t).le]
  have hdesc := describes_sqrt (m <<< k)
  rw [← mul_div_cancel_right₀ (Real.sqrt ((m <<< k : ℕ) : ℝ)) (two_zpow_pos t).ne',
    ← hroot] at hdesc
  have hpos : 0 < Nat.sqrt (m <<< k) := by
    rw [Nat.sqrt_pos, Nat.shiftLeft_eq]
    exact Nat.mul_pos h (Nat.two_pow_pos k)
  have hlow : (2 : ℝ) ^ (((m.log2 : ℤ) + e) / 2) ≤ Real.sqrt (m * 2 ^ e) := by
    rw [Real.le_sqrt (two_zpow_pos _).le hx.le, ← zpow_natCast, ← zpow_mul]
    have hlo : ((2 ^ m.log2 : ℕ) : ℝ) ≤ m := by exact_mod_cast Nat.log2_self_le (by omega)
    push_cast at hlo
    calc (2 : ℝ) ^ ((((m.log2 : ℤ) + e) / 2) * ((2 : ℕ) : ℤ)) ≤ 2 ^ ((m.log2 : ℤ) + e) :=
          zpow_le_zpow_right₀ (by norm_num) (by push_cast; omega)
      _ = 2 ^ m.log2 * 2 ^ e := by rw [zpow_add₀ (by norm_num), zpow_natCast]
      _ ≤ m * 2 ^ e := mul_le_mul_of_nonneg_right hlo (two_zpow_pos e).le
  have hlog := le_log_of_two_zpow_le hv hlow
  have he : t ≤ quantum (Real.sqrt (m * 2 ^ e)) := by
    rw [ht, targetExponent_binary64, totalExponent]
    unfold quantum
    omega
  refine ⟨.positive, ?_, ?_⟩
  · rw [abs_of_pos hv]
    exact roundWithAccuracy_holds _ hv hdesc (targetExponent_eq_quantum hpos hdesc) he
  · rw [abs_of_pos hv]
    rfl

/-! ## Finite operands in general -/

/-- A finite unpacked double: a signed zero, or a significand and an exponent. -/
def FiniteForm : UnpackedFloat → Prop
  | .zero _ => True
  | .finite .. => True
  | _ => False

theorem signed_neg (s : Sign) (r : ℝ) : signed (-s) r = -signed s r := by
  cases s
  · exact (neg_neg r).symm
  · rfl

theorem roundsTo_zero (s : Sign) : RoundsTo (.zero s) 0 :=
  ⟨s, .inl ⟨by simp [roundNear], rfl⟩, by cases s <;> simp [signed]⟩

/-- A canonical double holds its own value. -/
theorem roundsTo_finite (s : Sign) {m : ℕ} {e : ℤ} (h : 0 < m) (hc : Canonical m e) :
    RoundsTo (.finite s m e h) (signed s (m * 2 ^ e)) := by
  have hx : 0 < (m : ℝ) * 2 ^ e := mul_pos (by exact_mod_cast h) (two_zpow_pos _)
  have hgrid : OnGrid ((m : ℝ) * 2 ^ e) :=
    ⟨m, e, by rw [abs_of_nonneg (by omega)]; exact_mod_cast hc.lt, hc.exp_ge, by push_cast; rfl⟩
  refine ⟨s, .inr ⟨m, e, h, rfl, hc, ?_⟩, ?_⟩
  · rw [abs_signed, abs_of_pos hx, roundNear_eq_self hgrid hx.le]
  · rw [abs_signed, abs_of_pos hx]

theorem roundsTo_of_wellFormed {u : UnpackedFloat} (hw : WellFormed u) (hf : FiniteForm u) :
    RoundsTo u (value u) := by
  cases u with
  | zero s => exact roundsTo_zero s
  | finite s m e h => exact roundsTo_finite s h hw.1
  | _ => exact hf.elim

theorem add_roundsTo {u w : UnpackedFloat} (hu : WellFormed u) (hw : WellFormed w)
    (hfu : FiniteForm u) (hfw : FiniteForm w) :
    RoundsTo (UnpackedFloat.add Format.binary64 u w) (value u + value w) := by
  cases u with
  | zero s₁ =>
    cases w with
    | zero s₂ =>
      simp only [UnpackedFloat.add, value, add_zero]
      split_ifs
      · exact roundsTo_zero s₁
      · exact roundsTo_zero .positive
    | finite s₂ m₂ e₂ h₂ =>
      rw [value_zero, zero_add]
      exact roundsTo_of_wellFormed hw hfw
    | _ => exact hfw.elim
  | finite s₁ m₁ e₁ h₁ =>
    cases w with
    | zero s₂ =>
      rw [value_zero, add_zero]
      exact roundsTo_of_wellFormed hu hfu
    | finite s₂ m₂ e₂ h₂ => exact add_finite s₁ s₂ h₁ h₂
    | _ => exact hfw.elim
  | _ => exact hfu.elim

theorem sub_roundsTo {u w : UnpackedFloat} (hu : WellFormed u) (hw : WellFormed w)
    (hfu : FiniteForm u) (hfw : FiniteForm w) :
    RoundsTo (UnpackedFloat.sub Format.binary64 u w) (value u - value w) := by
  cases u with
  | zero s₁ =>
    cases w with
    | zero s₂ =>
      simp only [UnpackedFloat.sub, value, sub_zero]
      split_ifs
      · exact roundsTo_zero s₁
      · exact roundsTo_zero .positive
    | finite s₂ m₂ e₂ h₂ =>
      rw [value_zero, value_finite, zero_sub, ← signed_neg]
      exact roundsTo_finite (-s₂) h₂ hw.1
    | _ => exact hfw.elim
  | finite s₁ m₁ e₁ h₁ =>
    cases w with
    | zero s₂ =>
      rw [value_zero, sub_zero]
      exact roundsTo_of_wellFormed hu hfu
    | finite s₂ m₂ e₂ h₂ => exact sub_finite s₁ s₂ h₁ h₂
    | _ => exact hfw.elim
  | _ => exact hfu.elim

theorem mul_roundsTo {u w : UnpackedFloat} (hu : WellFormed u) (hw : WellFormed w)
    (hfu : FiniteForm u) (hfw : FiniteForm w) :
    RoundsTo (UnpackedFloat.mul Format.binary64 u w) (value u * value w) := by
  cases u with
  | zero s₁ =>
    rw [value_zero, zero_mul]
    cases w with
    | zero s₂ => exact roundsTo_zero _
    | finite s₂ m₂ e₂ h₂ => exact roundsTo_zero _
    | _ => exact hfw.elim
  | finite s₁ m₁ e₁ h₁ =>
    cases w with
    | zero s₂ =>
      rw [value_zero, mul_zero]
      exact roundsTo_zero _
    | finite s₂ m₂ e₂ h₂ => exact mul_finite s₁ s₂ h₁ h₂ hu.1 hw.1
    | _ => exact hfw.elim
  | _ => exact hfu.elim

/-- A quotient by a finite non-zero double. -/
theorem div_roundsTo {u w : UnpackedFloat} (hfu : FiniteForm u) (hw : value w ≠ 0) :
    RoundsTo (UnpackedFloat.div Format.binary64 u w) (value u / value w) := by
  cases w with
  | finite s₂ m₂ e₂ h₂ =>
    cases u with
    | zero s₁ =>
      rw [value_zero, zero_div]
      exact roundsTo_zero _
    | finite s₁ m₁ e₁ h₁ => exact div_finite s₁ s₂ h₁ h₂
    | _ => exact hfu.elim
  | _ => exact absurd rfl hw

/-- A square root of a finite double that is not below zero. -/
theorem sqrt_roundsTo {u : UnpackedFloat} (hfu : FiniteForm u) (hu : 0 ≤ value u) :
    RoundsTo (UnpackedFloat.sqrt Format.binary64 u) (Real.sqrt (value u)) := by
  cases u with
  | zero s =>
    rw [value_zero, Real.sqrt_zero]
    exact roundsTo_zero s
  | finite s m e h =>
    cases s with
    | positive => exact sqrt_finite h
    | negative =>
      have : (0 : ℝ) < m * 2 ^ e := mul_pos (by exact_mod_cast h) (two_zpow_pos _)
      simp only [value, signed] at hu
      linarith
  | _ => exact hfu.elim

/-! ## Comparison -/

/-- Two comparisons agree when they agree on which side is smaller. -/
theorem compare_eq_compare {α β : Type*} [LinearOrder α] [LinearOrder β] {a b : α} {c d : β}
    (hlt : a < b ↔ c < d) (hgt : b < a ↔ d < c) : compare a b = compare c d := by
  rcases lt_trichotomy a b with h | h | h
  · rw [compare_lt_iff_lt.2 h, compare_lt_iff_lt.2 (hlt.1 h)]
  · have hcd : c = d := le_antisymm (not_lt.1 (mt hgt.2 (by rw [h]; exact lt_irrefl b)))
      (not_lt.1 (mt hlt.2 (by rw [h]; exact lt_irrefl b)))
    rw [compare_eq_iff_eq.2 h, compare_eq_iff_eq.2 hcd]
  · rw [compare_gt_iff_gt.2 h, compare_gt_iff_gt.2 (hgt.1 h)]

/-- A canonical double with a smaller exponent is smaller: the larger exponent is above the
subnormals, so its significand has its leading bit at position 52. -/
theorem value_lt_of_exponent_lt {m₁ m₂ : ℕ} {e₁ e₂ : ℤ} (hc₁ : Canonical m₁ e₁)
    (hc₂ : Canonical m₂ e₂) (he : e₁ < e₂) : (m₁ : ℝ) * 2 ^ e₁ < m₂ * 2 ^ e₂ := by
  have hn₂ : 2 ^ 52 ≤ m₂ := hc₂.normal_or_subnormal.resolve_right (by have := hc₁.exp_ge; omega)
  calc (m₁ : ℝ) * 2 ^ e₁ < 2 ^ 53 * 2 ^ e₁ :=
        mul_lt_mul_of_pos_right (by exact_mod_cast hc₁.lt) (two_zpow_pos _)
    _ = 2 ^ 52 * 2 ^ (e₁ + 1) := by rw [zpow_add_one₀ (by norm_num)]; ring
    _ ≤ m₂ * 2 ^ e₂ := mul_le_mul (by exact_mod_cast hn₂)
        (zpow_le_zpow_right₀ (by norm_num) (by omega)) (two_zpow_pos _).le (by positivity)

/-- On canonical forms the lexicographic order of exponent and significand is the order of the
values. -/
theorem compare_canonical {m₁ m₂ : ℕ} {e₁ e₂ : ℤ} (hc₁ : Canonical m₁ e₁)
    (hc₂ : Canonical m₂ e₂) :
    (compare e₁ e₂).then (compare m₁ m₂) = compare ((m₁ : ℝ) * 2 ^ e₁) ((m₂ : ℝ) * 2 ^ e₂) := by
  rcases lt_trichotomy e₁ e₂ with he | rfl | he
  · rw [compare_lt_iff_lt.2 he, Ordering.lt_then,
      compare_lt_iff_lt.2 (value_lt_of_exponent_lt hc₁ hc₂ he)]
  · rw [compare_eq_iff_eq.2 rfl, Ordering.eq_then]
    have hp := two_zpow_pos e₁
    exact compare_eq_compare (by rw [mul_lt_mul_iff_left₀ hp, Nat.cast_lt])
      (by rw [mul_lt_mul_iff_left₀ hp, Nat.cast_lt])
  · rw [compare_gt_iff_gt.2 he, compare_gt_iff_gt.2 (value_lt_of_exponent_lt hc₂ hc₁ he)]
    rfl

theorem compare_coe (x y : ℝ) : compare (x : EReal) (y : EReal) = compare x y :=
  compare_eq_compare EReal.coe_lt_coe_iff EReal.coe_lt_coe_iff

theorem swap_compare_neg (a b : ℝ) : (compare a b).swap = compare (-a) (-b) := by
  rcases lt_trichotomy a b with h | rfl | h
  · rw [compare_lt_iff_lt.2 h, compare_gt_iff_gt.2 (neg_lt_neg h)]
    rfl
  · rw [compare_eq_iff_eq.2 rfl, compare_eq_iff_eq.2 rfl]
    rfl
  · rw [compare_gt_iff_gt.2 h, compare_lt_iff_lt.2 (neg_lt_neg h)]
    rfl

theorem extValue_finite (s : Sign) (m : ℕ) (e : ℤ) (h : 0 < m) :
    extValue (.finite s m e h) = ((signed s (m * 2 ^ e) : ℝ) : EReal) := rfl

/-- The model's comparison of well-formed doubles other than NaN is the comparison of their
values on the extended real line. -/
theorem compare_eq {u w : UnpackedFloat} (hu : WellFormed u) (hw : WellFormed w)
    (hun : u ≠ .notANumber) (hwn : w ≠ .notANumber) :
    u.compare w = some (compare (extValue u) (extValue w)) := by
  have hpos : ∀ {m : ℕ} (e : ℤ), 0 < m → (0 : ℝ) < m * 2 ^ e :=
    fun e h => mul_pos (by exact_mod_cast h) (two_zpow_pos e)
  cases u with
  | notANumber => exact absurd rfl hun
  | infinity s₁ =>
    cases w with
    | notANumber => exact absurd rfl hwn
    | infinity s₂ =>
      cases s₁ <;> cases s₂
      · exact congrArg some (compare_eq_iff_eq.2 rfl).symm
      · exact congrArg some (compare_lt_iff_lt.2 bot_lt_top).symm
      · exact congrArg some (compare_gt_iff_gt.2 bot_lt_top).symm
      · exact congrArg some (compare_eq_iff_eq.2 rfl).symm
    | zero s₂ =>
      cases s₁
      · exact congrArg some (compare_lt_iff_lt.2 (EReal.bot_lt_coe _)).symm
      · exact congrArg some (compare_gt_iff_gt.2 (EReal.coe_lt_top _)).symm
    | finite s₂ m₂ e₂ h₂ =>
      cases s₁
      · exact congrArg some (compare_lt_iff_lt.2 (EReal.bot_lt_coe _)).symm
      · exact congrArg some (compare_gt_iff_gt.2 (EReal.coe_lt_top _)).symm
  | zero s₁ =>
    cases w with
    | notANumber => exact absurd rfl hwn
    | infinity s₂ =>
      cases s₂
      · exact congrArg some (compare_gt_iff_gt.2 (EReal.bot_lt_coe _)).symm
      · exact congrArg some (compare_lt_iff_lt.2 (EReal.coe_lt_top _)).symm
    | zero s₂ => exact congrArg some (compare_eq_iff_eq.2 rfl).symm
    | finite s₂ m₂ e₂ h₂ =>
      rw [extValue_finite]
      cases s₂
      · exact congrArg some (compare_gt_iff_gt.2
          (EReal.coe_lt_coe_iff.2 (neg_lt_zero.2 (hpos e₂ h₂)))).symm
      · exact congrArg some (compare_lt_iff_lt.2 (EReal.coe_lt_coe_iff.2 (hpos e₂ h₂))).symm
  | finite s₁ m₁ e₁ h₁ =>
    cases w with
    | notANumber => exact absurd rfl hwn
    | infinity s₂ =>
      cases s₂
      · exact congrArg some (compare_gt_iff_gt.2 (EReal.bot_lt_coe _)).symm
      · exact congrArg some (compare_lt_iff_lt.2 (EReal.coe_lt_top _)).symm
    | zero s₂ =>
      rw [extValue_finite]
      cases s₁
      · exact congrArg some (compare_lt_iff_lt.2
          (EReal.coe_lt_coe_iff.2 (neg_lt_zero.2 (hpos e₁ h₁)))).symm
      · exact congrArg some (compare_gt_iff_gt.2 (EReal.coe_lt_coe_iff.2 (hpos e₁ h₁))).symm
    | finite s₂ m₂ e₂ h₂ =>
      rw [extValue_finite, extValue_finite, compare_coe]
      -- same signs compare the canonical forms, the negative ones swapped
      cases s₁ <;> cases s₂
      · show some ((compare e₁ e₂).then (compare m₁ m₂)).swap = _
        rw [compare_canonical hu.1 hw.1, swap_compare_neg]
        rfl
      · exact congrArg some (compare_lt_iff_lt.2
          ((neg_lt_zero.2 (hpos e₁ h₁)).trans (hpos e₂ h₂))).symm
      · exact congrArg some (compare_gt_iff_gt.2
          ((neg_lt_zero.2 (hpos e₂ h₂)).trans (hpos e₁ h₁))).symm
      · show some ((compare e₁ e₂).then (compare m₁ m₂)) = _
        rw [compare_canonical hu.1 hw.1]
        rfl

end TransitRouting.Binary64
