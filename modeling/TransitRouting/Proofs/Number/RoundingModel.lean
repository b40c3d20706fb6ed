import TransitRouting.Proofs.Number.NearestDouble
import TransitRouting.Proofs.Number.ExactNaturals

/-!
# The double model rounds to nearest

Every arithmetic operation of the double model ends in `roundWithAccuracy`: it is given a
significand `m`, an exponent `e` and an accuracy that says where the exact result lies in the
gap from `m · 2^e` to `(m + 1) · 2^e`. It shifts the significand right to the last place of the
result's binade, keeping a round bit and a sticky bit, rounds with ties to even, and shifts once
more if the rounding carried into a new binade.

The round and sticky bits keep an exact meaning through every shift (`Represents`), so the
rounded significand is the nearest integer of the scaled value (`Represents.roundedMantissa_eq`)
and the result is the real rounded to nearest, `roundNear`, in canonical form
(`roundWithAccuracy_holds`): zero, or a significand below `2^53` whose leading bit is at
position 52 unless the exponent is the subnormals' `-1074`.
-/

set_option autoImplicit false

namespace TransitRouting.Binary64

open Float.Model Float.Model.UnpackedFloat

/-! ## What the round and sticky bits mean -/

/-- Where a real lies from an integer `m`, as an accuracy records it: at `m`, below or above the
midpoint `m + 1/2` of the gap to `m + 1`, or on the midpoint. -/
def Describes : Accuracy → ℕ → ℝ → Prop
  | .exact, m, x => x = m
  | .inexact .lt, m, x => (m : ℝ) < x ∧ x < m + 1 / 2
  | .inexact .eq, m, x => x = m + 1 / 2
  | .inexact .gt, m, x => (m : ℝ) + 1 / 2 < x ∧ x < m + 1

/-- An extended significand describes a real by its round and sticky bits. -/
def Represents (em : ExtendedMantissa) (x : ℝ) : Prop :=
  Describes em.accuracy em.mantissa x

theorem represents_ofMantissaAndAccuracy {acc : Accuracy} {m : ℕ} {x : ℝ}
    (h : Describes acc m x) : Represents (ExtendedMantissa.ofMantissaAndAccuracy m acc) x := by
  rcases acc with _ | (_ | _ | _) <;> exact h

/-- A described real lies in the gap above its significand. -/
theorem Describes.bounds {acc : Accuracy} {m : ℕ} {x : ℝ} (h : Describes acc m x) :
    (m : ℝ) ≤ x ∧ x < m + 1 := by
  rcases acc with _ | (_ | _ | _)
  · simp only [Describes] at h
    constructor <;> linarith
  · obtain ⟨h1, h2⟩ := h
    constructor <;> linarith
  · simp only [Describes] at h
    constructor <;> linarith
  · obtain ⟨h1, h2⟩ := h
    constructor <;> linarith

theorem Represents.bounds {em : ExtendedMantissa} {x : ℝ} (h : Represents em x) :
    (em.mantissa : ℝ) ≤ x ∧ x < em.mantissa + 1 :=
  Describes.bounds h

/-- Shifting right by one halves the described real: the dropped bit becomes the round bit and
the old round and sticky bits the new sticky bit. -/
theorem Represents.shiftRightOne {em : ExtendedMantissa} {x : ℝ} (h : Represents em x) :
    Represents em.shiftRightOne (x / 2) := by
  rcases em with ⟨m, r, s⟩
  have hsplit : ((m % 2 : ℕ) : ℝ) + 2 * ((m / 2 : ℕ) : ℝ) = m := by
    exact_mod_cast Nat.mod_add_div m 2
  rcases Nat.mod_two_eq_zero_or_one m with hpar | hpar <;> rw [hpar] at hsplit <;>
    cases r <;> cases s <;>
    simp_all [Represents, Describes, ExtendedMantissa.accuracy,
      ExtendedMantissa.shiftRightOne] <;>
    first
      | linarith
      | (constructor <;> linarith)

/-- Shifting right by `n` divides the described real by `2^n`. -/
theorem Represents.shiftRight {em : ExtendedMantissa} {x : ℝ} (h : Represents em x) (n : ℕ) :
    Represents (em >>> n) (x / 2 ^ n) := by
  induction n with
  | zero =>
    rw [pow_zero, div_one]
    exact h
  | succ n ih =>
    have hstep := ih.shiftRightOne
    rw [div_div, ← pow_succ] at hstep
    exact hstep

/-- The rounded significand is the nearest integer, the even one on a tie. -/
theorem Represents.roundedMantissa_eq {em : ExtendedMantissa} {x : ℝ} (h : Represents em x) :
    (em.roundedMantissa : ℤ) = roundEven x := by
  have hfloor : ⌊x⌋ = (em.mantissa : ℤ) := by
    rw [Int.floor_eq_iff]
    exact_mod_cast h.bounds
  rcases em with ⟨m, r, s⟩
  simp only at hfloor
  -- the four positions in the gap: at `m`, below, on or above the midpoint
  cases r <;> cases s <;> simp only [Represents, Describes, ExtendedMantissa.accuracy] at h
  · rw [roundEven_of_lt (by rw [hfloor, h]; norm_num), hfloor]
    rfl
  · rw [roundEven_of_lt (by rw [hfloor]; push_cast; linarith [h.2]), hfloor]
    rfl
  · rw [roundEven_of_eq (by rw [hfloor, h]; push_cast; ring), hfloor]
    simp [ExtendedMantissa.roundedMantissa, ExtendedMantissa.accuracy,
      Accuracy.roundToNearestEven]
  · rw [roundEven_of_gt (by rw [hfloor]; push_cast; linarith [h.1]), hfloor]
    simp [ExtendedMantissa.roundedMantissa, ExtendedMantissa.accuracy,
      Accuracy.roundToNearestEven]

/-! ## The two shifts of a rounding -/

/-- The format's exponent for a total exponent `t`: 53 places below it, but not below the
subnormals'. -/
@[simp]
theorem targetExponent_binary64 (t : ℤ) :
    Format.binary64.targetExponent t = max (t - 53) (-1074) := by
  simp [Format.targetExponent, Format.mantissaBits, Format.minExponent]

/-- A positive real described at exponent `e` by a positive significand lies in the binade of
the significand's leading bit. -/
theorem log_eq_of_describes {acc : Accuracy} {m : ℕ} {e : ℤ} {v : ℝ} (hm : 0 < m)
    (h : Describes acc m (v / 2 ^ e)) : Int.log 2 v = m.log2 + e := by
  obtain ⟨hlo, hhi⟩ := h.bounds
  have he := two_zpow_pos e
  have hlog_lo : ((2 ^ m.log2 : ℕ) : ℝ) ≤ m := by exact_mod_cast Nat.log2_self_le (by omega)
  have hlog_hi : (m : ℝ) + 1 ≤ ((2 ^ (m.log2 + 1) : ℕ) : ℝ) := by
    exact_mod_cast Nat.lt_log2_self
  rw [le_div_iff₀ he] at hlo
  rw [div_lt_iff₀ he] at hhi
  have hpos : 0 < v := lt_of_lt_of_le (mul_pos (by exact_mod_cast hm) he) hlo
  push_cast at hlog_lo hlog_hi
  apply le_antisymm
  · rw [← Int.lt_add_one_iff, ← Int.lt_zpow_iff_log_lt (by norm_num) hpos]
    calc v < (m + 1) * 2 ^ e := hhi
      _ ≤ 2 ^ (m.log2 + 1) * 2 ^ e := mul_le_mul_of_nonneg_right hlog_hi he.le
      _ = (2 : ℝ) ^ ((m.log2 : ℤ) + e + 1) := by
        rw [show ((m.log2 : ℤ) + e + 1) = ((m.log2 + 1 : ℕ) : ℤ) + e by push_cast; ring,
          zpow_add₀ (by norm_num), zpow_natCast]
      _ = ((2 : ℕ) : ℝ) ^ ((m.log2 : ℤ) + e + 1) := by norm_num
  · rw [← Int.zpow_le_iff_le_log (by norm_num) hpos]
    calc ((2 : ℕ) : ℝ) ^ ((m.log2 : ℤ) + e) = 2 ^ m.log2 * 2 ^ e := by
          rw [zpow_add₀ (by norm_num), zpow_natCast]; norm_num
      _ ≤ m * 2 ^ e := mul_le_mul_of_nonneg_right hlog_lo he.le
      _ ≤ v := hlo

/-- For a positive significand the model's exponent for the result is the last place of the
described real's binade. -/
theorem targetExponent_eq_quantum {acc : Accuracy} {m : ℕ} {e : ℤ} {v : ℝ} (hm : 0 < m)
    (h : Describes acc m (v / 2 ^ e)) :
    Format.binary64.targetExponent (totalExponent m e) = quantum v := by
  rw [targetExponent_binary64, quantum, log_eq_of_describes hm h, totalExponent]
  congr 1
  ring

/-- The first shift moves the significand to the target exponent. -/
theorem shiftToTargetExponent_first {acc : Accuracy} {m : ℕ} {e q : ℤ}
    (htarget : Format.binary64.targetExponent (totalExponent m e) = q) (he : e ≤ q) :
    shiftToTargetExponent Format.binary64 m e acc =
      (ExtendedMantissa.ofMantissaAndAccuracy m acc >>> (q - e).toNat, q) := by
  simp only [shiftToTargetExponent, htarget, shiftToExponent]
  congr 1
  omega

/-- A rounded significand below `2^53` needs no second shift. -/
theorem shiftToTargetExponent_of_lt {r : ℕ} {q : ℤ} (hr : r < 2 ^ 53) (hq : -1074 ≤ q) :
    shiftToTargetExponent Format.binary64 r q .exact = (⟨r, false, false⟩, q) := by
  have hlog : r.log2 < 53 := by
    rcases Nat.eq_zero_or_pos r with rfl | hpos
    · decide
    · exact (Nat.log2_lt (by omega)).2 hr
  have hshift : (Format.binary64.targetExponent (totalExponent r q) - q).toNat = 0 := by
    rw [targetExponent_binary64, totalExponent]
    omega
  simp only [shiftToTargetExponent, shiftToExponent, hshift]
  exact Prod.ext rfl (by simp)

/-- A rounded significand that carried to `2^53` is shifted once more, exactly. -/
theorem shiftToTargetExponent_carry {q : ℤ} (hq : -1074 ≤ q) :
    shiftToTargetExponent Format.binary64 (2 ^ 53) q .exact = (⟨2 ^ 52, false, false⟩, q + 1) := by
  have hshift : (Format.binary64.targetExponent (totalExponent (2 ^ 53) q) - q).toNat = 1 := by
    rw [targetExponent_binary64, totalExponent, show (2 ^ 53 : ℕ).log2 = 53 by decide]
    omega
  simp only [shiftToTargetExponent, shiftToExponent, hshift]
  exact Prod.ext rfl (by simp)

/-! ## Rounding -/

/-- A significand and an exponent in the form the model keeps doubles in: a significand below
`2^53` whose leading bit is at position 52, unless the exponent is the subnormals' `-1074`. -/
structure Canonical (m : ℕ) (e : ℤ) : Prop where
  lt : m < 2 ^ 53
  exp_ge : -1074 ≤ e
  normal_or_subnormal : 2 ^ 52 ≤ m ∨ e = -1074

/-- An unpacked double of the given sign holds the non-negative real `r` in canonical form. -/
def Holds (sign : Sign) (u : UnpackedFloat) (r : ℝ) : Prop :=
  (r = 0 ∧ u = .zero sign) ∨
    ∃ m e h, u = .finite sign m e h ∧ Canonical m e ∧ (m : ℝ) * 2 ^ e = r

/-- Rounding in the model, given a significand, an exponent at or below the last place of the
binade and an accuracy that together describe a positive real, and the model's own exponent for
the result, holds the real rounded to nearest. -/
theorem roundWithAccuracy_holds (sign : Sign) {m : ℕ} {e : ℤ} {acc : Accuracy} {v : ℝ}
    (hpos : 0 < v) (hdesc : Describes acc m (v / 2 ^ e))
    (htarget : Format.binary64.targetExponent (totalExponent m e) = quantum v)
    (he : e ≤ quantum v) :
    Holds sign (roundWithAccuracy Format.binary64 sign m e acc) (roundNear v) := by
  set q := quantum v with hq
  have hq1074 : -1074 ≤ q := le_quantum v
  set em := ExtendedMantissa.ofMantissaAndAccuracy m acc >>> (q - e).toNat with hem
  -- after the first shift the bits describe the real scaled to the last place of its binade
  have hrep : Represents em (v / 2 ^ q) := by
    have := (represents_ofMantissaAndAccuracy hdesc).shiftRight (q - e).toNat
    rwa [div_div, ← zpow_natCast, ← zpow_add₀ (by norm_num),
      show e + ((q - e).toNat : ℤ) = q by omega] at this
  have hround : (em.roundedMantissa : ℤ) = roundEven (v / 2 ^ q) := hrep.roundedMantissa_eq
  have hr53 : em.roundedMantissa ≤ 2 ^ 53 := by
    have : roundEven (v / 2 ^ q) ≤ 2 ^ 53 := roundEven_le_of_le (by exact_mod_cast div_quantum_lt.le)
    omega
  have hvalue : roundNear v = (em.roundedMantissa : ℝ) * 2 ^ q := by
    rw [roundNear, ← hq, ← hround]
    norm_cast
  rw [roundWithAccuracy, shiftToTargetExponent_first htarget he]
  rcases hr53.lt_or_eq with hlt | hcarry
  · -- no carry: the rounded significand at the last place of the binade
    simp only [← hem, shiftToTargetExponent_of_lt hlt hq1074]
    by_cases hzero : em.roundedMantissa = 0
    · refine .inl ⟨?_, dif_pos hzero⟩
      rw [hvalue, hzero]
      simp
    · refine .inr ⟨_, _, _, dif_neg hzero, ⟨hlt, hq1074, ?_⟩, hvalue.symm⟩
      -- above the subnormals the scaled real is at least `2^52`, and so is its rounding
      by_cases hsub : q = -1074
      · exact .inr hsub
      · refine .inl ?_
        have hnormal : q = Int.log 2 v - 52 := by rw [hq, quantum] at hsub ⊢; omega
        have hlow : (2 : ℝ) ^ 52 ≤ v / 2 ^ q := by
          rw [le_div_iff₀ (two_zpow_pos q), hnormal, zpow_sub₀ (by norm_num)]
          have := zpow_log_le hpos
          field_simp
          linarith
        have : (2 ^ 52 : ℤ) ≤ roundEven (v / 2 ^ q) := le_roundEven_of_le (by exact_mod_cast hlow)
        omega
  · -- a carry into the next binade: `2^52` one place up
    simp only [← hem, hcarry, shiftToTargetExponent_carry hq1074]
    refine .inr ⟨_, _, _, dif_neg (by norm_num), ⟨by norm_num, by omega, .inl le_rfl⟩, ?_⟩
    rw [hvalue, hcarry, zpow_add₀ (by norm_num)]
    push_cast
    ring

end TransitRouting.Binary64
