import TransitRouting.Proofs.Number.Hypot
import TransitRouting.Geo.Coord

/-!
# The distance between two points is symmetric

`Coord.distance a b` is the length of `a - b`. The double model computes `y - x` as the
rounding of the negated exact difference of `x - y`, and rounding attaches the sign last; the
bit pattern of a double keeps its sign apart from its magnitude. So `x - y` and `y - x` have the
same magnitude (`unpacked_sub_abs`), and the length reads its sides only through their magnitudes
and classes (`hypot_congr`): the distance from `a` to `b` is the distance from `b` to `a`, bit
for bit (`Coord.distance_comm`).
-/

set_option autoImplicit false

namespace TransitRouting.Binary64

open Float.Model Float.Model.UnpackedFloat

/-! ## Magnitudes in the double model -/

/-- Rounding attaches the sign last: the magnitude it gives does not depend on it. -/
theorem round_abs (spec : Format) (s : Sign) (m : ℕ) (e : ℤ) :
    (UnpackedFloat.round spec s m e).abs = (UnpackedFloat.round spec .positive m e).abs := by
  unfold UnpackedFloat.round roundWithAccuracy
  dsimp only
  split <;> rfl

theorem normalize_neg_abs (spec : Format) (M e : ℤ) (z : Sign) :
    (UnpackedFloat.normalize spec (-M) e z).abs = (UnpackedFloat.normalize spec M e z).abs := by
  unfold UnpackedFloat.normalize
  rcases lt_trichotomy M 0 with h | rfl | h
  · rw [(compare_lt_iff_lt.2 h : compare M 0 = .lt),
      (compare_gt_iff_gt.2 (by omega) : compare (-M) 0 = .gt), neg_neg, round_abs,
      round_abs spec .negative]
  · rfl
  · rw [(compare_gt_iff_gt.2 h : compare M 0 = .gt),
      (compare_lt_iff_lt.2 (by omega) : compare (-M) 0 = .lt), neg_neg, round_abs,
      round_abs spec .positive]

/-- A difference and the difference the other way round have one magnitude. -/
theorem sub_swap_abs (spec : Format) (u w : UnpackedFloat) :
    (UnpackedFloat.sub spec u w).abs = (UnpackedFloat.sub spec w u).abs := by
  cases u with
  | finite s₁ m₁ e₁ h₁ =>
    cases w with
    | finite s₂ m₂ e₂ h₂ =>
      -- both are the rounding of one integer and of its negation, at the same exponent
      simp only [UnpackedFloat.sub, min_comm e₂ e₁]
      rw [← normalize_neg_abs, neg_sub]
    | _ => rfl
  | infinity s₁ =>
    cases w with
    | infinity s₂ => cases s₁ <;> cases s₂ <;> rfl
    | _ => rfl
  | zero s₁ =>
    cases w with
    | zero s₂ => cases s₁ <;> cases s₂ <;> rfl
    | _ => rfl
  | notANumber => cases w <;> rfl

/-- The sign bit of a packed double is read apart from its exponent and fraction fields. -/
theorem unpack_packComponents_abs (s s' : Sign) (exponent : BitVec 11) (mantissa : BitVec 52) :
    (UnpackedFloat.unpack Format.binary64 (packComponents Format.binary64 s exponent mantissa)).abs =
      (UnpackedFloat.unpack Format.binary64
        (packComponents Format.binary64 s' exponent mantissa)).abs := by
  unfold UnpackedFloat.unpack
  simp only [unpackMantissa_packComponents, unpackExponent_packComponents]
  -- the sign read back is the only difference, and the magnitude drops it
  simp only [apply_dite UnpackedFloat.abs, apply_ite UnpackedFloat.abs]
  simp only [UnpackedFloat.abs]

/-- Packing and unpacking a double keeps its magnitude apart from its sign. -/
theorem unpack_pack_abs (u : UnpackedFloat) :
    (UnpackedFloat.unpack Format.binary64 (UnpackedFloat.pack Format.binary64 u)).abs =
      (UnpackedFloat.unpack Format.binary64 (UnpackedFloat.pack Format.binary64 u.abs)).abs := by
  cases u with
  | notANumber => rfl
  | infinity s => exact unpack_packComponents_abs s .positive _ _
  | zero s => exact unpack_packComponents_abs s .positive _ _
  | finite s m e h =>
    simp only [UnpackedFloat.pack, UnpackedFloat.abs]
    split_ifs
    · exact unpack_packComponents_abs s .positive _ _
    · exact unpack_packComponents_abs s .positive _ _
    · exact unpack_packComponents_abs s .positive _ _

/-! ## Doubles of one magnitude -/

theorem unpacked_sub_abs (x y : Float) : (unpacked (x - y)).abs = (unpacked (y - x)).abs := by
  rw [unpacked_sub, unpacked_sub, unpack_pack_abs, sub_swap_abs, ← unpack_pack_abs]

theorem abs_eq_infinity_iff (u : UnpackedFloat) :
    u.abs = .infinity .positive ↔ ∃ s, u = .infinity s := by
  cases u <;> simp [UnpackedFloat.abs]

theorem abs_eq_nan_iff (u : UnpackedFloat) : u.abs = .notANumber ↔ u = .notANumber := by
  cases u <;> simp [UnpackedFloat.abs]

theorem Float.abs_eq_of_unpacked_abs {a b : Float} (h : (unpacked a).abs = (unpacked b).abs) :
    a.abs = b.abs := by
  show Float.ofModel (Float.Model.pack (unpacked a).abs) =
    Float.ofModel (Float.Model.pack (unpacked b).abs)
  rw [h]

theorem isInfinite_eq_of_unpacked_abs {a b : Float} (h : (unpacked a).abs = (unpacked b).abs) :
    isInfinite a = isInfinite b := by
  rw [Bool.eq_iff_iff, isInfinite_iff, isInfinite_iff, ← abs_eq_infinity_iff (unpacked a),
    ← abs_eq_infinity_iff (unpacked b), h]

theorem isNaN_eq_of_unpacked_abs {a b : Float} (h : (unpacked a).abs = (unpacked b).abs) :
    isNaN a = isNaN b := by
  rw [Bool.eq_iff_iff, isNaN_iff, isNaN_iff, ← abs_eq_nan_iff (unpacked a),
    ← abs_eq_nan_iff (unpacked b), h]

/-- The length reads its sides only through their magnitudes. -/
theorem hypot_congr {a b a' b' : Float} (ha : (unpacked a).abs = (unpacked a').abs)
    (hb : (unpacked b).abs = (unpacked b').abs) : hypot a b = hypot a' b' := by
  simp only [hypot, isInfinite_eq_of_unpacked_abs ha, isInfinite_eq_of_unpacked_abs hb,
    isNaN_eq_of_unpacked_abs ha, isNaN_eq_of_unpacked_abs hb,
    Float.abs_eq_of_unpacked_abs ha, Float.abs_eq_of_unpacked_abs hb]

end TransitRouting.Binary64

namespace TransitRouting.Coord

/-- The distance from one point to another is the distance back, bit for bit. -/
theorem distance_comm (a b : Coord) : a.distance b = b.distance a :=
  Binary64.hypot_congr (Binary64.unpacked_sub_abs _ _) (Binary64.unpacked_sub_abs _ _)

end TransitRouting.Coord
