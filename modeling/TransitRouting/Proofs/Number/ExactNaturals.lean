import Mathlib
import TransitRouting.Number.Binary64

/-!
# Natural numbers as doubles

A natural number below `2^53` is a double exactly: converting it rounds nothing, and the double
has the number's bits as its significand, with a biased exponent field of `1023` plus the
position of its leading bit. In particular it is finite.

The conversion of the runtime goes through the general route for decimal literals: the number
as a 64-bit word converted to a double, times the power of ten `10^0`. Each step is the
rounding of the double model of the runtime, which is read here on exact significands: shifting
out zero bits loses nothing, a 53-bit significand is already rounded, and packing a normal
double and unpacking it again gives it back.

## What this module delivers

- `roundWithAccuracy_normal`: rounding a normal significand followed by zero bits is exact.
- `unpack_pack_normal`, `pack_normal_toNat`: the bit pattern of a normal double.
- `ofNat_toModel`: the double of a natural number below `2^53`.
- `isFinite_ofNat`: it is finite.
-/

set_option autoImplicit false

namespace TransitRouting.Binary64

open Float.Model Float.Model.UnpackedFloat

/-! ## Rounding exact significands -/

/-- Shifting an exact significand right past zero bits drops them and leaves it exact. -/
theorem shiftRight_exact (m s : Nat) :
    ExtendedMantissa.ofMantissaAndAccuracy (m * 2 ^ s) .exact >>> s =
      ExtendedMantissa.ofMantissaAndAccuracy m .exact := by
  induction s generalizing m with
  | zero => simp; rfl
  | succ s ih =>
    -- the first `s` shifts act on `2m` followed by `s` zero bits
    have hsplit : m * 2 ^ (s + 1) = (2 * m) * 2 ^ s := by
      rw [Nat.pow_succ]
      ac_rfl
    show ExtendedMantissa.shiftRightOne
      (ExtendedMantissa.ofMantissaAndAccuracy (m * 2 ^ (s + 1)) .exact >>> s) = _
    rw [hsplit, ih]
    simp [ExtendedMantissa.shiftRightOne, ExtendedMantissa.ofMantissaAndAccuracy]

/-- A significand of 53 bits has its leading bit at position 52. -/
theorem log2_of_normal {m : Nat} (lo : 2 ^ 52 ≤ m) (hi : m < 2 ^ 53) : m.log2 = 52 :=
  (Nat.log2_eq_iff (by omega)).2 ⟨lo, hi⟩

/-- A 53-bit significand followed by `s` zero bits has its leading bit at `52 + s`. -/
theorem log2_of_normal_shifted {m : Nat} (lo : 2 ^ 52 ≤ m) (hi : m < 2 ^ 53) (s : Nat) :
    (m * 2 ^ s).log2 = 52 + s := by
  have hpos : 0 < 2 ^ s := Nat.two_pow_pos s
  refine (Nat.log2_eq_iff (Nat.ne_of_gt (Nat.mul_pos (by omega) hpos))).2 ⟨?_, ?_⟩
  · rw [Nat.pow_add]
    exact Nat.mul_le_mul_right _ lo
  · rw [show 52 + s + 1 = 53 + s by omega, Nat.pow_add]
    exact Nat.mul_lt_mul_of_pos_right hi hpos

/-- A normal significand at a normal exponent is where the format wants it. -/
theorem targetExponent_normal {m : Nat} {e : Int} (lo : 2 ^ 52 ≤ m) (hi : m < 2 ^ 53)
    (he : -1074 ≤ e) : Format.binary64.targetExponent (totalExponent m e) = e := by
  simp only [Format.targetExponent, totalExponent, log2_of_normal lo hi, Format.mantissaBits,
    Format.minExponent]
  omega

/-- Rounding a 53-bit significand followed by `s` zero bits gives the significand back. -/
theorem roundWithAccuracy_normal (sign : Sign) {m : Nat} (lo : 2 ^ 52 ≤ m) (hi : m < 2 ^ 53)
    {e : Int} (he : -1074 ≤ e) (s : Nat) :
    roundWithAccuracy Format.binary64 sign (m * 2 ^ s) (e - s) .exact =
      .finite sign m e (by omega) := by
  have htarget : Format.binary64.targetExponent (totalExponent (m * 2 ^ s) (e - s)) = e := by
    simp only [Format.targetExponent, totalExponent, log2_of_normal_shifted lo hi s,
      Format.mantissaBits, Format.minExponent]
    omega
  -- the first shift drops the `s` zero bits; nothing is left to round or to shift again
  have hfirst : shiftToTargetExponent Format.binary64 (m * 2 ^ s) (e - s) .exact =
      (ExtendedMantissa.ofMantissaAndAccuracy m .exact, e) := by
    simp only [shiftToTargetExponent, htarget, shiftToExponent,
      show (e - (e - s)).toNat = s by omega, shiftRight_exact]
    congr 1
    omega
  have hsecond : shiftToTargetExponent Format.binary64 m e .exact =
      (ExtendedMantissa.ofMantissaAndAccuracy m .exact, e) := by
    simp only [shiftToTargetExponent, targetExponent_normal lo hi he, shiftToExponent,
      Int.sub_self, Int.toNat_zero]
    exact Prod.ext rfl (by omega)
  have hround : (ExtendedMantissa.ofMantissaAndAccuracy m .exact).roundedMantissa = m := rfl
  rw [roundWithAccuracy, hfirst]
  simp only [hround, hsecond]
  exact dif_neg (show m ≠ 0 by omega)

/-! ## Packing normal doubles -/

/-- Bits below position `i` joined to a multiple of `2^i` are added to it. -/
theorem mul_two_pow_or {a b i : Nat} (h : b < 2 ^ i) : a * 2 ^ i ||| b = a * 2 ^ i + b := by
  rw [Nat.mul_comm, Nat.two_pow_add_eq_or_of_lt h]

/-- The bit pattern of a normal double: the biased exponent above the 52 stored bits of the
significand. -/
theorem pack_normal_toNat (sign : Sign) {m : Nat} (lo : 2 ^ 52 ≤ m) (hi : m < 2 ^ 53) {e : Int}
    (he : -1074 ≤ e) (he' : e ≤ 971) :
    (UnpackedFloat.pack Format.binary64 (.finite sign m e (by omega))).toNat =
      sign.toBitVec.toNat * 2 ^ 63 + (e + 1075).toNat * 2 ^ 52 + m % 2 ^ 52 := by
  have hfits : ¬ 2 ^ Format.binary64.exponentBits ≤
      (e + Format.binary64.exponentBias + Format.binary64.mantissaBitsWithoutImplicit).toNat + 1 := by
    show ¬ 2048 ≤ (e + 1023 + 52).toNat + 1
    omega
  simp only [UnpackedFloat.pack, if_neg hfits, log2_of_normal lo hi]
  rw [if_pos (show 52 + 1 = Format.binary64.mantissaBits from rfl)]
  show (sign.toBitVec ++ BitVec.ofNat 11 (e + 1023 + 52).toNat ++ BitVec.ofNat 52 m).toNat = _
  have hfield : (e + 1023 + 52).toNat % 2048 = (e + 1075).toNat := by omega
  have hlow : m % 2 ^ 52 < 2 ^ 52 := Nat.mod_lt m (Nat.two_pow_pos 52)
  have hmid : (e + 1075).toNat < 2 ^ 11 := by omega
  simp only [BitVec.toNat_append, BitVec.toNat_ofNat, Nat.shiftLeft_eq, hfield]
  -- the three fields occupy disjoint bits, so joining them is adding them
  rw [mul_two_pow_or hmid, mul_two_pow_or hlow, Nat.add_mul, Nat.mul_assoc, ← Nat.pow_add]

/-- The sign bit of a packed double is the sign it was packed with. -/
theorem unpackSign_packComponents (sign : Sign) (exponent : BitVec 11) (mantissa : BitVec 52) :
    unpackSign (packComponents Format.binary64 sign exponent mantissa) = sign.toBitVec := by
  show (sign.toBitVec ++ exponent ++ mantissa).extractLsb' 63 1 = sign.toBitVec
  rw [BitVec.extractLsb'_append_eq_of_le (by decide), BitVec.extractLsb'_append_eq_of_le (by decide)]
  cases sign <;> rfl

/-- Unpacking a packed normal double gives it back. -/
theorem unpack_pack_normal (sign : Sign) {m : Nat} (lo : 2 ^ 52 ≤ m) (hi : m < 2 ^ 53) {e : Int}
    (he : -1074 ≤ e) (he' : e ≤ 971) :
    UnpackedFloat.unpack Format.binary64
        (UnpackedFloat.pack Format.binary64 (.finite sign m e (by omega))) =
      .finite sign m e (by omega) := by
  have hfits : ¬ 2 ^ Format.binary64.exponentBits ≤
      (e + Format.binary64.exponentBias + Format.binary64.mantissaBitsWithoutImplicit).toNat + 1 := by
    show ¬ 2048 ≤ (e + 1023 + 52).toNat + 1
    omega
  simp only [UnpackedFloat.pack, if_neg hfits, log2_of_normal lo hi]
  rw [if_pos (show 52 + 1 = Format.binary64.mantissaBits from rfl)]
  simp only [UnpackedFloat.unpack, unpackMantissa_packComponents, unpackExponent_packComponents,
    unpackSign_packComponents]
  -- the exponent field is neither all ones nor zero, so the double is normal
  have hfield : (BitVec.ofNat 11 (e + ↑Format.binary64.exponentBias + ↑52).toNat).toNat =
      (e + 1075).toNat := by
    show (e + 1023 + 52).toNat % 2048 = (e + 1075).toNat
    omega
  have hnotInf : BitVec.ofNat 11 (e + ↑Format.binary64.exponentBias + ↑52).toNat ≠ 2047#11 := by
    intro h
    have := congrArg BitVec.toNat h
    rw [hfield] at this
    change (e + 1075).toNat = 2047 at this
    omega
  have hnotSub : BitVec.ofNat 11 (e + ↑Format.binary64.exponentBias + ↑52).toNat ≠ 0#11 := by
    intro h
    have := congrArg BitVec.toNat h
    rw [hfield] at this
    change (e + 1075).toNat = 0 at this
    omega
  have hsignificand : (1#1 ++ BitVec.ofNat 52 m).toNat = m := by
    simp only [BitVec.toNat_append, BitVec.toNat_ofNat, Nat.shiftLeft_eq]
    rw [mul_two_pow_or (Nat.mod_lt m (Nat.two_pow_pos 52))]
    omega
  have hexponent : max (e + 1075) 0 - (↑Format.binary64.exponentBias + 52) = e := by
    show max (e + 1075) 0 - (1023 + 52) = e
    omega
  have hsign : Sign.ofBitVec sign.toBitVec = sign := by cases sign <;> rfl
  simp [hnotInf, hnotSub, hfield, hsignificand, hexponent, hsign]

/-! ## Natural numbers -/

/-- The significand of a positive natural number below `2^53`, moved up to 53 bits, and the
exponent that compensates. -/
theorem normal_shift {n : Nat} (h0 : 0 < n) (hn : n < 2 ^ 53) :
    2 ^ 52 ≤ n * 2 ^ (52 - n.log2) ∧ n * 2 ^ (52 - n.log2) < 2 ^ 53 := by
  have hlo := Nat.log2_self_le (Nat.ne_of_gt h0)
  have hhi : n < 2 ^ (n.log2 + 1) := Nat.lt_log2_self
  have hk : n.log2 < 53 := (Nat.log2_lt (Nat.ne_of_gt h0)).2 hn
  have hpos : 0 < 2 ^ (52 - n.log2) := Nat.two_pow_pos _
  constructor
  · calc 2 ^ 52 = 2 ^ n.log2 * 2 ^ (52 - n.log2) := by rw [← Nat.pow_add]; congr 1; omega
      _ ≤ n * 2 ^ (52 - n.log2) := Nat.mul_le_mul_right _ hlo
  · calc n * 2 ^ (52 - n.log2) < 2 ^ (n.log2 + 1) * 2 ^ (52 - n.log2) :=
          Nat.mul_lt_mul_of_pos_right hhi hpos
      _ = 2 ^ 53 := by rw [← Nat.pow_add]; congr 1; omega

/-- A positive natural number below `2^53` rounds to itself: its bits, moved up to a 53-bit
significand. -/
theorem ofNat_unpacked {n : Nat} (h0 : 0 < n) (hn : n < 2 ^ 53) :
    UnpackedFloat.ofNat Format.binary64 n =
      .finite .positive (n * 2 ^ (52 - n.log2)) (n.log2 - 52)
        (by have := (normal_shift h0 hn).1; omega) := by
  have hk : n.log2 < 53 := (Nat.log2_lt (Nat.ne_of_gt h0)).2 hn
  have hcompare : compare (n : Int) 0 = .gt := Int.compare_eq_gt.2 (by omega)
  have htarget : Format.binary64.targetExponent (totalExponent n 0) = (n.log2 : Int) - 52 := by
    simp only [Format.targetExponent, totalExponent, Format.mantissaBits, Format.minExponent]
    omega
  simp only [UnpackedFloat.ofNat, UnpackedFloat.ofInt, UnpackedFloat.normalize, hcompare,
    Int.toNat_natCast, UnpackedFloat.round, htarget, decreaseExponent, Nat.shiftLeft_eq]
  have hround := roundWithAccuracy_normal .positive (normal_shift h0 hn).1 (normal_shift h0 hn).2
    (e := (n.log2 : Int) - 52) (by omega) 0
  simp only [Nat.pow_zero, Nat.mul_one, Int.natCast_zero, Int.sub_zero] at hround
  rw [show (0 : Int) - ((0 - ((n.log2 : Int) - 52)).toNat : Nat) = (n.log2 : Int) - 52 by omega,
    show (0 - ((n.log2 : Int) - 52)).toNat = 52 - n.log2 by omega, hround]

/-- The double of a natural number below `2^53` is that number rounded once, which is exact: the
conversion of the word and the multiplication by `10^0` change nothing. -/
theorem ofNat_toModel {n : Nat} (hn : n < 2 ^ 53) :
    (Float.ofNat n).toModel = Float.Model.pack (UnpackedFloat.ofNat Format.binary64 n) := by
  have hword : n.toUInt64.toNat = n := Nat.mod_eq_of_lt (by omega)
  have hone : (Float.ofBits 4607182418800017408).toModel.unpack =
      .finite .positive (2 ^ 52) (-52) (by decide) := rfl
  show (Float.ofScientific n false 0).toModel = _
  rw [Float.ofScientific, dif_pos ⟨hn, by decide⟩]
  show Float.Model.mul (Float.Model.pack (UnpackedFloat.ofNat Format.binary64 n.toUInt64.toNat))
    (Float.ofBits 4607182418800017408).toModel = _
  rw [hword, Float.Model.mul, hone]
  rcases Nat.eq_zero_or_pos n with rfl | h0
  · rfl
  · rw [ofNat_unpacked h0 hn]
    have hshift := normal_shift h0 hn
    have hk : n.log2 < 53 := (Nat.log2_lt (Nat.ne_of_gt h0)).2 hn
    show Float.Model.pack (UnpackedFloat.mul Format.binary64
      (UnpackedFloat.unpack Format.binary64 (UnpackedFloat.pack Format.binary64 _)) _) = _
    rw [unpack_pack_normal .positive hshift.1 hshift.2 (by omega) (by omega)]
    -- the product with one is the significand followed by 52 zero bits, rounded back
    show Float.Model.pack (roundWithAccuracy Format.binary64 .positive
      (n * 2 ^ (52 - n.log2) * 2 ^ 52) ((n.log2 : Int) - 52 + -52) .exact) = _
    rw [show ((n.log2 : Int) - 52 + -52) = (n.log2 : Int) - 52 - ((52 : Nat) : Int) by omega,
      roundWithAccuracy_normal .positive hshift.1 hshift.2 (e := (n.log2 : Int) - 52) (by omega) 52]

/-- A natural number below `2^53` is a finite double. -/
theorem isFinite_ofNat {n : Nat} (hn : n < 2 ^ 53) : isFinite (Float.ofNat n) = true := by
  have hbits : (Float.ofNat n).toBits.toNat =
      (UnpackedFloat.pack Format.binary64 (UnpackedFloat.ofNat Format.binary64 n)).toNat := by
    show (Float.ofNat n).toModel.toBits.toNat = _
    rw [ofNat_toModel hn]
    rfl
  rcases Nat.eq_zero_or_pos n with rfl | h0
  · decide
  · have hshift := normal_shift h0 hn
    have hk : n.log2 < 53 := (Nat.log2_lt (Nat.ne_of_gt h0)).2 hn
    rw [ofNat_unpacked h0 hn, pack_normal_toNat .positive hshift.1 hshift.2 (by omega) (by omega)]
      at hbits
    -- the exponent field is the position of the leading bit plus 1023
    have hlow := Nat.mod_lt (n * 2 ^ (52 - n.log2)) (Nat.two_pow_pos 52)
    have hpositive : Sign.positive.toBitVec.toNat = 0 := rfl
    have hfield : (Float.ofNat n).toBits.toNat / 2 ^ 52 % 2048 = n.log2 + 1023 := by
      rw [hbits, hpositive]
      omega
    show ((Float.ofNat n).toBits.toNat / 2 ^ 52 % 2048 != 2047) = true
    rw [hfield]
    simp only [bne_iff_ne, ne_eq]
    omega

end TransitRouting.Binary64
