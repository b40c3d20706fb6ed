import TransitRouting.Proofs.Number.Doubles
import TransitRouting.Service.Convert

/-!
# Whole seconds of a time

Times go on the wire as unsigned 32-bit counts of whole seconds. The conversion reads the bit
fields of the double; read on its value instead, it is the saturating truncation: the whole part
towards zero, clamped to `0 … u32Max`. So NaN, `-∞`, negative times and `-0.0` give 0, and `+∞`
and every time from `2^32` on give `u32Max`.

The bridge from fields to values is the unpacked form of the double: with a finite exponent
field, the value is the signed significand times two to the exponent, both as the fields give
them; with a full field and no fraction, an infinity of the sign bit's sign.

## What this module delivers

- `Binary64.Parts.sign`, `Binary64.sign_unpack`: the sign bit as the sign of the unpacked double.
- `Binary64.value_unpacked`, `Binary64.toVal_of_finiteField`, `Binary64.unpacked_of_infinite`:
  the value of a double from its fields.
- `Binary64.floor_significand_mul`: the whole part of `m · 2^e` in natural numbers.
- `wholeSeconds` and `seconds_eq_wholeSeconds`: the conversion is the saturating truncation of
  the value.
-/

set_option autoImplicit false

namespace TransitRouting

namespace Binary64

open Float.Model Float.Model.UnpackedFloat

/-- The sign the sign bit stands for. -/
def Parts.sign (p : Parts) : Sign := if p.negative then .negative else .positive

/-- The sign field of the model is the top bit of the pattern. -/
theorem signBit_toNat (x : Float) :
    (@unpackSign Format.binary64 x.toModel.toBits.toBitVec).toNat = x.toBits.toNat / 2 ^ 63 := by
  simp only [unpackSign, BitVec.toNat_cast, BitVec.extractLsb_toNat, Float.toBits]
  rw [Nat.shiftRight_eq_div_pow]
  have hlt : x.toModel.toBits.toBitVec.toNat < 2 ^ 64 := x.toModel.toBits.toBitVec.isLt
  change x.toModel.toBits.toBitVec.toNat / 2 ^ 63 % 2 ^ 1 =
    x.toModel.toBits.toBitVec.toNat / 2 ^ 63
  apply Nat.mod_eq_of_lt
  omega

/-- Unpacking gives the sign the sign bit stands for. -/
theorem sign_unpack (x : Float) :
    Sign.ofBitVec (@unpackSign Format.binary64 x.toModel.toBits.toBitVec) = (parts x).sign := by
  have hbit := signBit_toNat x
  have hlt : x.toBits.toNat < 2 ^ 64 := x.toBits.toBitVec.isLt
  -- the top bit is 0 or 1, and the model reads 0 as positive
  have hzero : @unpackSign Format.binary64 x.toModel.toBits.toBitVec = 0#1 ↔
      x.toBits.toNat / 2 ^ 63 = 0 := by
    rw [← hbit]
    exact ⟨fun h => by rw [h]; rfl, fun h => BitVec.eq_of_toNat_eq (by rw [h]; rfl)⟩
  unfold Sign.ofBitVec Parts.sign parts
  by_cases h : x.toBits.toNat / 2 ^ 63 = 0
  · have hpos : ¬ x.toBits.toNat / Nat.pow 2 63 = 1 := by
      change ¬ x.toBits.toNat / 2 ^ 63 = 1
      omega
    simp [hzero.2 h, hpos]
  · have hneg : x.toBits.toNat / Nat.pow 2 63 = 1 := by
      change x.toBits.toNat / 2 ^ 63 = 1
      omega
    simp [mt hzero.1 h, hneg]

/-- With a finite exponent field, the value of a double is its signed significand times two to
its exponent. -/
theorem value_unpacked (x : Float) (h : (parts x).field ≠ 2047) :
    value (unpacked x) =
      signed (parts x).sign ((parts x).significand * (2 : ℝ) ^ (parts x).exponent) := by
  have hE := exponentField_toNat x
  have hM := fractionField_toNat x
  have hS := sign_unpack x
  set ev := @unpackExponent Format.binary64 x.toModel.toBits.toBitVec with hev
  set mv := @unpackMantissa Format.binary64 x.toModel.toBits.toBitVec with hmv
  have hfield : ev ≠ -1#11 := fun hinf => h (by rw [← hE, hinf]; rfl)
  show value (UnpackedFloat.unpack Format.binary64 x.toModel.toBits.toBitVec) = _
  simp only [UnpackedFloat.unpack, ← hev, ← hmv, if_neg hfield]
  by_cases hz : ev = 0#11
  · -- a zero or a subnormal: the fraction at the least exponent
    have hfield0 : (parts x).field = 0 := by rw [← hE, hz]; rfl
    rw [if_pos hz]
    split
    · rename_i hm0
      have hfraction0 : (parts x).fraction = 0 := by rw [← hM, hm0]; rfl
      simp only [value_zero, Parts.significand, hfield0, hfraction0, if_true, Nat.cast_zero,
        zero_mul]
      cases (parts x).sign <;> simp [signed]
    · simp only [value_finite, hS, Parts.significand, Parts.exponent, hfield0, if_true, hM, hE]
      congr 3
  · -- a normal double: the hidden bit above the fraction, the biased field as exponent
    have hne0 : (parts x).field ≠ 0 := fun h0 => hz (BitVec.eq_of_toNat_eq (by rw [hE, h0]; rfl))
    rw [if_neg hz]
    have hfraction : mv.toNat < 2 ^ 52 := mv.isLt
    have hsignificand : (1#1 ++ mv).toNat = 2 ^ 52 + mv.toNat := by
      simp only [BitVec.toNat_append, BitVec.toNat_ofNat, Nat.shiftLeft_eq]
      rw [mul_two_pow_or hfraction]
      norm_num
    simp only [value_finite, hS, Parts.significand, Parts.exponent, hne0, if_false, hsignificand,
      hM, hE]
    congr 3
    rw [Nat.pow_eq]
    omega

/-- A double with a finite exponent field has a real value, that of its unpacked form. -/
theorem toVal_of_finiteField (x : Float) (h : (parts x).field ≠ 2047) :
    toVal x = some (value (unpacked x) : EReal) := by
  rcases unpacked_cases x with ⟨hf, -⟩ | ⟨hf, -⟩ | ⟨-, hfin⟩
  · exact absurd hf h
  · exact absurd hf h
  · obtain ⟨a, ha⟩ := finiteForm_iff_toVal.1 hfin
    have ha' : toVal x = some (a : EReal) := ha
    rw [ha', (finiteForm_of_toVal ha').2]

/-- A full exponent field without a fraction is the infinity of the sign bit's sign. -/
theorem unpacked_of_infinite (x : Float) (hf : (parts x).field = 2047)
    (hfr : (parts x).fraction = 0) : unpacked x = .infinity (parts x).sign := by
  have hE := exponentField_toNat x
  have hM := fractionField_toNat x
  have hS := sign_unpack x
  set ev := @unpackExponent Format.binary64 x.toModel.toBits.toBitVec with hev
  set mv := @unpackMantissa Format.binary64 x.toModel.toBits.toBitVec with hmv
  have hinf : ev = -1#11 := BitVec.eq_of_toNat_eq (by rw [hE, hf]; rfl)
  have hzero : mv = 0#52 := BitVec.eq_of_toNat_eq (by rw [hM, hfr]; rfl)
  show UnpackedFloat.unpack Format.binary64 x.toModel.toBits.toBitVec = _
  simp only [UnpackedFloat.unpack, ← hev, ← hmv, if_pos hinf, if_pos hzero, hS]

/-- The whole part of `m · 2^e`: the product itself for `e ≥ 0`, else `m` divided by `2^(-e)`
and rounded down. -/
theorem floor_significand_mul (m : ℕ) (e : ℤ) :
    ⌊(m : ℝ) * (2 : ℝ) ^ e⌋₊ = if 0 ≤ e then m * 2 ^ e.toNat else m / 2 ^ (-e).toNat := by
  split
  · rename_i he
    have hpow : (2 : ℝ) ^ e = ((2 ^ e.toNat : ℕ) : ℝ) := by
      rw [← Int.toNat_of_nonneg he, zpow_natCast]
      push_cast
      rw [Int.toNat_of_nonneg he]
    rw [hpow, ← Nat.cast_mul, Nat.floor_natCast]
  · rename_i he
    have hpow : (2 : ℝ) ^ e = 1 / ((2 ^ (-e).toNat : ℕ) : ℝ) := by
      have hneg : e = -(((-e).toNat : ℕ) : ℤ) := by omega
      conv_lhs => rw [hneg]
      rw [zpow_neg, zpow_natCast]
      push_cast
      ring
    rw [hpow, mul_one_div, Nat.floor_div_eq_div]

end Binary64

/-- Whole seconds of a value, saturating: `u32Max` for `+∞`, 0 for `-∞` and for no value
(NaN), and otherwise the whole part towards zero (0 for a negative value), at most `u32Max`. -/
noncomputable def wholeSeconds : Option EReal → ℕ
  | none => 0
  | some v => if v = ⊤ then u32Max else if v = ⊥ then 0 else min ⌊v.toReal⌋₊ u32Max

@[simp]
theorem wholeSeconds_none : wholeSeconds none = 0 := rfl

@[simp]
theorem wholeSeconds_top : wholeSeconds (some ⊤) = u32Max := by
  simp [wholeSeconds]

@[simp]
theorem wholeSeconds_bot : wholeSeconds (some ⊥) = 0 := by
  simp [wholeSeconds]

@[simp]
theorem wholeSeconds_coe (v : ℝ) : wholeSeconds (some (v : EReal)) = min ⌊v⌋₊ u32Max := by
  simp [wholeSeconds]

open Binary64 in
/-- A time goes on the wire as the saturating truncation of its value: NaN, `-∞` and negative
times to 0, `+∞` and times of `2^32` seconds or more to `u32Max`, and every other time to its
whole part. -/
theorem seconds_eq_wholeSeconds (t : Float) : seconds t = wholeSeconds (toVal t) := by
  unfold seconds
  dsimp only
  by_cases hnan : isNaN t = true
  · rw [toVal_eq_none_iff.2 (isNaN_iff.1 hnan)]
    simp [hnan]
  have hnan' : isNaN t = false := by simpa using hnan
  by_cases hf : (parts t).field = 2047
  · -- an infinity: the fraction is zero, the sign decides
    have hfr : (parts t).fraction = 0 := by simpa [isNaN, hf] using hnan'
    rw [toVal_of_ne_nan (by rw [unpacked_of_infinite t hf hfr]; exact fun h => nomatch h),
      unpacked_of_infinite t hf hfr]
    cases hneg : (parts t).negative
    · simp [hnan', hneg, hf, Parts.sign, extValue]
    · simp [hnan', hneg, Parts.sign, extValue]
  · rw [toVal_of_finiteField t hf, value_unpacked t hf, wholeSeconds_coe]
    have hpos : (0 : ℝ) ≤ (parts t).significand * (2 : ℝ) ^ (parts t).exponent := by positivity
    cases hneg : (parts t).negative
    · -- a positive finite time: its whole part, clamped
      have hsign : (parts t).sign = .positive := by simp [Parts.sign, hneg]
      rw [hsign, signed, floor_significand_mul]
      simp [hnan', hf, Nat.pow_eq]
    · -- a negative finite time, `-0.0` included: nothing
      have hsign : (parts t).sign = .negative := by simp [Parts.sign, hneg]
      rw [hsign, signed, Nat.floor_eq_zero.2 (by linarith)]
      simp [hnan']

end TransitRouting
