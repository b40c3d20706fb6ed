import TransitRouting.Proofs.Number.Infinities
import TransitRouting.Proofs.Json.Postconditions

/-!
# Doubles read from JSON are never NaN

JSON has no text for NaN, and the reader never makes one: every double it returns is a
significand rounded to a double (`Binary64.round`, which never gives NaN), perhaps scaled by
doubles nearest to powers of ten, which are finite and not zero, and perhaps negated; a product
or quotient of a number by a finite double other than zero is a number. So every double in a
document read by the typed readers is a number (`readF64_notNaN`).

## What this module delivers

- `Binary64.isNaN_round`, `isNaN_ofNat`, `isNaN_zero`: rounding an exact quantity gives a number.
- `Binary64.isNaN_neg`, `isNaN_mul`, `isNaN_div`: operations that keep a number a number, and
  `powerOfTen_finiteNonzero` for the powers of ten the reader scales by.
- `Json.isNaN_scaleDecimal`: a significand and a decimal exponent give a number.
- `Json.readNumber_notNaN`, `Json.readF64_notNaN`.
-/

set_option autoImplicit false

namespace TransitRouting.Binary64

open Float.Model Float.Model.UnpackedFloat

/-! ## Doubles assembled from their fields -/

/-- A bit pattern unpacks to NaN only with a full exponent field and a fraction other than
zero. -/
theorem unpack_eq_nan {b : BitVec 64} (h : UnpackedFloat.unpack Format.binary64 b = .notANumber) :
    b.toNat / 2 ^ 52 % 2048 = 2047 ∧ b.toNat % 2 ^ 52 ≠ 0 := by
  have hE : (@unpackExponent Format.binary64 b).toNat = b.toNat / 2 ^ 52 % 2048 := by
    simp only [unpackExponent, BitVec.toNat_cast, BitVec.extractLsb_toNat]
    rw [Nat.shiftRight_eq_div_pow]
  have hM : (@unpackMantissa Format.binary64 b).toNat = b.toNat % 2 ^ 52 := by
    simp only [unpackMantissa, BitVec.toNat_cast, BitVec.extractLsb_toNat]
    rw [Nat.shiftRight_zero]
  simp only [UnpackedFloat.unpack] at h
  split_ifs at h with hinf hzero
  refine ⟨by rw [← hE, hinf]; rfl, fun h0 => hzero ?_⟩
  exact BitVec.eq_of_toNat_eq (by rw [hM, h0]; rfl)

theorem unpacked_ofBits (u : UInt64) :
    unpacked (Float.ofBits u) = UnpackedFloat.unpack Format.binary64
      (UnpackedFloat.pack Format.binary64 (UnpackedFloat.unpack Format.binary64 u.toBitVec)) := rfl

/-- A double assembled from a sign, an exponent field other than all ones (or a zero
fraction) and a fraction field is a number. -/
theorem isNaN_ofParts (negative : Bool) {field fraction : Nat} (hfield : field < 2048)
    (hfraction : fraction < 2 ^ 52) (hnan : field ≠ 2047 ∨ fraction = 0) :
    isNaN (ofParts negative field fraction) = false := by
  set b := (if negative then Nat.pow 2 63 else 0) + field * Nat.pow 2 52 + fraction with hb
  have hpow63 : Nat.pow 2 63 = 2 ^ 63 := rfl
  have hpow52 : Nat.pow 2 52 = 2 ^ 52 := rfl
  have hlt : b < 2 ^ 64 := by
    rw [hb, hpow63, hpow52]
    split_ifs <;> omega
  have hbits : (UInt64.ofNat b).toBitVec.toNat = b := by
    simp only [UInt64.ofNat, BitVec.toNat_ofNat]
    exact Nat.mod_eq_of_lt hlt
  -- the pattern itself is no NaN, so packing keeps it as it is
  have hne : UnpackedFloat.unpack Format.binary64 (UInt64.ofNat b).toBitVec ≠ .notANumber := by
    intro h
    obtain ⟨hf, hfr⟩ := unpack_eq_nan h
    rw [hbits, hb, hpow63, hpow52] at hf hfr
    split_ifs at hf hfr <;> omega
  rw [Bool.eq_false_iff, ne_eq, isNaN_iff]
  show unpacked (Float.ofBits (UInt64.ofNat b)) ≠ .notANumber
  rw [unpacked_ofBits, unpack_pack_of_wellFormed (unpack_wellFormed _) hne]
  exact hne

/-! ## Rounding -/

theorem roundShift_le (m s : Nat) (inexact : Bool) :
    roundShift m s inexact ≤ m / Nat.pow 2 s + 1 := by
  unfold roundShift
  split_ifs with hs
  · subst hs
    simp
  · dsimp only
    split_ifs <;> omega

/-- The significand that rounding settles on, once a carry out of the top bit is shifted back,
has at most 53 bits. -/
theorem round_significand_lt (m : Nat) (e : Int) (inexact : Bool) :
    let top : Int := (Nat.log2 m : Int) + e
    let quantum : Int := max (top - 52) (-1074)
    let shift : Int := quantum - e
    let q : Nat :=
      if shift ≤ 0 then m * Nat.pow 2 (-shift).toNat else roundShift m shift.toNat inexact
    (if q ≥ Nat.pow 2 53 then q / 2 else q) < Nat.pow 2 53 := by
  intro top quantum shift q
  have hlog : m < 2 ^ (Nat.log2 m + 1) := Nat.lt_log2_self
  have hshift : (Nat.log2 m : Int) - 52 ≤ shift := by omega
  have h54 : Nat.pow 2 54 = 2 * Nat.pow 2 53 := by norm_num
  -- before the carry is shifted back the significand has at most 54 bits
  have hq : q < Nat.pow 2 54 := by
    simp only [q]
    split_ifs with hle
    · -- nothing is dropped: `m` is shifted up to at most 53 bits
      have hexp : (-shift).toNat + (Nat.log2 m + 1) ≤ 53 := by omega
      calc m * Nat.pow 2 (-shift).toNat < 2 ^ (Nat.log2 m + 1) * 2 ^ (-shift).toNat := by
            rw [Nat.pow_eq]; exact Nat.mul_lt_mul_of_pos_right hlog (by positivity)
        _ = 2 ^ ((-shift).toNat + (Nat.log2 m + 1)) := by rw [← pow_add, add_comm]
        _ ≤ 2 ^ 53 := Nat.pow_le_pow_right (by norm_num) hexp
        _ < Nat.pow 2 54 := by norm_num
    · -- bits are dropped: what is kept has at most 53 bits, and rounding adds at most one
      have hkept : m / Nat.pow 2 shift.toNat < 2 ^ 53 := by
        rw [Nat.pow_eq, Nat.div_lt_iff_lt_mul (by positivity), ← pow_add]
        exact lt_of_lt_of_le hlog (Nat.pow_le_pow_right (by norm_num) (by omega))
      have hround := roundShift_le m shift.toNat inexact
      have h53 : Nat.pow 2 53 = 2 ^ 53 := rfl
      omega
  split_ifs <;> omega

/-- The last step of rounding: a significand of at most 53 bits and its quantum make a zero, an
infinity, or a double with an exponent field other than all ones. -/
theorem isNaN_pack (negative : Bool) {q : Nat} (quantum : Int) (hq : q < Nat.pow 2 53) :
    isNaN (if q ≥ Nat.pow 2 52 then
        if quantum + 1075 ≥ 2047 then infinity negative
        else ofParts negative (quantum + 1075).toNat (q - Nat.pow 2 52)
      else ofParts negative 0 q) = false := by
  have h53 : Nat.pow 2 53 = 2 * Nat.pow 2 52 := by norm_num
  have h52 : Nat.pow 2 52 = 2 ^ 52 := rfl
  split_ifs with hnormal hover
  · exact isNaN_ofParts negative (by norm_num) (by norm_num) (.inr rfl)
  · exact isNaN_ofParts negative (by omega) (by omega) (.inl (by omega))
  · exact isNaN_ofParts negative (by norm_num) (by omega) (.inl (by norm_num))

/-- Rounding never gives NaN. -/
theorem isNaN_round (negative : Bool) (m : Nat) (e : Int) (inexact : Bool) :
    isNaN (round negative m e inexact) = false := by
  unfold round
  split_ifs with hm
  · exact isNaN_ofParts negative (by norm_num) (by norm_num) (.inr rfl)
  · exact isNaN_pack negative _ (round_significand_lt m e inexact)

theorem isNaN_zero (negative : Bool) : isNaN (zero negative) = false :=
  isNaN_ofParts negative (by norm_num) (by norm_num) (.inr rfl)

theorem isNaN_ofNat (n : Nat) : isNaN (ofNat n) = false := isNaN_round false n 0 false

/-! ## Operations that keep a number a number -/

theorem isNaN_eq_false_iff {x : Float} : isNaN x = false ↔ unpacked x ≠ .notANumber := by
  rw [← Bool.not_eq_true, isNaN_iff]

theorem unpacked_neg (x : Float) :
    unpacked (-x) = UnpackedFloat.unpack Format.binary64
      (UnpackedFloat.pack Format.binary64 (UnpackedFloat.neg (unpacked x))) := rfl

theorem isNaN_neg {x : Float} (hx : isNaN x = false) : isNaN (-x) = false := by
  rw [isNaN_eq_false_iff] at hx ⊢
  have hw := unpacked_wellFormed x
  rw [unpacked_neg]
  cases hu : unpacked x with
  | notANumber => exact absurd hu hx
  | zero s => simp [UnpackedFloat.neg, unpack_pack_zero]
  | infinity s => simp [UnpackedFloat.neg, unpack_pack_infinity]
  | finite s m e h =>
    rw [hu] at hw
    rw [UnpackedFloat.neg, unpack_pack_of_wellFormed (show WellFormed (.finite (-s) m e h) from hw)
      (by simp)]
    simp

/-- Whether an unpacked double is finite and not zero. -/
def finiteNonzero : UnpackedFloat → Bool
  | .finite .. => true
  | _ => false

theorem value_ne_zero_of_finiteNonzero {u : UnpackedFloat} (h : finiteNonzero u = true) :
    value u ≠ 0 := by
  cases u with
  | finite s m e hm =>
    rw [value_finite, ← abs_ne_zero, abs_signed, abs_ne_zero]
    exact mul_ne_zero (Nat.cast_ne_zero.2 hm.ne') (zpow_ne_zero _ two_ne_zero)
  | _ => simp [finiteNonzero] at h

/-- A number times a finite double other than zero is a number. -/
theorem isNaN_mul {x y : Float} (hx : isNaN x = false) (hy : finiteNonzero (unpacked y) = true) :
    isNaN (x * y) = false := by
  rw [isNaN_eq_false_iff] at hx ⊢
  rw [unpacked_mul]
  have hwx := unpacked_wellFormed x
  have hwy := unpacked_wellFormed y
  cases hv : unpacked y with
  | finite s₂ m₂ e₂ h₂ =>
    cases hu : unpacked x with
    | notANumber => exact absurd hu hx
    | zero s₁ => simp [UnpackedFloat.mul, unpack_pack_zero]
    | infinity s₁ => simp [UnpackedFloat.mul, unpack_pack_infinity]
    | finite s₁ m₁ e₁ h₁ =>
      rw [hu] at hwx
      rw [hv] at hwy
      exact unpack_pack_ne_nan_of_roundsTo (mul_roundsTo hwx hwy trivial trivial)
  | _ => simp [hv, finiteNonzero] at hy

/-- A number divided by a finite double other than zero is a number. -/
theorem isNaN_div {x y : Float} (hx : isNaN x = false) (hy : finiteNonzero (unpacked y) = true) :
    isNaN (x / y) = false := by
  rw [isNaN_eq_false_iff] at hx ⊢
  rw [unpacked_div]
  have hne := value_ne_zero_of_finiteNonzero hy
  cases hv : unpacked y with
  | finite s₂ m₂ e₂ h₂ =>
    rw [hv] at hne
    cases hu : unpacked x with
    | notANumber => exact absurd hu hx
    | zero s₁ => simp [UnpackedFloat.div, unpack_pack_zero]
    | infinity s₁ => simp [UnpackedFloat.div, unpack_pack_infinity]
    | finite s₁ m₁ e₁ h₁ => exact unpack_pack_ne_nan_of_roundsTo (div_roundsTo trivial hne)
  | _ => simp [hv, finiteNonzero] at hy

/-- Every power of ten up to `10^308` rounds to a finite double other than zero. -/
theorem powerOfTen_finiteNonzero : ∀ k < 309, finiteNonzero (unpacked (powerOfTen k)) = true := by
  set_option maxRecDepth 100000 in decide +kernel

end TransitRouting.Binary64

namespace TransitRouting.Json

open Binary64

/-- Scaling a number by powers of ten keeps it a number. -/
theorem isNaN_scaleLoop {fuel : Nat} {f : Float} {e : Int} {g : Float} (hf : isNaN f = false)
    (h : scaleLoop fuel f e = .ok g) : isNaN g = false := by
  induction fuel generalizing f e with
  | zero =>
    simp only [scaleLoop, Except.ok.injEq] at h
    exact h ▸ hf
  | succ fuel ih =>
    simp only [scaleLoop] at h
    -- the branches that fail are gone; what is left multiplies, divides or stops
    split_ifs at h with hk he hinf hz
    · cases h
      exact isNaN_mul hf (powerOfTen_finiteNonzero _ hk)
    · cases h
      exact isNaN_div hf (powerOfTen_finiteNonzero _ hk)
    · cases h
      exact hf
    · exact ih (isNaN_div hf (powerOfTen_finiteNonzero 308 (by norm_num))) h

/-- A decimal significand and exponent never make NaN. -/
theorem isNaN_scaleDecimal {positive : Bool} {significand : Nat} {exponent : Int} {g : Float}
    (h : scaleDecimal positive significand exponent = .ok g) : isNaN g = false := by
  unfold scaleDecimal at h
  split at h
  · rename_i f hf
    cases h
    have hscaled := isNaN_scaleLoop (isNaN_ofNat significand) hf
    cases positive
    · exact isNaN_neg hscaled
    · exact hscaled
  · cases h

/-! ## Numbers in JSON text -/

/-- A number as read holds no NaN. -/
def Number.NotNaN : Number → Prop
  | .float x => isNaN x = false
  | _ => True

theorem scaleHere_notNaN {positive : Bool} {significand : Nat} {exponent : Int} :
    Yields (scaleHere positive significand exponent) fun x => isNaN x = false := by
  unfold scaleHere
  split
  · next f hf => exact Yields.pure (isNaN_scaleDecimal hf)
  · exact Yields.failHere

theorem readExponent_notNaN {positive : Bool} {significand : Nat} {start : Int} :
    Yields (readExponent positive significand start) fun x => isNaN x = false := by
  unfold readExponent
  refine Yields.bind_right fun _ => Yields.bind_right fun c => ?_
  -- an exponent too small to hold gives a zero of the number's sign
  have hzero : isNaN (if positive then zero false else zero true) = false := by
    split <;> exact isNaN_zero _
  generalize (if positive then zero false else zero true) = z at hzero ⊢
  dsimp only
  -- whichever sign the exponent has, its digits are read the same way
  split_ifs
  all_goals
    refine Yields.bind_right fun positiveExp => Yields.bind_right fun next => ?_
    split
    · exact Yields.failHere
    · split
      · exact Yields.failHere
      · refine Yields.bind_right fun _ => Yields.bind_right fun e => ?_
        split
        · exact Yields.pure hzero
        · exact scaleHere_notNaN

theorem afterOverflow_notNaN {positive : Bool} {significand : Nat} {exponent : Int} :
    Yields (afterOverflow positive significand exponent) fun x => isNaN x = false := by
  unfold afterOverflow
  refine Yields.bind_right fun _ => Yields.bind_right fun c => ?_
  split
  · exact readExponent_notNaN
  · exact scaleHere_notNaN

theorem readFraction_notNaN {positive : Bool} {significand : Nat} {before : Int} :
    Yields (readFraction positive significand before) fun x => isNaN x = false := by
  unfold readFraction
  refine Yields.bind_right fun _ => Yields.bind_right fun _ => Yields.bind_right fun res => ?_
  obtain ⟨s, after, overflowed⟩ := res
  dsimp only
  split_ifs
  · exact afterOverflow_notNaN
  · exact Yields.bind_right fun _ => by split <;> exact Yields.failAhead
  · refine Yields.bind_right fun c => ?_
    split
    · exact readExponent_notNaN
    · exact scaleHere_notNaN

theorem longDigits_notNaN {positive : Bool} {significand : Nat} :
    ∀ (fuel : Nat) (e : Int),
      Yields (longDigits positive significand fuel e) fun x => isNaN x = false
  | 0, e => by
    unfold longDigits
    exact scaleHere_notNaN
  | fuel + 1, e => by
    unfold longDigits
    refine Yields.bind_right fun c => ?_
    split
    · exact Yields.bind_right fun _ => longDigits_notNaN fuel (e + 1)
    · split
      · exact readFraction_notNaN
      · split
        · exact readExponent_notNaN
        · exact scaleHere_notNaN

theorem numberTail_notNaN {positive : Bool} {significand : Nat} :
    Yields (numberTail positive significand) Number.NotNaN := by
  unfold numberTail
  refine Yields.bind_right fun c => ?_
  split
  · exact Yields.bind readFraction_notNaN fun x hx => Yields.pure hx
  · split
    · exact Yields.bind readExponent_notNaN fun x hx => Yields.pure hx
    · split
      · exact Yields.pure trivial
      · split
        · exact Yields.pure (isNaN_neg (isNaN_ofNat significand))
        · exact Yields.pure trivial

theorem integerDigits_notNaN {positive : Bool} :
    ∀ (fuel significand : Nat), Yields (integerDigits positive fuel significand) Number.NotNaN
  | 0, significand => by
    unfold integerDigits
    exact numberTail_notNaN
  | fuel + 1, significand => by
    unfold integerDigits
    refine Yields.bind_right fun c => ?_
    split
    · split
      · exact Yields.bind_right fun n =>
          Yields.bind (longDigits_notNaN n 0) fun x hx => Yields.pure hx
      · exact Yields.bind_right fun _ => integerDigits_notNaN fuel _
    · exact numberTail_notNaN

theorem readInteger_notNaN {positive : Bool} :
    Yields (readInteger positive) Number.NotNaN := by
  unfold readInteger
  refine Yields.bind_right fun next => ?_
  split
  · exact Yields.failHere
  · split
    · refine Yields.bind_right fun d => ?_
      split
      · exact Yields.failAhead
      · exact numberTail_notNaN
    · split
      · exact Yields.bind_right fun n => integerDigits_notNaN n _
      · exact Yields.failHere

/-- A number read from JSON text is never NaN. -/
theorem readNumber_notNaN : Yields readNumber Number.NotNaN := by
  unfold readNumber
  refine Yields.bind_right fun c => ?_
  split
  · exact Yields.bind_right fun _ => readInteger_notNaN
  · exact readInteger_notNaN

/-- A double read from JSON text is never NaN. -/
theorem readF64_notNaN : Yields readF64 fun x => isNaN x = false := by
  unfold readF64
  refine Yields.typed fun b r hr => ?_
  split_ifs at hr
  cases hr
  refine Yields.bind readNumber_notNaN fun n hn => ?_
  cases n with
  | unsigned n => exact Yields.pure (isNaN_ofNat n)
  | negative n => exact Yields.pure (isNaN_neg (isNaN_ofNat _))
  | float x => exact Yields.pure hn

end TransitRouting.Json
