import TransitRouting.Proofs.Number.RoundingModel

/-!
# Doubles as values

A double in unpacked form is an infinity, a NaN, a signed zero or a finite value `±m · 2^e`.
Unpacking any 64-bit pattern gives a well-formed one (`unpack_wellFormed`): a canonical
significand and exponent, with the exponent at most 971 so that the value stays below
`2^1024`.
Packing and unpacking again keeps a rounded result, except that an exponent beyond 971
overflows to the infinity of its sign (`unpack_pack_holds`).

The value of an unpacked double lives on the extended real line (`extValue`); a NaN has none
that matters. A rounded result comes back as the real rounded to nearest, clipped to the
infinities (`extValue_unpack_pack`).
-/

set_option autoImplicit false

namespace TransitRouting.Binary64

open Float.Model Float.Model.UnpackedFloat

/-! ## Values -/

/-- A real with a sign applied. -/
def signed : Sign → ℝ → ℝ
  | .positive, r => r
  | .negative, r => -r

/-- The value of a finite unpacked double; zero for the others. -/
noncomputable def value : UnpackedFloat → ℝ
  | .finite s m e _ => signed s (m * 2 ^ e)
  | _ => 0

@[simp]
theorem value_zero (s : Sign) : value (.zero s) = 0 := rfl

@[simp]
theorem value_finite (s : Sign) (m : ℕ) (e : ℤ) (h : 0 < m) :
    value (.finite s m e h) = signed s (m * 2 ^ e) := rfl

/-- The value of an unpacked double on the extended real line, infinities included. -/
noncomputable def extValue : UnpackedFloat → EReal
  | .infinity .positive => ⊤
  | .infinity .negative => ⊥
  | u => (value u : EReal)

/-- An unpacked double as unpacking produces it: a finite one has a canonical significand and
an exponent at most 971. -/
def WellFormed : UnpackedFloat → Prop
  | .finite _ m e _ => Canonical m e ∧ e ≤ 971
  | _ => True

/-! ## Unpacking -/

theorem sign_ofBitVec_toBitVec (sign : Sign) : Sign.ofBitVec sign.toBitVec = sign := by
  cases sign <;> rfl

/-- Every bit pattern unpacks to a well-formed double. -/
theorem unpack_wellFormed (b : BitVec 64) : WellFormed (UnpackedFloat.unpack Format.binary64 b) := by
  set ev := @unpackExponent Format.binary64 b with hev
  set mv := @unpackMantissa Format.binary64 b with hmv
  have hfield : ev.toNat < 2048 := ev.isLt
  have hfraction : mv.toNat < 2 ^ 52 := mv.isLt
  simp only [UnpackedFloat.unpack, ← hev, ← hmv]
  by_cases hinf : ev = -1#11
  · rw [if_pos hinf]
    split <;> trivial
  rw [if_neg hinf]
  by_cases hzero : ev = 0#11
  · -- a subnormal: the stored fraction at the least exponent
    rw [if_pos hzero]
    split
    · trivial
    · have hfield0 : ev.toNat = 0 := by rw [hzero]; rfl
      refine ⟨⟨hfraction.trans (by norm_num), ?_, .inr ?_⟩, ?_⟩ <;>
        simp [hfield0, Format.exponentBias]
  · -- a normal double: the hidden bit above the fraction, the biased exponent field
    rw [if_neg hzero]
    have hne0 : ev.toNat ≠ 0 := fun h => hzero (BitVec.eq_of_toNat_eq (by rw [h]; rfl))
    have hne2047 : ev.toNat ≠ 2047 := fun h => hinf (BitVec.eq_of_toNat_eq (by rw [h]; rfl))
    have hsignificand : (1#1 ++ mv).toNat = 2 ^ 52 + mv.toNat := by
      simp only [BitVec.toNat_append, BitVec.toNat_ofNat, Nat.shiftLeft_eq]
      rw [mul_two_pow_or hfraction]
      norm_num
    refine ⟨⟨?_, ?_, .inl ?_⟩, ?_⟩ <;> simp only [hsignificand, Format.exponentBias] <;>
      norm_num <;> omega

/-! ## Packing and unpacking again -/

theorem unpack_pack_zero (sign : Sign) :
    UnpackedFloat.unpack Format.binary64 (UnpackedFloat.pack Format.binary64 (.zero sign)) =
      .zero sign := by
  cases sign <;> rfl

theorem unpack_pack_infinity (sign : Sign) :
    UnpackedFloat.unpack Format.binary64 (UnpackedFloat.pack Format.binary64 (.infinity sign)) =
      .infinity sign := by
  cases sign <;> rfl

/-- A subnormal double packs with a zero exponent field and unpacks to itself. -/
theorem unpack_pack_subnormal (sign : Sign) {m : ℕ} (h0 : 0 < m) (hm : m < 2 ^ 52) :
    UnpackedFloat.unpack Format.binary64
        (UnpackedFloat.pack Format.binary64 (.finite sign m (-1074) h0)) =
      .finite sign m (-1074) h0 := by
  have hlog : m.log2 < 52 := (Nat.log2_lt (by omega)).2 hm
  have hfits : ¬ 2 ^ Format.binary64.exponentBits ≤
      ((-1074 : ℤ) + Format.binary64.exponentBias +
        Format.binary64.mantissaBitsWithoutImplicit).toNat + 1 := by decide
  simp only [UnpackedFloat.pack, if_neg hfits]
  rw [if_neg (show ¬ m.log2 + 1 = Format.binary64.mantissaBits by
    simp only [Format.mantissaBits]; omega)]
  simp only [UnpackedFloat.unpack, unpackMantissa_packComponents, unpackExponent_packComponents,
    unpackSign_packComponents, sign_ofBitVec_toBitVec]
  have hfraction : BitVec.ofNat 52 m ≠ 0#52 := by
    intro h
    have := congrArg BitVec.toNat h
    simp only [BitVec.toNat_ofNat] at this
    omega
  have hfield : (0#11 : BitVec 11) ≠ -1#11 := by decide
  simp only [hfield, if_false, if_true, hfraction, dite_false]
  congr 1
  simp only [BitVec.toNat_ofNat]
  omega

/-- A canonical double with an exponent at most 971 unpacks to itself. -/
theorem unpack_pack_finite (sign : Sign) {m : ℕ} {e : ℤ} (h0 : 0 < m) (hc : Canonical m e)
    (he : e ≤ 971) :
    UnpackedFloat.unpack Format.binary64 (UnpackedFloat.pack Format.binary64 (.finite sign m e h0)) =
      .finite sign m e h0 := by
  rcases hc.normal_or_subnormal with hnormal | hsub
  · exact unpack_pack_normal sign hnormal hc.lt hc.exp_ge he
  · by_cases hlow : m < 2 ^ 52
    · subst hsub
      exact unpack_pack_subnormal sign h0 hlow
    · exact unpack_pack_normal sign (by omega) hc.lt hc.exp_ge he

/-- A double with an exponent beyond 971 overflows to the infinity of its sign. -/
theorem unpack_pack_overflow (sign : Sign) {m : ℕ} {e : ℤ} (h0 : 0 < m) (he : 972 ≤ e) :
    UnpackedFloat.unpack Format.binary64 (UnpackedFloat.pack Format.binary64 (.finite sign m e h0)) =
      .infinity sign := by
  have hover : 2 ^ Format.binary64.exponentBits ≤
      (e + Format.binary64.exponentBias + Format.binary64.mantissaBitsWithoutImplicit).toNat + 1 := by
    show 2048 ≤ (e + 1023 + 52).toNat + 1
    omega
  simp only [UnpackedFloat.pack, if_pos hover]
  cases sign <;> rfl

/-! ## Rounded results as values -/

theorem two_pow_mul_zpow (a : ℕ) (b : ℤ) : (2 : ℝ) ^ a * 2 ^ b = 2 ^ ((a : ℤ) + b) := by
  rw [zpow_add₀ (by norm_num), zpow_natCast]

/-- A canonical significand at an exponent at most 971 is below `2^1024`; from 972 on it is at
least `2^1024`. -/
theorem canonical_lt_iff {m : ℕ} {e : ℤ} (hc : Canonical m e) :
    (m : ℝ) * 2 ^ e < overflowBound ↔ e ≤ 971 := by
  have hpos := two_zpow_pos e
  unfold overflowBound
  constructor
  · intro hlt
    by_contra hbig
    have hnormal : 2 ^ 52 ≤ m := hc.normal_or_subnormal.resolve_right (by omega)
    have hbound : (2 : ℝ) ^ (1024 : ℤ) ≤ m * 2 ^ e :=
      calc (2 : ℝ) ^ (1024 : ℤ) = (2 : ℝ) ^ 52 * (2 : ℝ) ^ (972 : ℤ) := by
            rw [two_pow_mul_zpow]; norm_num
        _ ≤ (m : ℝ) * 2 ^ e := mul_le_mul (by exact_mod_cast hnormal)
            (zpow_le_zpow_right₀ (by norm_num) (by omega)) (two_zpow_pos _).le (by positivity)
    linarith
  · intro hle
    calc (m : ℝ) * 2 ^ e < (2 : ℝ) ^ 53 * 2 ^ e :=
          mul_lt_mul_of_pos_right (by exact_mod_cast hc.lt) hpos
      _ ≤ (2 : ℝ) ^ 53 * (2 : ℝ) ^ (971 : ℤ) :=
          mul_le_mul_of_nonneg_left (zpow_le_zpow_right₀ (by norm_num) hle) (by positivity)
      _ = 2 ^ (1024 : ℤ) := by rw [two_pow_mul_zpow]; norm_num

theorem clip_signed {sign : Sign} {r : ℝ} (hr : 0 ≤ r) :
    clip (signed sign r) =
      if overflowBound ≤ r then extValue (.infinity sign) else (signed sign r : EReal) := by
  have hbig := overflowBound_pos
  cases sign
  · -- a negative value can only fall below `-2^1024`
    show clip (-r) = if overflowBound ≤ r then ⊥ else ((-r : ℝ) : EReal)
    rw [clip, if_neg (by linarith)]
    by_cases hover : overflowBound ≤ r
    · rw [if_pos (by linarith), if_pos hover]
    · rw [if_neg (by linarith), if_neg hover]
  · show clip r = if overflowBound ≤ r then ⊤ else (r : EReal)
    rw [clip]
    by_cases hover : overflowBound ≤ r
    · rw [if_pos hover, if_pos hover]
    · rw [if_neg hover, if_neg hover, if_neg (by linarith)]

/-- A rounded result, packed and unpacked, is its value clipped to the infinities of its sign:
the overflow of the packing is exactly the overflow of `clip`. -/
theorem extValue_unpack_pack {sign : Sign} {u : UnpackedFloat} {r : ℝ} (h : Holds sign u r) :
    extValue (UnpackedFloat.unpack Format.binary64 (UnpackedFloat.pack Format.binary64 u)) =
      clip (signed sign r) := by
  rcases h with ⟨rfl, rfl⟩ | ⟨m, e, h0, rfl, hc, rfl⟩
  · rw [unpack_pack_zero]
    have hbig := overflowBound_pos
    cases sign <;> simp [extValue, value, signed, clip, not_le.2 hbig]
  · have hr : 0 ≤ (m : ℝ) * 2 ^ e := by positivity
    rw [clip_signed hr]
    by_cases he : e ≤ 971
    · rw [unpack_pack_finite sign h0 hc he, if_neg (not_le.2 ((canonical_lt_iff hc).2 he))]
      cases sign <;> rfl
    · rw [unpack_pack_overflow sign h0 (by omega),
        if_pos (not_lt.1 (mt (canonical_lt_iff hc).1 he))]

/-- A rounded result, packed and unpacked, is not a NaN. -/
theorem unpack_pack_ne_nan {sign : Sign} {u : UnpackedFloat} {r : ℝ} (h : Holds sign u r) :
    UnpackedFloat.unpack Format.binary64 (UnpackedFloat.pack Format.binary64 u) ≠ .notANumber := by
  rcases h with ⟨-, rfl⟩ | ⟨m, e, h0, rfl, hc, -⟩
  · rw [unpack_pack_zero]
    exact fun h => by cases h
  · by_cases he : e ≤ 971
    · rw [unpack_pack_finite sign h0 hc he]
      exact fun h => by cases h
    · rw [unpack_pack_overflow sign h0 (by omega)]
      exact fun h => by cases h

end TransitRouting.Binary64
