import TransitRouting.Proofs.Number.Operations

/-!
# Doubles as extended reals

A double has a value on the extended real line, or none when it is NaN (`toVal`). The
runtime's comparisons of doubles are the comparisons of their values, false as soon as one side
is NaN (`lt_iff`, `le_iff`, `beq_iff`). Its arithmetic on finite doubles rounds the exact real
result to nearest and overflows to an infinity (`toVal_add`, `toVal_sub`, `toVal_mul`,
`toVal_div`, `toVal_sqrt`); an infinity absorbs a finite operand of a sum or a difference
(`toVal_add_top`, `toVal_sub_top` and their mirror images). The fields the library reads off a
double (`isFinite`, `isNaN`, `isInfinite`) say which of these cases it is in.
-/

set_option autoImplicit false

namespace TransitRouting.Binary64

open Float.Model Float.Model.UnpackedFloat

/-- The unpacked form of a double. -/
def unpacked (x : Float) : UnpackedFloat := x.toModel.unpack

/-- The value of a double on the extended real line; none for NaN. -/
noncomputable def toVal (x : Float) : Option EReal :=
  match unpacked x with
  | .notANumber => none
  | u => some (extValue u)

theorem unpacked_wellFormed (x : Float) : WellFormed (unpacked x) := unpack_wellFormed _

theorem toVal_eq_none_iff {x : Float} : toVal x = none ↔ unpacked x = .notANumber := by
  unfold toVal
  split <;> simp_all

theorem toVal_of_ne_nan {x : Float} (h : unpacked x ≠ .notANumber) :
    toVal x = some (extValue (unpacked x)) := by
  unfold toVal
  split
  · contradiction
  · rfl

/-- A double with a real value is a zero or a finite significand and exponent, of that value. -/
theorem finiteForm_of_toVal {x : Float} {a : ℝ} (h : toVal x = some (a : EReal)) :
    FiniteForm (unpacked x) ∧ value (unpacked x) = a := by
  unfold toVal at h
  cases hu : unpacked x with
  | notANumber =>
    rw [hu] at h
    cases h
  | infinity s =>
    rw [hu] at h
    change some (extValue (.infinity s)) = some (a : EReal) at h
    cases s
    · exact absurd (Option.some.inj h) (EReal.bot_ne_coe a)
    · exact absurd (Option.some.inj h) (EReal.top_ne_coe a)
  | zero s =>
    rw [hu] at h
    exact ⟨trivial, EReal.coe_injective (Option.some.inj h)⟩
  | finite s m e hm =>
    rw [hu] at h
    exact ⟨trivial, EReal.coe_injective (Option.some.inj h)⟩

/-! ## Comparisons -/

/-- The model's comparison of two doubles: none when one is NaN, else the comparison of their
values. -/
theorem compare_unpacked (x y : Float) :
    (unpacked x).compare (unpacked y) =
      (toVal x).bind fun a => (toVal y).map fun b => compare a b := by
  by_cases hx : unpacked x = .notANumber
  · rw [toVal_eq_none_iff.2 hx, hx]
    rfl
  by_cases hy : unpacked y = .notANumber
  · rw [toVal_eq_none_iff.2 hy, hy]
    cases unpacked x <;> simp [toVal, UnpackedFloat.compare]
  rw [toVal_of_ne_nan hx, toVal_of_ne_nan hy,
    compare_eq (unpacked_wellFormed x) (unpacked_wellFormed y) hx hy]
  rfl

theorem lt_iff {x y : Float} : x < y ↔ ∃ a b, toVal x = some a ∧ toVal y = some b ∧ a < b := by
  change decide (Float.Model.lt x.toModel y.toModel = true) = true ↔ _
  rw [decide_eq_true_iff]
  change ((unpacked x).compare (unpacked y) == some .lt) = true ↔ _
  rw [compare_unpacked]
  rcases toVal x with _ | a <;> rcases toVal y with _ | b <;> simp [compare_lt_iff_lt]

theorem le_iff {x y : Float} : x ≤ y ↔ ∃ a b, toVal x = some a ∧ toVal y = some b ∧ a ≤ b := by
  change decide (Float.Model.le x.toModel y.toModel = true) = true ↔ _
  rw [decide_eq_true_iff]
  change ((unpacked x).compare (unpacked y)).any (·.isLE) = true ↔ _
  rw [compare_unpacked]
  rcases toVal x with _ | a <;> rcases toVal y with _ | b <;>
    simp [Ordering.isLE_iff_ne_gt, compare_gt_iff_gt]

theorem beq_iff {x y : Float} :
    (x == y) = true ↔ ∃ a b, toVal x = some a ∧ toVal y = some b ∧ a = b := by
  change ((unpacked x).compare (unpacked y) == some .eq) = true ↔ _
  rw [compare_unpacked]
  rcases toVal x with _ | a <;> rcases toVal y with _ | b <;> simp
  exact eq_comm

theorem lt_iff_of_toVal {x y : Float} {a b : EReal} (hx : toVal x = some a)
    (hy : toVal y = some b) : x < y ↔ a < b := by
  simp [lt_iff, hx, hy]

theorem le_iff_of_toVal {x y : Float} {a b : EReal} (hx : toVal x = some a)
    (hy : toVal y = some b) : x ≤ y ↔ a ≤ b := by
  simp [le_iff, hx, hy]

theorem beq_iff_of_toVal {x y : Float} {a b : EReal} (hx : toVal x = some a)
    (hy : toVal y = some b) : (x == y) = true ↔ a = b := by
  simp only [beq_iff, hx, hy, Option.some.injEq, exists_and_left, exists_eq_left']

/-! ## The results of operations -/

theorem unpacked_add (x y : Float) :
    unpacked (x + y) = UnpackedFloat.unpack Format.binary64 (UnpackedFloat.pack Format.binary64
      (UnpackedFloat.add Format.binary64 (unpacked x) (unpacked y))) := rfl

theorem unpacked_sub (x y : Float) :
    unpacked (x - y) = UnpackedFloat.unpack Format.binary64 (UnpackedFloat.pack Format.binary64
      (UnpackedFloat.sub Format.binary64 (unpacked x) (unpacked y))) := rfl

theorem unpacked_mul (x y : Float) :
    unpacked (x * y) = UnpackedFloat.unpack Format.binary64 (UnpackedFloat.pack Format.binary64
      (UnpackedFloat.mul Format.binary64 (unpacked x) (unpacked y))) := rfl

theorem unpacked_div (x y : Float) :
    unpacked (x / y) = UnpackedFloat.unpack Format.binary64 (UnpackedFloat.pack Format.binary64
      (UnpackedFloat.div Format.binary64 (unpacked x) (unpacked y))) := rfl

theorem unpacked_sqrt (x : Float) :
    unpacked x.sqrt = UnpackedFloat.unpack Format.binary64 (UnpackedFloat.pack Format.binary64
      (UnpackedFloat.sqrt Format.binary64 (unpacked x))) := rfl

theorem unpacked_abs (x : Float) :
    unpacked x.abs = UnpackedFloat.unpack Format.binary64 (UnpackedFloat.pack Format.binary64
      (unpacked x).abs) := rfl

/-- A double that holds a rounded real has the rounded real as its value. -/
theorem toVal_of_roundsTo {x : Float} {u : UnpackedFloat} {r : ℝ}
    (hx : unpacked x =
      UnpackedFloat.unpack Format.binary64 (UnpackedFloat.pack Format.binary64 u))
    (h : RoundsTo u r) : toVal x = some (roundExt r) := by
  rw [toVal_of_ne_nan (hx ▸ unpack_pack_ne_nan_of_roundsTo h), hx,
    extValue_unpack_pack_of_roundsTo h]

theorem toVal_add {x y : Float} {a b : ℝ} (hx : toVal x = some (a : EReal))
    (hy : toVal y = some (b : EReal)) : toVal (x + y) = some (roundExt (a + b)) := by
  obtain ⟨hfx, rfl⟩ := finiteForm_of_toVal hx
  obtain ⟨hfy, rfl⟩ := finiteForm_of_toVal hy
  exact toVal_of_roundsTo (unpacked_add x y)
    (add_roundsTo (unpacked_wellFormed x) (unpacked_wellFormed y) hfx hfy)

theorem toVal_sub {x y : Float} {a b : ℝ} (hx : toVal x = some (a : EReal))
    (hy : toVal y = some (b : EReal)) : toVal (x - y) = some (roundExt (a - b)) := by
  obtain ⟨hfx, rfl⟩ := finiteForm_of_toVal hx
  obtain ⟨hfy, rfl⟩ := finiteForm_of_toVal hy
  exact toVal_of_roundsTo (unpacked_sub x y)
    (sub_roundsTo (unpacked_wellFormed x) (unpacked_wellFormed y) hfx hfy)

theorem toVal_mul {x y : Float} {a b : ℝ} (hx : toVal x = some (a : EReal))
    (hy : toVal y = some (b : EReal)) : toVal (x * y) = some (roundExt (a * b)) := by
  obtain ⟨hfx, rfl⟩ := finiteForm_of_toVal hx
  obtain ⟨hfy, rfl⟩ := finiteForm_of_toVal hy
  exact toVal_of_roundsTo (unpacked_mul x y)
    (mul_roundsTo (unpacked_wellFormed x) (unpacked_wellFormed y) hfx hfy)

theorem toVal_div {x y : Float} {a b : ℝ} (hx : toVal x = some (a : EReal))
    (hy : toVal y = some (b : EReal)) (hb : b ≠ 0) : toVal (x / y) = some (roundExt (a / b)) := by
  obtain ⟨hfx, rfl⟩ := finiteForm_of_toVal hx
  obtain ⟨-, rfl⟩ := finiteForm_of_toVal hy
  exact toVal_of_roundsTo (unpacked_div x y) (div_roundsTo hfx hb)

theorem toVal_sqrt {x : Float} {a : ℝ} (hx : toVal x = some (a : EReal)) (ha : 0 ≤ a) :
    toVal x.sqrt = some (roundExt (Real.sqrt a)) := by
  obtain ⟨hfx, rfl⟩ := finiteForm_of_toVal hx
  exact toVal_of_roundsTo (unpacked_sqrt x) (sqrt_roundsTo hfx ha)

theorem onGrid_canonical {m : ℕ} {e : ℤ} (hc : Canonical m e) : OnGrid ((m : ℝ) * 2 ^ e) :=
  ⟨m, e, by rw [abs_of_nonneg (by positivity)]; exact_mod_cast hc.lt, hc.exp_ge, by push_cast; rfl⟩

theorem OnGrid.signed {f : ℝ} (h : OnGrid f) (s : Sign) : OnGrid (signed s f) := by
  cases s
  · exact h.neg
  · exact h

theorem OnGrid.abs {f : ℝ} (h : OnGrid f) : OnGrid |f| := by
  rcases abs_choice f with hf | hf <;> rw [hf]
  · exact h
  · exact h.neg

/-- The value of a finite well-formed double is a point of the grid below `2^1024`. -/
theorem value_onGrid {u : UnpackedFloat} (hw : WellFormed u) (hf : FiniteForm u) :
    OnGrid (value u) ∧ |value u| < overflowBound := by
  cases u with
  | zero s => exact ⟨by simpa using onGrid_zero, by simpa using overflowBound_pos⟩
  | finite s m e h =>
    refine ⟨(onGrid_canonical hw.1).signed s, ?_⟩
    rw [value_finite, abs_signed, abs_of_pos (mul_pos (by exact_mod_cast h) (two_zpow_pos e))]
    exact (canonical_lt_iff hw.1).2 hw.2
  | _ => exact hf.elim

/-- The value of a finite double is a point of the grid below `2^1024`. -/
theorem onGrid_of_toVal {x : Float} {a : ℝ} (hx : toVal x = some (a : EReal)) :
    OnGrid a ∧ |a| < overflowBound := by
  obtain ⟨hfx, rfl⟩ := finiteForm_of_toVal hx
  exact value_onGrid (unpacked_wellFormed x) hfx

theorem toVal_abs {x : Float} {a : ℝ} (hx : toVal x = some (a : EReal)) :
    toVal x.abs = some ((|a| : ℝ) : EReal) := by
  obtain ⟨hfx, rfl⟩ := finiteForm_of_toVal hx
  have hw := unpacked_wellFormed x
  obtain ⟨hgrid, hlt⟩ := value_onGrid hw hfx
  have hround : RoundsTo (unpacked x).abs |value (unpacked x)| := by
    cases hu : unpacked x with
    | zero s =>
      show RoundsTo (.zero .positive) |(0 : ℝ)|
      rw [abs_zero]
      exact roundsTo_zero _
    | finite s m e h =>
      rw [hu] at hw
      rw [value_finite, abs_signed,
        abs_of_pos (mul_pos (by exact_mod_cast h) (two_zpow_pos e))]
      exact roundsTo_finite .positive h hw.1
    | _ => rw [hu] at hfx; exact hfx.elim
  rw [toVal_of_roundsTo (unpacked_abs x) hround, roundExt_eq_self hgrid.abs (by rwa [abs_abs])]

/-! ## Infinite operands -/

theorem unpacked_of_toVal_top {x : Float} (h : toVal x = some ⊤) :
    unpacked x = .infinity .positive := by
  unfold toVal at h
  cases hu : unpacked x with
  | notANumber => rw [hu] at h; cases h
  | infinity s =>
    rw [hu] at h
    change some (extValue (.infinity s)) = some ⊤ at h
    cases s
    · exact absurd (Option.some.inj h) bot_ne_top
    · rfl
  | zero s =>
    rw [hu] at h
    exact absurd (Option.some.inj h) (EReal.coe_ne_top _)
  | finite s m e hm =>
    rw [hu] at h
    exact absurd (Option.some.inj h) (EReal.coe_ne_top _)

theorem unpacked_of_toVal_bot {x : Float} (h : toVal x = some ⊥) :
    unpacked x = .infinity .negative := by
  unfold toVal at h
  cases hu : unpacked x with
  | notANumber => rw [hu] at h; cases h
  | infinity s =>
    rw [hu] at h
    change some (extValue (.infinity s)) = some ⊥ at h
    cases s
    · rfl
    · exact absurd (Option.some.inj h) top_ne_bot
  | zero s =>
    rw [hu] at h
    exact absurd (Option.some.inj h) (EReal.coe_ne_bot _)
  | finite s m e hm =>
    rw [hu] at h
    exact absurd (Option.some.inj h) (EReal.coe_ne_bot _)

theorem toVal_of_unpacked_infinity {x : Float} {s : Sign} (h : unpacked x = .infinity s) :
    toVal x = some (extValue (.infinity s)) := by
  rw [toVal_of_ne_nan (by rw [h]; exact fun h => nomatch h), h]

/-- A finite double plus an infinity is that infinity. -/
theorem toVal_add_inf {x y : Float} {a : ℝ} {s : Sign} (hx : toVal x = some (a : EReal))
    (hy : unpacked y = .infinity s) : toVal (x + y) = some (extValue (.infinity s)) := by
  have hfx := (finiteForm_of_toVal hx).1
  apply toVal_of_unpacked_infinity
  rw [unpacked_add, hy]
  cases hu : unpacked x with
  | zero t => exact unpack_pack_infinity s
  | finite t m e h => exact unpack_pack_infinity s
  | _ => rw [hu] at hfx; exact hfx.elim

/-- An infinity less a finite double is that infinity. -/
theorem toVal_inf_sub {x y : Float} {b : ℝ} {s : Sign} (hx : unpacked x = .infinity s)
    (hy : toVal y = some (b : EReal)) : toVal (x - y) = some (extValue (.infinity s)) := by
  have hfy := (finiteForm_of_toVal hy).1
  apply toVal_of_unpacked_infinity
  rw [unpacked_sub, hx]
  cases hu : unpacked y with
  | zero t => exact unpack_pack_infinity s
  | finite t m e h => exact unpack_pack_infinity s
  | _ => rw [hu] at hfy; exact hfy.elim

/-- The sign of a finite double of positive value is positive. -/
theorem unpacked_of_toVal_pos {y : Float} {b : ℝ} (hy : toVal y = some (b : EReal)) (hb : 0 < b) :
    ∃ m e h, unpacked y = .finite .positive m e h := by
  obtain ⟨hfy, rfl⟩ := finiteForm_of_toVal hy
  cases hu : unpacked y with
  | zero t => rw [hu, value_zero] at hb; exact absurd hb (lt_irrefl 0)
  | finite t m e h =>
    cases t
    · rw [hu, value_finite] at hb
      have : (0 : ℝ) < m * 2 ^ e := mul_pos (by exact_mod_cast h) (two_zpow_pos e)
      simp only [signed] at hb
      linarith
    · exact ⟨m, e, h, rfl⟩
  | _ => rw [hu] at hfy; exact hfy.elim

/-- The sign of a finite double of negative value is negative. -/
theorem unpacked_of_toVal_neg {y : Float} {b : ℝ} (hy : toVal y = some (b : EReal)) (hb : b < 0) :
    ∃ m e h, unpacked y = .finite .negative m e h := by
  obtain ⟨hfy, rfl⟩ := finiteForm_of_toVal hy
  cases hu : unpacked y with
  | zero t => rw [hu, value_zero] at hb; exact absurd hb (lt_irrefl 0)
  | finite t m e h =>
    cases t
    · exact ⟨m, e, h, rfl⟩
    · rw [hu, value_finite] at hb
      have : (0 : ℝ) < m * 2 ^ e := mul_pos (by exact_mod_cast h) (two_zpow_pos e)
      simp only [signed] at hb
      linarith
  | _ => rw [hu] at hfy; exact hfy.elim

/-- Infinity times a positive finite double is infinity. -/
theorem toVal_top_mul {x y : Float} {b : ℝ} (hx : toVal x = some ⊤)
    (hy : toVal y = some (b : EReal)) (hb : 0 < b) : toVal (x * y) = some ⊤ := by
  obtain ⟨m, e, h, hu⟩ := unpacked_of_toVal_pos hy hb
  apply toVal_of_unpacked_infinity (s := .positive)
  rw [unpacked_mul, unpacked_of_toVal_top hx, hu]
  exact unpack_pack_infinity .positive

/-- Infinity divided by a finite double other than zero is the infinity of its sign. -/
theorem toVal_top_div {x y : Float} {b : ℝ} (hx : toVal x = some ⊤)
    (hy : toVal y = some (b : EReal)) (hb : b ≠ 0) :
    toVal (x / y) = some (if 0 < b then ⊤ else ⊥) := by
  rcases lt_or_gt_of_ne hb with hneg | hpos
  · obtain ⟨m, e, h, hu⟩ := unpacked_of_toVal_neg hy hneg
    rw [if_neg (not_lt.2 hneg.le)]
    apply toVal_of_unpacked_infinity (s := .negative)
    rw [unpacked_div, unpacked_of_toVal_top hx, hu]
    exact unpack_pack_infinity .negative
  · obtain ⟨m, e, h, hu⟩ := unpacked_of_toVal_pos hy hpos
    rw [if_pos hpos]
    apply toVal_of_unpacked_infinity (s := .positive)
    rw [unpacked_div, unpacked_of_toVal_top hx, hu]
    exact unpack_pack_infinity .positive

/-! ## Natural numbers -/

/-- Past `2^53` a natural number is converted through the model's decimal conversion, with no
power of ten. -/
theorem ofNat_toModel_large {n : ℕ} (hn : 2 ^ 53 ≤ n) :
    (Float.ofNat n).toModel =
      Float.Model.pack (UnpackedFloat.ofScientific Format.binary64 n 0) := by
  show (Float.ofScientific n false 0).toModel = _
  rw [Float.ofScientific, dif_neg (fun h => absurd h.1 (by omega))]
  rfl

theorem mantissaBits_binary64 : Format.binary64.mantissaBits = 53 := rfl

/-- The decimal conversion of a positive natural number with no power of ten holds the number
rounded: the number, moved up by 53 bits and down again, times one. -/
theorem ofScientific_roundsTo {n : ℕ} (hn : 0 < n) :
    RoundsTo (UnpackedFloat.ofScientific Format.binary64 n 0) n := by
  unfold UnpackedFloat.ofScientific
  rw [dif_neg hn.ne', if_neg (by decide), if_neg (by simp), if_pos le_rfl]
  simp only [mantissaBits_binary64]
  have hshift : 0 < n <<< 53 := by
    rw [Nat.shiftLeft_eq]
    exact Nat.mul_pos hn (Nat.two_pow_pos _)
  -- the product sits 53 bits below its leading bit, at the last place of its binade
  have hle : -((53 : ℕ) : ℤ) + (0 : ℤ) ≤ Format.binary64.targetExponent
      (totalExponent (n <<< 53 * 10 ^ Int.toNat 0) (-((53 : ℕ) : ℤ) + (0 : ℤ))) := by
    have hlog : 53 ≤ (n <<< 53 * 10 ^ Int.toNat 0).log2 := by
      rw [Int.toNat_zero, Nat.pow_zero, Nat.mul_one]
      refine (Nat.le_log2 hshift.ne').2 ?_
      rw [Nat.shiftLeft_eq]
      exact Nat.le_mul_of_pos_left _ hn
    rw [targetExponent_binary64, totalExponent]
    omega
  have h := @mul_finite_of_le .positive .positive (n <<< 53) (10 ^ Int.toNat 0) (-((53 : ℕ) : ℤ)) 0
    hshift (Nat.pow_pos (by decide)) hle
  have hvalue : signed .positive (((n <<< 53 : ℕ) : ℝ) * 2 ^ (-((53 : ℕ) : ℤ))) *
      signed .positive (((10 ^ Int.toNat 0 : ℕ) : ℝ) * 2 ^ (0 : ℤ)) = n := by
    simp only [signed, Nat.shiftLeft_eq, Int.toNat_zero, Nat.pow_zero, zpow_zero, mul_one,
      Nat.cast_one, Nat.cast_mul, Nat.cast_pow, Nat.cast_ofNat, zpow_neg]
    field_simp
  rwa [hvalue] at h

/-- A natural number converts to the double nearest to it, or to infinity past the largest
double. -/
theorem toVal_ofNat_roundExt (n : ℕ) : toVal (Float.ofNat n) = some (roundExt n) := by
  rcases lt_or_ge n (2 ^ 53) with hn | hn
  · -- below `2^53` the conversion rounds once, through the word
    have hround : RoundsTo (UnpackedFloat.ofNat Format.binary64 n) n := by
      have := normalize_roundsTo n 0 .positive
      rwa [zpow_zero, mul_one, Int.cast_natCast] at this
    refine toVal_of_roundsTo ?_ hround
    rw [unpacked, ofNat_toModel hn]
    rfl
  · refine toVal_of_roundsTo ?_ (ofScientific_roundsTo (by omega))
    rw [unpacked, ofNat_toModel_large hn]
    rfl

/-- A natural number below `2^53` is a double of its own value. -/
theorem toVal_ofNat {n : ℕ} (hn : n < 2 ^ 53) : toVal (Float.ofNat n) = some (n : EReal) := by
  rw [toVal_ofNat_roundExt]
  congr 1
  apply roundExt_eq_self ⟨n, 0, by rw [abs_of_nonneg (by positivity)]; exact_mod_cast hn,
    by norm_num, by simp⟩
  rw [abs_of_nonneg (by positivity), overflowBound]
  calc (n : ℝ) < 2 ^ 53 := by exact_mod_cast hn
    _ ≤ 2 ^ (1024 : ℤ) := by
      rw [show (2 : ℝ) ^ 53 = 2 ^ (53 : ℤ) by norm_num]
      exact zpow_le_zpow_right₀ (by norm_num) (by norm_num)

/-! ## The classes read off the fields -/

theorem exponentField_toNat (x : Float) :
    (@unpackExponent Format.binary64 x.toModel.toBits.toBitVec).toNat = (parts x).field := by
  simp only [unpackExponent, BitVec.toNat_cast, BitVec.extractLsb_toNat, parts, Float.toBits]
  rw [Nat.shiftRight_eq_div_pow]
  rfl

theorem fractionField_toNat (x : Float) :
    (@unpackMantissa Format.binary64 x.toModel.toBits.toBitVec).toNat =
      (parts x).fraction := by
  simp only [unpackMantissa, BitVec.toNat_cast, BitVec.extractLsb_toNat, parts, Float.toBits]
  rw [Nat.shiftRight_zero]
  rfl

/-- The unpacked form by the exponent field: all ones is an infinity or NaN, anything else a
zero or a finite significand and exponent. -/
theorem unpacked_cases (x : Float) :
    ((parts x).field = 2047 ∧ (parts x).fraction = 0 ∧ ∃ s, unpacked x = .infinity s) ∨
      ((parts x).field = 2047 ∧ (parts x).fraction ≠ 0 ∧ unpacked x = .notANumber) ∨
      ((parts x).field ≠ 2047 ∧ FiniteForm (unpacked x)) := by
  have hE := exponentField_toNat x
  have hM := fractionField_toNat x
  set ev := @unpackExponent Format.binary64 x.toModel.toBits.toBitVec with hev
  set mv := @unpackMantissa Format.binary64 x.toModel.toBits.toBitVec with hmv
  have hinf_iff : ev = -1#11 ↔ (parts x).field = 2047 := by
    rw [← hE]
    exact ⟨fun h => by rw [h]; rfl, fun h => BitVec.eq_of_toNat_eq (by rw [h]; rfl)⟩
  have hzero_iff : mv = 0#52 ↔ (parts x).fraction = 0 := by
    rw [← hM]
    exact ⟨fun h => by rw [h]; rfl, fun h => BitVec.eq_of_toNat_eq (by rw [h]; rfl)⟩
  show (_ ∧ _ ∧ ∃ s, UnpackedFloat.unpack Format.binary64 x.toModel.toBits.toBitVec = _) ∨
    (_ ∧ _ ∧ UnpackedFloat.unpack Format.binary64 x.toModel.toBits.toBitVec = _) ∨
    (_ ∧ FiniteForm (UnpackedFloat.unpack Format.binary64 x.toModel.toBits.toBitVec))
  simp only [UnpackedFloat.unpack, ← hev, ← hmv]
  by_cases hinf : ev = -1#11
  · rw [if_pos hinf]
    by_cases hzero : mv = 0#52
    · rw [if_pos hzero]
      exact .inl ⟨hinf_iff.1 hinf, hzero_iff.1 hzero, _, rfl⟩
    · rw [if_neg hzero]
      exact .inr (.inl ⟨hinf_iff.1 hinf, mt hzero_iff.2 hzero, rfl⟩)
  · rw [if_neg hinf]
    refine .inr (.inr ⟨mt hinf_iff.2 hinf, ?_⟩)
    split_ifs <;> trivial

theorem isFinite_iff {x : Float} : isFinite x = true ↔ FiniteForm (unpacked x) := by
  unfold isFinite
  rcases unpacked_cases x with ⟨hf, -, s, hu⟩ | ⟨hf, -, hu⟩ | ⟨hf, hu⟩
  · simp [hf, hu, FiniteForm]
  · simp [hf, hu, FiniteForm]
  · simp [hf, hu]

theorem isNaN_iff {x : Float} : isNaN x = true ↔ unpacked x = .notANumber := by
  unfold isNaN
  rcases unpacked_cases x with ⟨hf, hfr, s, hu⟩ | ⟨hf, hfr, hu⟩ | ⟨hf, hu⟩
  · simp [hf, hfr, hu]
  · simp [hf, hfr, hu]
  · refine ⟨fun h => by simp [hf] at h, fun h => by rw [h] at hu; exact hu.elim⟩

theorem toVal_ne_none_of_isNaN {x : Float} (h : isNaN x = false) : toVal x ≠ none := by
  rw [ne_eq, toVal_eq_none_iff, ← isNaN_iff, h]
  exact Bool.false_ne_true

theorem isInfinite_iff {x : Float} : isInfinite x = true ↔ ∃ s, unpacked x = .infinity s := by
  unfold isInfinite
  rcases unpacked_cases x with ⟨hf, hfr, s, hu⟩ | ⟨hf, hfr, hu⟩ | ⟨hf, hu⟩
  · simp [hf, hfr, hu]
  · simp [hf, hfr, hu]
  · refine ⟨fun h => by simp [hf] at h, fun ⟨s, h⟩ => by rw [h] at hu; exact hu.elim⟩

/-- A finite double is one with a real value. -/
theorem finiteForm_iff_toVal {x : Float} : FiniteForm (unpacked x) ↔ ∃ a : ℝ, toVal x = some a := by
  refine ⟨fun h => ⟨value (unpacked x), ?_⟩, fun ⟨a, h⟩ => (finiteForm_of_toVal h).1⟩
  rw [toVal_of_ne_nan (fun hn => by rw [hn] at h; exact h)]
  cases hu : unpacked x with
  | zero s => rfl
  | finite s m e hm => rfl
  | _ => rw [hu] at h; exact h.elim

/-! ## Rounding errors of finite results -/

/-- A double holds the real `r` up to one rounding: its value `v` is finite and lies within
`2^-52` of `|r|` plus `2^-1074` of `r`. -/
def Approx (z : Float) (r v : ℝ) : Prop :=
  toVal z = some (v : EReal) ∧ |v - r| ≤ |r| / 2 ^ 52 + leastDouble

theorem approx_of_toVal {z : Float} {r : ℝ} (h : toVal z = some (roundExt r))
    (hr : |r| ≤ finiteBound) : Approx z r (roundSigned r) :=
  ⟨by rw [h, roundExt_of_abs_le hr], roundSigned_sub_le r⟩

section Approx

variable {x y : Float} {a b : ℝ}

theorem approx_add (hx : toVal x = some (a : EReal)) (hy : toVal y = some (b : EReal))
    (hr : |a + b| ≤ finiteBound) : Approx (x + y) (a + b) (roundSigned (a + b)) :=
  approx_of_toVal (toVal_add hx hy) hr

theorem approx_sub (hx : toVal x = some (a : EReal)) (hy : toVal y = some (b : EReal))
    (hr : |a - b| ≤ finiteBound) : Approx (x - y) (a - b) (roundSigned (a - b)) :=
  approx_of_toVal (toVal_sub hx hy) hr

theorem approx_mul (hx : toVal x = some (a : EReal)) (hy : toVal y = some (b : EReal))
    (hr : |a * b| ≤ finiteBound) : Approx (x * y) (a * b) (roundSigned (a * b)) :=
  approx_of_toVal (toVal_mul hx hy) hr

theorem approx_div (hx : toVal x = some (a : EReal)) (hy : toVal y = some (b : EReal))
    (hb : b ≠ 0) (hr : |a / b| ≤ finiteBound) :
    Approx (x / y) (a / b) (roundSigned (a / b)) :=
  approx_of_toVal (toVal_div hx hy hb) hr

theorem approx_sqrt (hx : toVal x = some (a : EReal)) (ha : 0 ≤ a)
    (hr : Real.sqrt a ≤ finiteBound) :
    Approx x.sqrt (Real.sqrt a) (roundSigned (Real.sqrt a)) :=
  approx_of_toVal (toVal_sqrt hx ha) (by rwa [abs_of_nonneg (Real.sqrt_nonneg a)])

end Approx

end TransitRouting.Binary64
