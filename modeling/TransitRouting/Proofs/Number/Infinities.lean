import TransitRouting.Proofs.Number.Hypot

/-!
# Infinities, zeros and NaN in double arithmetic

The rounding lemmas of `Doubles` cover finite operands. Here are the other cases, read off the
unpacked model: a NaN operand gives NaN; an infinity plus a finite double, or plus an infinity of
its own sign, is that infinity; a finite double less an infinity is the opposite infinity.

Two consequences carry the order arguments of the router. A sum has a value unless an operand is
NaN or the two are infinities of opposite signs (`toVal_add_ne_none`), and adding one double to
finite doubles keeps their order (`add_le_add_of_finite`). The products and quotients of a
non-negative double by a positive factor and by a speed fall into one sign class
(`toVal_mul_nonneg`, `toVal_div_aligned`), or, when the factor is infinite or the speed zero, are
NaN or one infinity (`mul_inf_cases`, `div_zero_cases`, `div_of_inf_cases`).
-/

set_option autoImplicit false

namespace TransitRouting.Binary64

open Float.Model Float.Model.UnpackedFloat

/-! ## Special values -/

theorem unpack_pack_nan :
    UnpackedFloat.unpack Format.binary64 (UnpackedFloat.pack Format.binary64 .notANumber) =
      .notANumber := rfl

/-- Packing and unpacking keeps every unpacked double but NaN as it is. -/
theorem unpack_pack_of_wellFormed {u : UnpackedFloat} (hw : WellFormed u)
    (hu : u ≠ .notANumber) :
    UnpackedFloat.unpack Format.binary64 (UnpackedFloat.pack Format.binary64 u) = u := by
  cases u with
  | notANumber => exact absurd rfl hu
  | infinity s => exact unpack_pack_infinity s
  | zero s => exact unpack_pack_zero s
  | finite s m e h => exact unpack_pack_finite s h hw.1 hw.2

theorem extValue_infinity_positive : extValue (.infinity .positive) = ⊤ := rfl

theorem extValue_infinity_negative : extValue (.infinity .negative) = ⊥ := rfl

/-- A double of non-negative value is a zero, a positive finite double or positive infinity. -/
theorem unpacked_of_nonneg {x : Float} {a : EReal} (hx : toVal x = some a) (ha : 0 ≤ a) :
    (∃ s, unpacked x = .zero s) ∨ (∃ m e h, unpacked x = .finite .positive m e h) ∨
      unpacked x = .infinity .positive := by
  cases a with
  | bot => exact absurd ha (by simp)
  | top => exact .inr (.inr (unpacked_of_toVal_top hx))
  | coe a =>
    rcases (EReal.coe_nonneg.1 ha).eq_or_lt with rfl | hpos
    · -- a zero value comes only from a zero
      obtain ⟨hf, hv⟩ := finiteForm_of_toVal hx
      cases hu : unpacked x with
      | zero s => exact .inl ⟨s, rfl⟩
      | finite s m e h =>
        rw [hu, value_finite] at hv
        have : (0 : ℝ) < m * 2 ^ e := mul_pos (by exact_mod_cast h) (two_zpow_pos e)
        cases s <;> simp only [signed] at hv <;> linarith
      | _ => rw [hu] at hf; exact hf.elim
    · exact .inr (.inl (unpacked_of_toVal_pos hx hpos))

/-! ## Sums -/

theorem add_nan_right (u : UnpackedFloat) :
    UnpackedFloat.add Format.binary64 u .notANumber = .notANumber := by
  cases u <;> rfl

theorem toVal_add_nan {x y : Float} (hy : toVal y = none) : toVal (x + y) = none := by
  rw [toVal_eq_none_iff] at hy ⊢
  rw [unpacked_add, hy, add_nan_right, unpack_pack_nan]

/-- A finite double plus an infinity is that infinity, in the unpacked form. -/
theorem unpacked_add_inf {x y : Float} {s : Sign} (hx : FiniteForm (unpacked x))
    (hy : unpacked y = .infinity s) : unpacked (x + y) = .infinity s := by
  rw [unpacked_add, hy]
  cases hu : unpacked x with
  | zero t => exact unpack_pack_infinity s
  | finite t m e h => exact unpack_pack_infinity s
  | _ => rw [hu] at hx; exact hx.elim

/-- An infinity plus a finite double is that infinity. -/
theorem toVal_inf_add {x y : Float} {b : ℝ} {s : Sign} (hx : unpacked x = .infinity s)
    (hy : toVal y = some (b : EReal)) : toVal (x + y) = some (extValue (.infinity s)) := by
  have hfy := (finiteForm_of_toVal hy).1
  apply toVal_of_unpacked_infinity
  rw [unpacked_add, hx]
  cases hu : unpacked y with
  | zero t => exact unpack_pack_infinity s
  | finite t m e h => exact unpack_pack_infinity s
  | _ => rw [hu] at hfy; exact hfy.elim

/-- Two infinities of one sign add up to that infinity. -/
theorem toVal_inf_add_inf {x y : Float} {s : Sign} (hx : unpacked x = .infinity s)
    (hy : unpacked y = .infinity s) : toVal (x + y) = some (extValue (.infinity s)) := by
  apply toVal_of_unpacked_infinity
  rw [unpacked_add, hx, hy]
  cases s <;> rfl

/-- A sum of doubles has a value unless an operand is NaN or the operands are infinities of
opposite signs. -/
theorem toVal_add_ne_none {x y : Float} {a b : EReal} (hx : toVal x = some a)
    (hy : toVal y = some b) (htb : ¬(a = ⊤ ∧ b = ⊥)) (hbt : ¬(a = ⊥ ∧ b = ⊤)) :
    toVal (x + y) ≠ none := by
  cases a with
  | bot =>
    have hux := unpacked_of_toVal_bot hx
    cases b with
    | bot => rw [toVal_inf_add_inf hux (unpacked_of_toVal_bot hy)]; simp
    | coe b => rw [toVal_inf_add hux hy]; simp
    | top => exact absurd ⟨rfl, rfl⟩ hbt
  | coe a =>
    cases b with
    | bot => rw [toVal_add_inf hx (unpacked_of_toVal_bot hy)]; simp
    | coe b => rw [toVal_add hx hy]; simp
    | top => rw [toVal_add_inf hx (unpacked_of_toVal_top hy)]; simp
  | top =>
    have hux := unpacked_of_toVal_top hx
    cases b with
    | bot => exact absurd ⟨rfl, rfl⟩ htb
    | coe b => rw [toVal_inf_add hux hy]; simp
    | top => rw [toVal_inf_add_inf hux (unpacked_of_toVal_top hy)]; simp

/-- Two doubles of one sign have a sum. -/
theorem toVal_add_ne_none_of_sign {x y : Float} {a b : EReal} (hx : toVal x = some a)
    (hy : toVal y = some b) (hab : (0 ≤ a ∧ 0 ≤ b) ∨ (a ≤ 0 ∧ b ≤ 0)) :
    toVal (x + y) ≠ none := by
  refine toVal_add_ne_none hx hy ?_ ?_
  · rintro ⟨rfl, rfl⟩
    rcases hab with ⟨-, h⟩ | ⟨h, -⟩ <;> simp at h
  · rintro ⟨rfl, rfl⟩
    rcases hab with ⟨h, -⟩ | ⟨-, h⟩ <;> simp at h

/-- A finite double plus any double but NaN has a value. -/
theorem toVal_add_ne_none_of_finite {x y : Float} {a : ℝ} (hx : toVal x = some (a : EReal))
    (hy : toVal y ≠ none) : toVal (x + y) ≠ none := by
  obtain ⟨b, hb⟩ := Option.ne_none_iff_exists'.1 hy
  exact toVal_add_ne_none hx hb (by simp) (by simp)

/-- Adding one double to finite doubles keeps their order. -/
theorem add_le_add_of_finite {x x' y : Float} {a a' : ℝ} (hx : toVal x = some (a : EReal))
    (hx' : toVal x' = some (a' : EReal)) (ha : a ≤ a') (hy : toVal y ≠ none) :
    x + y ≤ x' + y := by
  obtain ⟨b, hb⟩ := Option.ne_none_iff_exists'.1 hy
  cases b with
  | bot =>
    have huy := unpacked_of_toVal_bot hb
    rw [le_iff_of_toVal (toVal_add_inf hx huy) (toVal_add_inf hx' huy)]
  | coe b =>
    rw [le_iff_of_toVal (toVal_add hx hb) (toVal_add hx' hb)]
    exact roundExt_mono (by linarith)
  | top =>
    have huy := unpacked_of_toVal_top hb
    rw [le_iff_of_toVal (toVal_add_inf hx huy) (toVal_add_inf hx' huy)]

/-- Adding a double that is not negative to a finite one gives no less. -/
theorem le_add_of_nonneg {x y : Float} {a : ℝ} {b : EReal} (hx : toVal x = some (a : EReal))
    (hy : toVal y = some b) (hb : 0 ≤ b) : x ≤ x + y := by
  cases b with
  | bot => exact absurd hb (by simp)
  | coe b =>
    rw [le_iff_of_toVal hx (toVal_add hx hy)]
    -- a finite double is its own rounding, and rounding is monotone
    obtain ⟨hgrid, hlt⟩ := onGrid_of_toVal hx
    calc ((a : ℝ) : EReal) = roundExt a := (roundExt_eq_self hgrid hlt).symm
      _ ≤ roundExt (a + b) := roundExt_mono (by linarith [EReal.coe_nonneg.1 hb])
  | top =>
    rw [le_iff_of_toVal hx (toVal_add_inf hx (unpacked_of_toVal_top hy))]
    exact le_top

/-! ## Differences -/

/-- A finite double less an infinity is the opposite infinity. -/
theorem toVal_sub_inf {x y : Float} {a : ℝ} {s : Sign} (hx : toVal x = some (a : EReal))
    (hy : unpacked y = .infinity s) : toVal (x - y) = some (extValue (.infinity (-s))) := by
  have hfx := (finiteForm_of_toVal hx).1
  apply toVal_of_unpacked_infinity
  rw [unpacked_sub, hy]
  cases hu : unpacked x with
  | zero t => exact unpack_pack_infinity (-s)
  | finite t m e h => exact unpack_pack_infinity (-s)
  | _ => rw [hu] at hfx; exact hfx.elim

/-- A finite double less any double but NaN has a value. -/
theorem toVal_sub_ne_none_of_finite {x y : Float} {a : ℝ} (hx : toVal x = some (a : EReal))
    (hy : toVal y ≠ none) : toVal (x - y) ≠ none := by
  obtain ⟨b, hb⟩ := Option.ne_none_iff_exists'.1 hy
  cases b with
  | bot => rw [toVal_sub_inf hx (unpacked_of_toVal_bot hb)]; simp
  | coe b => rw [toVal_sub hx hb]; simp
  | top => rw [toVal_sub_inf hx (unpacked_of_toVal_top hb)]; simp

/-! ## Products and quotients of one sign -/

theorem roundExt_zero : roundExt 0 = ((0 : ℝ) : EReal) :=
  roundExt_eq_self onGrid_zero (by simpa using overflowBound_pos)

theorem roundExt_nonpos {r : ℝ} (hr : r ≤ 0) : roundExt r ≤ 0 :=
  (roundExt_mono hr).trans_eq (by rw [roundExt_zero]; rfl)

/-- A non-negative double times a positive finite double is non-negative. -/
theorem toVal_mul_nonneg {x y : Float} {a : EReal} {c : ℝ} (hx : toVal x = some a)
    (ha : 0 ≤ a) (hy : toVal y = some (c : EReal)) (hc : 0 < c) :
    ∃ r, toVal (x * y) = some r ∧ 0 ≤ r := by
  cases a with
  | bot => exact absurd ha (by simp)
  | coe a => exact ⟨_, toVal_mul hx hy, roundExt_nonneg (mul_nonneg (EReal.coe_nonneg.1 ha) hc.le)⟩
  | top => exact ⟨⊤, toVal_top_mul hx hy hc, le_top⟩

/-- A non-negative double divided by a finite double other than zero has the sign of the
divisor. -/
theorem toVal_div_aligned {x y : Float} {a : EReal} {v : ℝ} (hx : toVal x = some a)
    (ha : 0 ≤ a) (hy : toVal y = some (v : EReal)) (hv : v ≠ 0) :
    ∃ r, toVal (x / y) = some r ∧ (0 < v → 0 ≤ r) ∧ (v < 0 → r ≤ 0) := by
  cases a with
  | bot => exact absurd ha (by simp)
  | coe a =>
    have ha' := EReal.coe_nonneg.1 ha
    refine ⟨_, toVal_div hx hy hv, fun hpos => ?_, fun hneg => ?_⟩
    · exact roundExt_nonneg (div_nonneg ha' hpos.le)
    · exact roundExt_nonpos (div_nonpos_of_nonneg_of_nonpos ha' hneg.le)
  | top =>
    refine ⟨_, toVal_top_div hx hy hv, fun hpos => ?_, fun hneg => ?_⟩
    · rw [if_pos hpos]; exact le_top
    · rw [if_neg (not_lt.2 hneg.le)]; exact bot_le

/-! ## Products and quotients that leave the finite doubles -/

theorem positive_mul (σ : Sign) : Sign.positive * σ = σ := by cases σ <;> rfl

theorem positive_div (σ : Sign) : Sign.positive / σ = σ := by cases σ <;> rfl

/-- A non-negative double times positive infinity is NaN (for a zero) or positive infinity. -/
theorem mul_inf_cases {x y : Float} {a : EReal} (hx : toVal x = some a) (ha : 0 ≤ a)
    (hy : unpacked y = .infinity .positive) :
    toVal (x * y) = none ∨ unpacked (x * y) = .infinity .positive := by
  rw [toVal_eq_none_iff, unpacked_mul, hy]
  rcases unpacked_of_nonneg hx ha with ⟨s, hu⟩ | ⟨m, e, h, hu⟩ | hu <;>
    simp only [hu, UnpackedFloat.mul, positive_mul, unpack_pack_nan, unpack_pack_infinity,
      true_or, or_true]

/-- A non-negative double divided by a zero is NaN (for a zero) or the infinity of the zero's
sign. -/
theorem div_zero_cases {x y : Float} {a : EReal} {σ : Sign} (hx : toVal x = some a)
    (ha : 0 ≤ a) (hy : unpacked y = .zero σ) :
    toVal (x / y) = none ∨ unpacked (x / y) = .infinity σ := by
  rw [toVal_eq_none_iff, unpacked_div, hy]
  rcases unpacked_of_nonneg hx ha with ⟨s, hu⟩ | ⟨m, e, h, hu⟩ | hu <;>
    simp only [hu, UnpackedFloat.div, positive_div, unpack_pack_nan, unpack_pack_infinity,
      true_or, or_true]

/-- NaN or positive infinity divided by a finite double of sign `σ` is NaN or the infinity of
sign `σ`. -/
theorem div_of_inf_cases {x y : Float} {σ : Sign}
    (hx : toVal x = none ∨ unpacked x = .infinity .positive)
    (hy : unpacked y = .zero σ ∨ ∃ m e h, unpacked y = .finite σ m e h) :
    toVal (x / y) = none ∨ unpacked (x / y) = .infinity σ := by
  rw [toVal_eq_none_iff] at hx ⊢
  rw [unpacked_div]
  rcases hx with hx | hx
  · refine .inl ?_
    rw [hx, show UnpackedFloat.div Format.binary64 .notANumber (unpacked y) = .notANumber from rfl,
      unpack_pack_nan]
  · rcases hy with hy | ⟨m, e, h, hy⟩ <;>
      simp only [hx, hy, UnpackedFloat.div, positive_div, unpack_pack_infinity, or_true]

/-! ## Comparisons -/

/-- Doubles that are each NaN or one and the same infinity are never below one another. -/
theorem not_lt_of_nan_or_inf {x y : Float} {σ : Sign}
    (hx : toVal x = none ∨ unpacked x = .infinity σ)
    (hy : toVal y = none ∨ unpacked y = .infinity σ) : ¬ x < y := by
  rw [lt_iff]
  rintro ⟨a, b, ha, hb, hab⟩
  rcases hx with hx | hx
  · rw [hx] at ha; cases ha
  rcases hy with hy | hy
  · rw [hy] at hb; cases hb
  rw [toVal_of_unpacked_infinity hx, Option.some.injEq] at ha
  rw [toVal_of_unpacked_infinity hy, Option.some.injEq] at hb
  rw [← ha, ← hb] at hab
  exact lt_irrefl _ hab

/-- A finite double plus NaN or an infinity is NaN or that infinity. -/
theorem add_nan_or_inf {x y : Float} {a : ℝ} {σ : Sign} (hx : toVal x = some (a : EReal))
    (hy : toVal y = none ∨ unpacked y = .infinity σ) :
    toVal (x + y) = none ∨ unpacked (x + y) = .infinity σ := by
  rcases hy with hy | hy
  · exact .inl (toVal_add_nan hy)
  · exact .inr (unpacked_add_inf (finiteForm_of_toVal hx).1 hy)

end TransitRouting.Binary64
