import Mathlib
import TransitRouting.Profiling.RequestId

/-!
# A request id renders as its decimal numeral

The bytes of a request id spell a big-endian unsigned integer, `∑ bᵢ·256^(n-1-i)`. Its rendering
is the canonical decimal numeral of that integer, the one `toString` gives a natural number: no
leading zeros, and `"0"` for zero. The empty id renders as the empty text.

The proof follows the number through the words. After each byte the limbs are the base-10⁹
digits of the number read so far, least significant first, or the single limb `0` while that
number is zero (`limbs_map_toNat`). Multiplying by 256 and adding a carry keeps that form
(`mulAdd_map_toNat`): a limb below 10⁹ times 256, plus a carry below 256, stays below 256·10⁹,
so the carry out is again below 256 and no value on the way comes near 2⁶⁴. Writing the top
limb bare and every lower limb in nine digits then gives the numeral of the whole number, one
limb at a time (`toDigits_append_padded`).

## What this module delivers

- `bigEndianValue`: the integer a byte string spells.
- `toDigits_append_padded`: the digits of `n`, then those of `d` padded to `k` places, are the
  digits of `b^k·n + d`.
- `limbs_map_toNat`: the limbs are the base-10⁹ digits of that integer.
- `carries`: the carries one byte passes along the limbs.
- `decimal_numeral_without_overflow`: the rendering is the numeral, every limb stays below 10⁹
  and every carry below 256, and the 64-bit arithmetic of each limb step is exact.
-/

set_option autoImplicit false

namespace TransitRouting.RequestId

/-! ## The integer a byte string spells -/

/-- The unsigned integer a byte string spells, most significant byte first. -/
def bigEndianValue (bytes : List UInt8) : ℕ :=
  ∑ i ∈ Finset.range bytes.length, (bytes.getD i 0).toNat * 256 ^ (bytes.length - 1 - i)

@[simp]
theorem bigEndianValue_nil : bigEndianValue [] = 0 := by
  simp [bigEndianValue]

/-- One more byte shifts the number one byte up and adds itself. -/
theorem bigEndianValue_append_singleton (bytes : List UInt8) (b : UInt8) :
    bigEndianValue (bytes ++ [b]) = bigEndianValue bytes * 256 + b.toNat := by
  simp only [bigEndianValue, List.length_append, List.length_singleton, Nat.add_sub_cancel,
    Finset.sum_range_succ, Nat.sub_self, pow_zero, mul_one, Finset.sum_mul]
  congr 1
  · -- every earlier byte sits one place higher than it did
    refine Finset.sum_congr rfl fun i hi => ?_
    have hi : i < bytes.length := Finset.mem_range.1 hi
    rw [List.getD_append _ _ _ _ hi, mul_assoc, ← pow_succ]
    congr 2
    omega
  · simp [List.getD_eq_getElem?_getD]

/-! ## Numerals written in pieces -/

section Numerals

variable {b n : ℕ}

/-- The digits of `d` written after those of a positive `n` shift `n` up by as many places as
`d` has digits. -/
theorem toDigits_append_toDigits_shift (hb : 1 < b) (hn : 0 < n) (d : ℕ) :
    Nat.toDigits b n ++ Nat.toDigits b d =
      Nat.toDigits b (b ^ (Nat.toDigits b d).length * n + d) := by
  induction d using Nat.strong_induction_on with
  | _ d ih =>
    rcases Nat.lt_or_ge d b with hd | hd
    · simpa [Nat.toDigits_of_lt_base hd] using Nat.toDigits_append_toDigits hb hn hd
    · -- the last digit of `d` comes off, and the rest shifts `n` one place less
      have hq : d / b < d := Nat.div_lt_self (by omega) hb
      have hr : d % b < b := Nat.mod_lt d (by omega)
      have hsplit : Nat.toDigits b d = Nat.toDigits b (d / b) ++ Nat.toDigits b (d % b) := by
        rw [Nat.toDigits_of_base_le hb hd, Nat.toDigits_of_lt_base hr]
      have hlen : (Nat.toDigits b d).length = (Nat.toDigits b (d / b)).length + 1 := by
        simp [hsplit, Nat.toDigits_of_lt_base hr]
      have hpos : 0 < b ^ (Nat.toDigits b (d / b)).length * n + d / b := by positivity
      have hval : ∀ k, b * (b ^ k * n + d / b) + d % b = b ^ (k + 1) * n + d := fun k => by
        rw [pow_succ]
        linarith [Nat.div_add_mod d b]
      calc Nat.toDigits b n ++ Nat.toDigits b d
          = (Nat.toDigits b n ++ Nat.toDigits b (d / b)) ++ Nat.toDigits b (d % b) := by
            rw [hsplit, List.append_assoc]
        _ = Nat.toDigits b (b ^ (Nat.toDigits b (d / b)).length * n + d / b) ++
              Nat.toDigits b (d % b) := by rw [ih _ hq]
        _ = Nat.toDigits b (b * (b ^ (Nat.toDigits b (d / b)).length * n + d / b) + d % b) :=
            Nat.toDigits_append_toDigits hb hpos hr
        _ = Nat.toDigits b (b ^ (Nat.toDigits b d).length * n + d) := by rw [hval, hlen]

/-- A positive `n` shifted up `j` places is written as `n` followed by `j` zeros. -/
theorem toDigits_pow_mul (hb : 1 < b) (hn : 0 < n) :
    ∀ j, Nat.toDigits b (b ^ j * n) = Nat.toDigits b n ++ List.replicate j '0'
  | 0 => by simp
  | j + 1 => by
    have hshift := Nat.toDigits_append_toDigits hb (n := b ^ j * n) (by positivity)
      (by omega : 0 < b)
    rw [Nat.toDigits_zero, Nat.add_zero, ← mul_assoc, ← pow_succ', toDigits_pow_mul hb hn j]
      at hshift
    rw [← hshift, List.replicate_succ', List.append_assoc]

/-- The digits of a positive `n`, then those of `d` padded with zeros to `k` places, are the
digits of `b^k·n + d`, for `d` below `b^k`. -/
theorem toDigits_append_padded {d k : ℕ} (hb : 1 < b) (hn : 0 < n) (hk : 0 < k)
    (hd : d < b ^ k) :
    Nat.toDigits b n ++ (List.replicate (k - (Nat.toDigits b d).length) '0' ++ Nat.toDigits b d) =
      Nat.toDigits b (b ^ k * n + d) := by
  have hlen : (Nat.toDigits b d).length ≤ k := (Nat.length_toDigits_le_iff hb hk).2 hd
  calc Nat.toDigits b n ++ (List.replicate (k - (Nat.toDigits b d).length) '0' ++ Nat.toDigits b d)
      = Nat.toDigits b (b ^ (k - (Nat.toDigits b d).length) * n) ++ Nat.toDigits b d := by
        rw [toDigits_pow_mul hb hn, List.append_assoc]
    _ = Nat.toDigits b
          (b ^ (Nat.toDigits b d).length * (b ^ (k - (Nat.toDigits b d).length) * n) + d) :=
        toDigits_append_toDigits_shift hb (by positivity) d
    _ = Nat.toDigits b (b ^ k * n + d) := by
        rw [← mul_assoc, ← pow_add, Nat.add_sub_cancel' hlen]

end Numerals

/-- The numeral of a positive `n` followed by a limb in nine digits is the numeral of
`10⁹·n` plus the limb. -/
theorem toString_append_padded {n : ℕ} {d : UInt32} (hn : 0 < n) (hd : d.toNat < 10 ^ 9) :
    toString n ++ padded d = toString (10 ^ 9 * n + d.toNat) := by
  show toString n ++ (String.ofList (List.replicate (9 - (toString d.toNat).length) '0') ++
    toString d.toNat) = _
  simp only [Nat.toString_eq_ofList_toDigits, String.length_ofList, ← String.ofList_append]
  rw [toDigits_append_padded (by decide) hn (by decide) hd]

/-! ## One limb step -/

section LimbStep

variable {l : UInt32} {c : UInt64}

/-- A limb times 256 plus a carry below 256 is computed exactly in 64 bits: a 32-bit limb times
256 is below 2⁴⁰. -/
theorem toNat_limb_mul_add (hc : c.toNat < 256) :
    (l.toUInt64 * 256 + c).toNat = l.toNat * 256 + c.toNat := by
  have hl := l.toNat_lt
  simp only [UInt64.toNat_add, UInt64.toNat_mul, UInt32.toNat_toUInt64, UInt64.reduceToNat]
  omega

theorem limbStep_fst_toNat (hc : c.toNat < 256) :
    (limbStep l c).1.toNat = (l.toNat * 256 + c.toNat) % 10 ^ 9 := by
  simp only [limbStep, limbBase, UInt64.toNat_toUInt32, UInt64.toNat_mod, toNat_limb_mul_add hc,
    UInt64.reduceToNat]
  omega

theorem limbStep_snd_toNat (hc : c.toNat < 256) :
    (limbStep l c).2.toNat = (l.toNat * 256 + c.toNat) / 10 ^ 9 := by
  simp only [limbStep, limbBase, UInt64.toNat_div, toNat_limb_mul_add hc, UInt64.reduceToNat,
    Nat.reducePow]

/-- The carry out of a limb below 10⁹ is again below 256. -/
theorem limbStep_snd_lt (hl : l.toNat < 10 ^ 9) (hc : c.toNat < 256) :
    (limbStep l c).2.toNat < 256 := by
  rw [limbStep_snd_toNat hc]
  omega

end LimbStep

/-- A carry spilled past the last limb is written out in base-10⁹ limbs. -/
theorem spill_map_toNat (c : UInt64) :
    (spill c).map UInt32.toNat = Nat.digits (10 ^ 9) c.toNat := by
  induction c using spill.induct with
  | case1 =>
    rw [spill, if_pos rfl]
    rfl
  | case2 c hc ih =>
    have hpos : 0 < c.toNat := Nat.pos_of_ne_zero fun h => hc (UInt64.toNat_inj.1 h)
    rw [spill, if_neg hc, List.map_cons, ih, Nat.digits_def' (by decide) hpos]
    simp only [limbBase, UInt64.toNat_toUInt32, UInt64.toNat_mod, UInt64.toNat_div,
      UInt64.reduceToNat, Nat.reducePow]
    congr 1
    omega

/-! ## Multiplying the limbs by 256 -/

/-- Limbs `l :: ls` holding the base-10⁹ digits of `N`: `N` is positive, `l` is its low limb,
below 10⁹, and `ls` holds the digits of the rest. -/
theorem digits_of_map_toNat_cons {l : UInt32} {ls : List UInt32} {N : ℕ}
    (h : (l :: ls).map UInt32.toNat = Nat.digits (10 ^ 9) N) :
    0 < N ∧ l.toNat = N % 10 ^ 9 ∧ l.toNat < 10 ^ 9 ∧
      ls.map UInt32.toNat = Nat.digits (10 ^ 9) (N / 10 ^ 9) := by
  have hN : 0 < N := Nat.pos_of_ne_zero fun h0 => by simp [h0] at h
  rw [List.map_cons, Nat.digits_def' (by decide) hN, List.cons.injEq] at h
  exact ⟨hN, h.1, h.1 ▸ Nat.mod_lt _ (by decide), h.2⟩

/-- Multiplying the base-10⁹ digits of `N` by 256 and adding a carry below 256 gives the digits
of `N·256 + c`. -/
theorem mulAdd_map_toNat :
    ∀ {L : List UInt32} {c : UInt64} {N : ℕ}, L.map UInt32.toNat = Nat.digits (10 ^ 9) N →
      c.toNat < 256 → (mulAdd L c).map UInt32.toNat = Nat.digits (10 ^ 9) (N * 256 + c.toNat)
  | [], c, N, hL, _ => by
    -- no digits: `N` is zero and only the carry is left
    rw [List.map_nil, eq_comm, Nat.digits_eq_nil_iff_eq_zero] at hL
    rw [mulAdd, spill_map_toNat, hL, Nat.zero_mul, Nat.zero_add]
  | l :: ls, c, N, hL, hc => by
    obtain ⟨hN, hl, hlt, hls⟩ := digits_of_map_toNat_cons hL
    have hc' := limbStep_snd_lt hlt hc
    have hdigits : Nat.digits (10 ^ 9) (N * 256 + c.toNat) =
        (N * 256 + c.toNat) % 10 ^ 9 :: Nat.digits (10 ^ 9) ((N * 256 + c.toNat) / 10 ^ 9) :=
      Nat.digits_def' (by decide) (by omega)
    rw [mulAdd, List.map_cons, mulAdd_map_toNat hls hc', limbStep_fst_toNat hc,
      limbStep_snd_toNat hc, hdigits, hl]
    -- the low limb of `N·256 + c` comes from the low limb of `N`, the rest from the carry
    have hlow : (N % 10 ^ 9 * 256 + c.toNat) % 10 ^ 9 = (N * 256 + c.toNat) % 10 ^ 9 := by
      omega
    have hhigh : N / 10 ^ 9 * 256 + (N % 10 ^ 9 * 256 + c.toNat) / 10 ^ 9 =
        (N * 256 + c.toNat) / 10 ^ 9 := by
      omega
    rw [hlow, hhigh]

/-- The carries one multiplication passes along: the one into each limb, and the one left past
the last limb. -/
def carries : List UInt32 → UInt64 → List UInt64
  | [], carry => [carry]
  | l :: ls, carry => carry :: carries ls (limbStep l carry).2

/-- Along limbs below 10⁹, a carry that starts below 256 stays below 256. -/
theorem carries_lt : ∀ {L : List UInt32} {c : UInt64}, (∀ l ∈ L, l.toNat < 10 ^ 9) →
    c.toNat < 256 → ∀ c' ∈ carries L c, c'.toNat < 256
  | [], c, _, hc => by simpa [carries] using hc
  | l :: ls, c, hL, hc => by
    have hl := hL l List.mem_cons_self
    intro c' hc'
    rcases List.mem_cons.1 hc' with rfl | hc'
    · exact hc
    · exact carries_lt (fun l' hl' => hL l' (List.mem_cons_of_mem l hl'))
        (limbStep_snd_lt hl hc) c' hc'

/-! ## The limbs of a byte string -/

/-- A byte read as a carry is below 256. -/
theorem byte_toUInt64_lt (b : UInt8) : b.toUInt64.toNat < 256 := by
  simpa using b.toNat_lt

/-- Limbs whose values are the one zero are the one zero limb. -/
theorem eq_zero_limb_of_map_toNat {L : List UInt32} (h : L.map UInt32.toNat = [0]) : L = [0] :=
  List.map_injective_iff.2 (fun _ _ h => UInt32.toNat_inj.1 h) h

theorem limbs_append_singleton (bytes : List UInt8) (b : UInt8) :
    limbs (bytes ++ [b]) = mulAdd (limbs bytes) b.toUInt64 := by
  simp [limbs, pushByte]

/-- The limbs of a byte string are the base-10⁹ digits of the integer it spells, least
significant first, or the single limb `0` while that integer is zero. -/
theorem limbs_map_toNat (bytes : List UInt8) :
    (limbs bytes).map UInt32.toNat =
      if bigEndianValue bytes = 0 then [0] else Nat.digits (10 ^ 9) (bigEndianValue bytes) := by
  induction bytes using List.reverseRecOn with
  | nil => rfl
  | append_singleton p b ih =>
    have hb := byte_toUInt64_lt b
    rw [limbs_append_singleton, bigEndianValue_append_singleton]
    by_cases hp : bigEndianValue p = 0
    · -- still the zero limb: the byte goes into it, and nothing carries out
      rw [if_pos hp] at ih
      have hzero := eq_zero_limb_of_map_toNat ih
      have hsmall : b.toNat < 10 ^ 9 := by have := b.toNat_lt; omega
      rw [hzero, mulAdd, mulAdd, List.map_cons, spill_map_toNat, limbStep_fst_toNat hb,
        limbStep_snd_toNat hb, hp]
      simp only [UInt32.toNat_zero, UInt8.toNat_toUInt64, Nat.zero_mul, Nat.zero_add,
        Nat.mod_eq_of_lt hsmall, Nat.div_eq_of_lt hsmall, Nat.digits_zero]
      split_ifs with hb0
      · rw [hb0]
      · exact (Nat.digits_of_lt _ _ hb0 hsmall).symm
    · rw [if_neg hp] at ih
      rw [mulAdd_map_toNat ih hb, if_neg (by positivity)]
      simp

/-- Every limb of a byte string is below 10⁹. -/
theorem limbs_lt (bytes : List UInt8) : ∀ l ∈ limbs bytes, l.toNat < 10 ^ 9 := by
  intro l hl
  have hmem : l.toNat ∈ (limbs bytes).map UInt32.toNat := List.mem_map_of_mem hl
  rw [limbs_map_toNat] at hmem
  split_ifs at hmem
  · rw [List.mem_singleton.1 hmem]
    decide
  · exact Nat.digits_lt_base (by decide) hmem

/-! ## Writing the limbs out -/

/-- Limbs holding the base-10⁹ digits of a positive `N`, written top limb first and every lower
limb in nine digits, spell the numeral of `N`. -/
theorem toString_top_append_padded :
    ∀ {L : List UInt32} {N : ℕ}, 0 < N → L.map UInt32.toNat = Nat.digits (10 ^ 9) N →
      ∃ top rest, L.reverse = top :: rest ∧
        toString top ++ String.join (rest.map padded) = toString N
  | [], N, hN, hL => by
    rw [List.map_nil, eq_comm, Nat.digits_eq_nil_iff_eq_zero] at hL
    omega
  | d :: ls, N, hN, hL => by
    obtain ⟨-, hd, hdlt, hls⟩ := digits_of_map_toNat_cons hL
    rcases Nat.eq_zero_or_pos (N / 10 ^ 9) with hhigh | hhigh
    · -- a single limb holds the whole number
      rw [hhigh, Nat.digits_zero, List.map_eq_nil_iff] at hls
      subst hls
      refine ⟨d, [], rfl, ?_⟩
      have hN : N % 10 ^ 9 = N := by omega
      show toString d.toNat ++ "" = toString N
      rw [String.append_empty, hd, hN]
    · -- the lower limbs spell `N / 10⁹`, and `d` is written below them in nine digits
      obtain ⟨top, rest, hrev, hstr⟩ := toString_top_append_padded hhigh hls
      refine ⟨top, rest ++ [d], by rw [List.reverse_cons, hrev, List.cons_append], ?_⟩
      rw [List.map_append, String.join_append, ← String.append_assoc, hstr, List.map_singleton,
        String.join_cons, String.join_nil, String.append_empty, toString_append_padded hhigh hdlt,
        hd, Nat.div_add_mod]

/-- A nonempty byte string renders as the numeral of the integer it spells. -/
theorem decimal_eq_toString {bytes : List UInt8} (hne : bytes ≠ []) :
    decimal bytes = toString (bigEndianValue bytes) := by
  have hlimbs := limbs_map_toNat bytes
  rw [decimal, if_neg (by simpa using hne)]
  split_ifs at hlimbs with hzero
  · -- the number is zero, held in the one zero limb
    rw [eq_zero_limb_of_map_toNat hlimbs, hzero]
    rfl
  · obtain ⟨top, rest, hrev, hstr⟩ :=
      toString_top_append_padded (Nat.pos_of_ne_zero hzero) hlimbs
    rw [hrev]
    exact hstr

/-- A request id renders as the decimal numeral of the big-endian integer its bytes spell, and
the empty id as the empty text. On the way every limb stays below 10⁹, and every carry a byte
passes along the limbs below 256, so each limb step's `limb·256 + carry` is exact in 64 bits. -/
theorem decimal_numeral_without_overflow :
    decimal [] = "" ∧
      (∀ bytes, bytes ≠ [] → decimal bytes = toString (bigEndianValue bytes)) ∧
      ∀ (bytes : List UInt8) (b : UInt8),
        (∀ l ∈ limbs bytes, l.toNat < 10 ^ 9) ∧
          (∀ c ∈ carries (limbs bytes) b.toUInt64, c.toNat < 256) ∧
          ∀ l ∈ limbs bytes, ∀ c ∈ carries (limbs bytes) b.toUInt64,
            (l.toUInt64 * 256 + c).toNat = l.toNat * 256 + c.toNat := by
  refine ⟨rfl, fun _ => decimal_eq_toString, fun bytes b => ?_⟩
  have hcarries := carries_lt (limbs_lt bytes) (byte_toUInt64_lt b)
  exact ⟨limbs_lt bytes, hcarries, fun l _ c hc => toNat_limb_mul_add (hcarries c hc)⟩

-- leading zero bytes add nothing, and sixteen bytes of `0xff` reach past two limbs
example : decimal [0, 0, 0x30, 0x39] = "12345" := by cbv
example : decimal (List.replicate 16 0xff) = "340282366920938463463374607431768211455" := by cbv

end TransitRouting.RequestId
