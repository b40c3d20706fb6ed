import Mathlib
import TransitRouting.Wire.Varint

/-!
# Reading varints back

A varint is read group by group, and the reader stops at the first byte without the high bit.
So it reads only the bytes of the varint itself: whatever follows is handed back untouched, and
at least one byte is always consumed. The bytes written for a 64-bit value read back as that
value; the bytes written for a larger value are refused, because their tenth byte still has a
continuation bit.

## What this module delivers

- `Varint.decode?_append`: reading ignores the bytes after the varint.
- `Varint.length_lt_of_decode?`: reading consumes at least one byte.
- `Varint.decode?_encode`: the bytes of a value below `2^64` read back as it, with the rest
  untouched; `Varint.decode?_encode_of_le`: the bytes of a larger value are refused.
- `Varint.encode_of_lt`: a value below 128 is one byte; `Varint.encode_ne_nil`: every value
  takes a byte at least.
-/

set_option autoImplicit false

namespace TransitRouting.Varint

/-! ## Reading stops at the end of the varint -/

theorem decodeFrom_append {k acc n : Nat} {xs rest : List UInt8} (ys : List UInt8)
    (h : decodeFrom k acc xs = some (n, rest)) :
    decodeFrom k acc (xs ++ ys) = some (n, rest ++ ys) := by
  induction xs generalizing k acc with
  | nil => simp [decodeFrom] at h
  | cons b bs ih =>
    simp only [decodeFrom, List.cons_append] at h ⊢
    by_cases hb : b.toNat < 128
    · -- the last byte: the rest starts right after it
      simp only [hb, if_true] at h ⊢
      split at h
      · contradiction
      · rename_i hok
        simp only [hok]
        simp only [Option.some.injEq, Prod.mk.injEq] at h
        obtain ⟨rfl, rfl⟩ := h
        rfl
    · by_cases hk : k = 9
      · simp [hb, hk] at h
      · simp only [hb, hk, if_false] at h ⊢
        exact ih h

/-- Reading a varint ignores whatever follows it, and hands it back. -/
theorem decode?_append {n : Nat} {xs rest : List UInt8} (ys : List UInt8)
    (h : decode? xs = some (n, rest)) : decode? (xs ++ ys) = some (n, rest ++ ys) :=
  decodeFrom_append ys h

theorem length_lt_of_decodeFrom {k acc n : Nat} {xs rest : List UInt8}
    (h : decodeFrom k acc xs = some (n, rest)) : rest.length < xs.length := by
  induction xs generalizing k acc with
  | nil => simp [decodeFrom] at h
  | cons b bs ih =>
    simp only [decodeFrom] at h
    split at h
    · split at h
      · contradiction
      · simp only [Option.some.injEq, Prod.mk.injEq] at h
        rw [← h.2]
        simp
    · split at h
      · contradiction
      · exact Nat.lt_succ_of_lt (ih h)

/-- Reading a varint consumes at least one byte. -/
theorem length_lt_of_decode? {n : Nat} {xs rest : List UInt8} (h : decode? xs = some (n, rest)) :
    rest.length < xs.length :=
  length_lt_of_decodeFrom h

/-! ## Reading what was written -/

/-- A value below 128 is written as one byte. -/
theorem encode_of_lt {n : Nat} (h : n < 128) : encode n = [n.toUInt8] := by
  rw [encode, if_pos h]

/-- A larger value is written as its low group with the high bit set, then the rest. -/
theorem encode_of_le {n : Nat} (h : 128 ≤ n) :
    encode n = (n % 128 + 128).toUInt8 :: encode (n / 128) := by
  rw [encode, if_neg (Nat.not_lt.2 h)]

/-- Every value is written as one byte at least. -/
theorem encode_ne_nil (n : Nat) : encode n ≠ [] := by
  by_cases hsmall : n < 128
  · simp [encode_of_lt hsmall]
  · simp [encode_of_le (Nat.le_of_not_lt hsmall)]

/-- A byte below 256 keeps its value. -/
theorem toNat_toUInt8 {n : Nat} (h : n < 256) : n.toUInt8.toNat = n := by
  simp only [Nat.toUInt8]
  exact Nat.mod_eq_of_lt h

/-- Reading from group `k` the bytes written for `n` adds `n`, scaled to that group, as long as
it fits in what is left of 64 bits. -/
theorem decodeFrom_encode (n : Nat) :
    ∀ (k acc : Nat) (rest : List UInt8), k ≤ 9 → n < Nat.pow 2 (64 - 7 * k) →
      decodeFrom k acc (encode n ++ rest) = some (acc + n * Nat.pow 2 (7 * k), rest) := by
  induction n using Nat.strong_induction_on with
  | _ n ih =>
    intro k acc rest hk hn
    by_cases hsmall : n < 128
    · -- one byte; in the tenth group it can only be 0 or 1, which `hn` guarantees
      have hbyte : n.toUInt8.toNat = n := toNat_toUInt8 (by omega)
      have htenth : ¬ (k = 9 ∧ n ≥ 2) := by
        rintro ⟨rfl, h2⟩
        exact absurd hn (by simp only [Nat.pow_eq]; omega)
      rw [encode_of_lt hsmall, List.singleton_append]
      simp only [decodeFrom, hbyte, hsmall, if_true, Nat.mod_eq_of_lt hsmall]
      simp only [Bool.and_eq_true, decide_eq_true_eq] at htenth ⊢
      rw [if_neg htenth]
    · -- a continued byte; the tenth group cannot be continued, so `k < 9`
      have hge : 128 ≤ n := Nat.le_of_not_lt hsmall
      have hk9 : k < 9 := by
        by_contra hk9
        have : k = 9 := by omega
        subst this
        exact absurd hn (by simp only [Nat.pow_eq]; omega)
      have hbyte : (n % 128 + 128).toUInt8.toNat = n % 128 + 128 := toNat_toUInt8 (by omega)
      have hlow : (n % 128 + 128) % 128 = n % 128 := by omega
      have hnext : n / 128 < Nat.pow 2 (64 - 7 * (k + 1)) := by
        have hsplit : Nat.pow 2 (64 - 7 * k) = Nat.pow 2 (64 - 7 * (k + 1)) * 128 := by
          simp only [Nat.pow_eq]
          rw [show 64 - 7 * k = (64 - 7 * (k + 1)) + 7 by omega, pow_add]
          rfl
        rw [hsplit] at hn
        exact Nat.div_lt_of_lt_mul (by rw [Nat.mul_comm]; exact hn)
      rw [encode_of_le hge, List.cons_append]
      simp only [decodeFrom, hbyte, show ¬ (n % 128 + 128 < 128) by omega, if_false,
        show k ≠ 9 by omega, hlow]
      rw [ih (n / 128) (Nat.div_lt_self (by omega) (by omega)) (k + 1) _ rest (by omega) hnext]
      have hgroup : Nat.pow 2 (7 * (k + 1)) = Nat.pow 2 (7 * k) * 128 := by
        simp only [Nat.pow_eq]
        rw [show 7 * (k + 1) = 7 * k + 7 by omega, pow_add]
        rfl
      rw [hgroup]
      congr 2
      conv => rhs; rw [← Nat.mod_add_div n 128]
      ring

/-- The bytes written for a 64-bit value read back as it, and what follows is untouched. -/
theorem decode?_encode {n : Nat} (h : n < Nat.pow 2 64) (rest : List UInt8) :
    decode? (encode n ++ rest) = some (n, rest) := by
  have hread := decodeFrom_encode n 0 0 rest (by omega) (by simpa using h)
  simpa [decode?] using hread

/-- Reading from group `k` the bytes written for a value too large for what is left of 64 bits
fails, whatever follows. -/
theorem decodeFrom_encode_of_le (n : Nat) :
    ∀ (k acc : Nat) (rest : List UInt8), k ≤ 9 → Nat.pow 2 (64 - 7 * k) ≤ n →
      decodeFrom k acc (encode n ++ rest) = none := by
  induction n using Nat.strong_induction_on with
  | _ n ih =>
    intro k acc rest hk hn
    by_cases hsmall : n < 128
    · -- a single byte this large is possible only in the tenth group, where it is refused
      have hk9 : k = 9 := by
        by_contra hk9
        have hpow : 128 ≤ Nat.pow 2 (64 - 7 * k) := by
          simp only [Nat.pow_eq]
          calc 128 = 2 ^ 7 := by norm_num
            _ ≤ 2 ^ (64 - 7 * k) := Nat.pow_le_pow_right (by norm_num) (by omega)
        omega
      subst hk9
      have hbyte : n.toUInt8.toNat = n := toNat_toUInt8 (by omega)
      have h2 : 2 ≤ n := by simpa using hn
      rw [encode_of_lt hsmall, List.singleton_append]
      simp [decodeFrom, hbyte, hsmall, h2]
    · have hge : 128 ≤ n := Nat.le_of_not_lt hsmall
      have hbyte : (n % 128 + 128).toUInt8.toNat = n % 128 + 128 := toNat_toUInt8 (by omega)
      rw [encode_of_le hge, List.cons_append]
      by_cases hk9 : k = 9
      · subst hk9
        simp only [decodeFrom, hbyte, show ¬ (n % 128 + 128 < 128) by omega, if_false, if_true]
      · have hnext : Nat.pow 2 (64 - 7 * (k + 1)) ≤ n / 128 := by
          have hsplit : Nat.pow 2 (64 - 7 * k) = Nat.pow 2 (64 - 7 * (k + 1)) * 128 := by
            simp only [Nat.pow_eq]
            rw [show 64 - 7 * k = (64 - 7 * (k + 1)) + 7 by omega, pow_add]
            rfl
          rw [hsplit] at hn
          exact (Nat.le_div_iff_mul_le (by norm_num)).2 hn
        simp only [decodeFrom, hbyte, show ¬ (n % 128 + 128 < 128) by omega, if_false, hk9]
        exact ih (n / 128) (Nat.div_lt_self (by omega) (by omega)) (k + 1) _ rest (by omega) hnext

/-- The bytes written for a value of `2^64` or more are refused, whatever follows. -/
theorem decode?_encode_of_le {n : Nat} (h : Nat.pow 2 64 ≤ n) (rest : List UInt8) :
    decode? (encode n ++ rest) = none :=
  decodeFrom_encode_of_le n 0 0 rest (by omega) (by simpa using h)

end TransitRouting.Varint
