import Mathlib
import TransitRouting.Text.Utf8

/-!
# The bytes of a string pass the UTF-8 check

A string is a sequence of Unicode scalar values, stored as their UTF-8 bytes. Each character
is written in one to four bytes whose lead byte gives the count, so the checker, reading lead
byte after lead byte, meets exactly the characters that were written: two-byte leads are never
`C0` or `C1` (those would be overlong), a three-byte character after `E0` is at least U+0800
and after `ED` is not a surrogate, and a four-byte character after `F0` is at least U+10000
and after `F4` at most U+10FFFF. Every string therefore reads back from its bytes.

## What this module delivers

- `Utf8.toUTF8_toList`: the bytes of a string are the bytes of its characters, one after the
  other.
- `Utf8.character_utf8EncodeChar`: the checker accepts the bytes of one character, whatever
  follows them.
- `Utf8.check_toUTF8`: the bytes of a string have no UTF-8 error.
- `Utf8.decode_toUTF8`: the bytes of a string decode to that string.
-/

set_option autoImplicit false

namespace TransitRouting.Utf8

/-! ## The bytes of a string -/

theorem toList_loop (b : ByteArray) (i : Nat) (r : List UInt8) :
    ByteArray.toList.loop b i r = r.reverse ++ b.data.toList.drop i := by
  fun_induction ByteArray.toList.loop b i r with
  | case1 i r hi ih =>
    rw [ih, List.reverse_cons, List.append_assoc]
    congr 1
    have hlen : i < b.data.toList.length := by simpa using hi
    conv => rhs; rw [List.drop_eq_getElem_cons hlen]
    simp [ByteArray.get!, hi]
  | case2 i r hi =>
    rw [List.drop_eq_nil_of_le (by simpa using hi), List.append_nil]

/-- The list of a byte array is the list of its underlying array. -/
theorem toList_eq_data_toList (b : ByteArray) : b.toList = b.data.toList := by
  simp [ByteArray.toList, toList_loop]

/-- The bytes of a string are the bytes of its characters, one after the other. -/
theorem toUTF8_toList (s : String) :
    s.toUTF8.toList = s.toList.flatMap String.utf8EncodeChar := by
  rw [String.toUTF8_eq_toByteArray, toList_eq_data_toList]
  conv => lhs; rw [← String.ofList_toList (s := s)]
  rw [String.toByteArray_ofList, List.utf8Encode, List.toList_data_toByteArray]

/-! ## One character

The checker compares bytes; the encoder computes them from the code point. These lemmas put
both in terms of the bytes' values, where the RFC's ranges become arithmetic. -/

theorem toNat_ofNat_lt {n : Nat} (h : n < 256) : (UInt8.ofNat n).toNat = n := by
  simp [Nat.mod_eq_of_lt h]

theorem width_eq (b : UInt8) : width b =
    if b.toNat < 0x80 then 1 else if b.toNat < 0xC2 then 0 else if b.toNat < 0xE0 then 2
    else if b.toNat < 0xF0 then 3 else if b.toNat < 0xF5 then 4 else 0 := by
  simp only [width, UInt8.lt_iff_toNat_lt, UInt8.reduceToNat]

theorem isTail_eq (b : UInt8) : isTail b = (0x80 ≤ b.toNat && b.toNat ≤ 0xBF) := by
  simp only [isTail, UInt8.le_iff_toNat_le, UInt8.reduceToNat]

theorem secondFits_eq (lead b : UInt8) : secondFits lead b =
    if lead.toNat = 0xE0 then (0xA0 ≤ b.toNat && b.toNat ≤ 0xBF)
    else if lead.toNat = 0xED then (0x80 ≤ b.toNat && b.toNat ≤ 0x9F)
    else if lead.toNat = 0xF0 then (0x90 ≤ b.toNat && b.toNat ≤ 0xBF)
    else if lead.toNat = 0xF4 then (0x80 ≤ b.toNat && b.toNat ≤ 0x8F)
    else isTail b := by
  simp only [secondFits, UInt8.le_iff_toNat_le, UInt8.reduceToNat, ← UInt8.toNat_inj]

/-- The checker accepts the bytes of a character, taking all its continuation bytes, whatever
follows them. -/
theorem character_utf8EncodeChar (c : Char) (rest : List UInt8) :
    ∃ lead tail, String.utf8EncodeChar c = lead :: tail ∧
      character lead (tail ++ rest) = .ok tail.length := by
  -- a code point is below the surrogates, or above them and at most U+10FFFF
  have hv : c.val.toNat < 0xd800 ∨ (0xdfff < c.val.toNat ∧ c.val.toNat < 0x110000) := c.valid
  simp only [String.utf8EncodeChar]
  generalize c.val.toNat = v at hv
  split_ifs with h1 h2 h3
  · -- one byte, below `80`
    refine ⟨_, _, rfl, ?_⟩
    simp only [character, width_eq, toNat_ofNat_lt (by omega : v < 256)]
    simp [show v < 0x80 by omega]
  · -- two bytes: the lead is `C2..DF`, since the code point is at least `80`
    refine ⟨_, _, rfl, ?_⟩
    simp only [character, width_eq, List.cons_append, isTail_eq,
      toNat_ofNat_lt (by omega : v / 64 % 32 + 0xc0 < 256),
      toNat_ofNat_lt (by omega : v % 64 + 0x80 < 256)]
    simp [show ¬ v / 64 % 32 + 0xc0 < 0x80 by omega, show ¬ v / 64 % 32 + 0xc0 < 0xC2 by omega,
      show v / 64 % 32 + 0xc0 < 0xE0 by omega]
    omega
  · -- three bytes: after `E0` the code point is at least `800`, after `ED` below `D800`
    refine ⟨_, _, rfl, ?_⟩
    simp only [character, width_eq, List.cons_append, isTail_eq, secondFits_eq,
      toNat_ofNat_lt (by omega : v / 4096 % 16 + 224 < 256),
      toNat_ofNat_lt (by omega : v / 64 % 64 + 128 < 256),
      toNat_ofNat_lt (by omega : v % 64 + 128 < 256)]
    simp [show ¬ v / 4096 % 16 + 224 < 0x80 by omega, show ¬ v / 4096 % 16 + 224 < 0xC2 by omega,
      show ¬ v / 4096 % 16 + 224 < 0xE0 by omega, show v / 4096 % 16 + 224 < 0xF0 by omega]
    rw [if_neg (by split_ifs <;> omega), if_pos (by omega)]
  · -- four bytes: after `F0` the code point is at least `10000`, after `F4` at most `10FFFF`
    refine ⟨_, _, rfl, ?_⟩
    simp only [character, width_eq, List.cons_append, isTail_eq, secondFits_eq,
      toNat_ofNat_lt (by omega : v / 262144 % 8 + 240 < 256),
      toNat_ofNat_lt (by omega : v / 4096 % 64 + 128 < 256),
      toNat_ofNat_lt (by omega : v / 64 % 64 + 128 < 256),
      toNat_ofNat_lt (by omega : v % 64 + 128 < 256)]
    simp [show ¬ v / 262144 % 8 + 240 < 0x80 by omega,
      show ¬ v / 262144 % 8 + 240 < 0xC2 by omega, show ¬ v / 262144 % 8 + 240 < 0xE0 by omega,
      show ¬ v / 262144 % 8 + 240 < 0xF0 by omega, show v / 262144 % 8 + 240 < 0xF5 by omega]
    rw [if_neg (by split_ifs <;> omega), if_neg (by omega), if_pos (by omega)]

/-! ## Whole strings -/

/-- The checker passes over the bytes of characters one character at a time. -/
theorem checkFrom_flatMap (index : Nat) (m : List Char) (rest : List UInt8) :
    checkFrom index (m.flatMap String.utf8EncodeChar ++ rest) =
      checkFrom (index + (m.flatMap String.utf8EncodeChar).length) rest := by
  induction m generalizing index with
  | nil => rfl
  | cons c m ih =>
    obtain ⟨lead, tail, henc, hchar⟩ :=
      character_utf8EncodeChar c (m.flatMap String.utf8EncodeChar ++ rest)
    rw [List.flatMap_cons, henc]
    simp only [List.cons_append, List.append_assoc]
    rw [checkFrom, hchar]
    simp only [List.drop_left, ih, List.length_cons, List.length_append]
    congr 1
    omega

/-- The bytes of a string have no UTF-8 error. -/
theorem check_toUTF8 (s : String) : check s.toUTF8.toList = none := by
  have hall := checkFrom_flatMap 0 s.toList []
  rw [List.append_nil] at hall
  rw [check, toUTF8_toList, hall, checkFrom]

/-- The bytes of a string decode to that string. -/
theorem decode_toUTF8 (s : String) : decode s.toUTF8.toList = .ok s := by
  have hbytes : (⟨s.toUTF8.toList.toArray⟩ : ByteArray) = s.toByteArray := by
    rw [toList_eq_data_toList, Array.toArray_toList, String.toUTF8_eq_toByteArray]
  rw [decode, check_toUTF8]
  simp only [hbytes, String.fromUTF8?, dif_pos s.isValidUTF8, Option.getD_some]
  rfl

end TransitRouting.Utf8
