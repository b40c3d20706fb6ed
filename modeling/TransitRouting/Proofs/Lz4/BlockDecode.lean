import Mathlib
import TransitRouting.Lz4.Block
import TransitRouting.Proofs.Wire.VarintRoundTrip

/-!
# Decoding a block that spells its input

A block describes its output as sequences, each some literal bytes and then a match that copies
earlier output, followed by the final literals. The description is faithful to some bytes
`data` when each sequence's literals are the next bytes of `data` and each match repeats bytes
of `data` from one to `maxDistance` bytes back, four bytes or more, within `data`
(`Sequence.Fits`, `Spells`).

The decoder rebuilds `data` from such a block. Its output after each sequence is the prefix of
`data` that the sequence ends; a match copies one byte at a time, so even a match overlapping
the bytes it produces extends the prefix (`copyMatch_extract`). The final literals complete
`data`, and the decoder stops exactly at the end of the block's bytes.

## What this module delivers

- Reading lemmas: a byte, a run of bytes and a length field at a position of the input, given
  the bytes from that position on.
- `Sequence.Fits` and `Spells`: the blocks that spell `data`.
- `copyMatch_extract`: a repeated run extends a prefix of `data`.
- `decodeFrom_sequence`: one sequence, read from its bytes.
- `decodeBlock_encode`: a block that spells `data` decodes to `data`, when `data` fits in the
  capacity.
-/

set_option autoImplicit false

namespace TransitRouting.Lz4

/-! ## Reading the input from a position

The decoder reads an array built from a list of bytes; each lemma takes the bytes from the
position on, as a `List.drop`. -/

section Reading

variable {bytes rest : List UInt8} {q : Nat}

theorem getElem?_of_drop_eq {x : UInt8} (h : bytes.drop q = x :: rest) :
    bytes.toArray[q]? = some x := by
  rw [List.getElem?_toArray, ← Nat.add_zero q, ← List.getElem?_drop, h]
  rfl

theorem getD_of_drop_eq {x : UInt8} (h : bytes.drop q = x :: rest) :
    bytes.toArray.getD q 0 = x := by
  simp [Array.getD_eq_getD_getElem?, getElem?_of_drop_eq h]

theorem drop_succ_of_drop_eq {x : UInt8} (h : bytes.drop q = x :: rest) :
    bytes.drop (q + 1) = rest := by
  rw [← List.drop_drop, h, List.drop_one, List.tail_cons]

theorem drop_add_of_drop_eq {ys : List UInt8} (h : bytes.drop q = ys ++ rest) :
    bytes.drop (q + ys.length) = rest := by
  rw [← List.drop_drop, h, List.drop_left]

theorem extract_of_drop_eq {ys : List UInt8} (h : bytes.drop q = ys ++ rest) :
    bytes.toArray.extract q (q + ys.length) = ys.toArray := by
  apply Array.toList_inj.1
  rw [Array.toList_extract, List.extract_eq_take_drop, List.toList_toArray]
  simp [h]

/-- Bytes that stand at `q` and are not empty run to the end of the input. -/
theorem size_of_drop_eq {ys : List UInt8} (h : bytes.drop q = ys) (hne : ys ≠ []) :
    bytes.toArray.size = q + ys.length := by
  have hq : q < bytes.length := by
    by_contra hq
    exact hne (h ▸ List.drop_eq_nil_of_le (by omega))
  rw [List.size_toArray, ← h, List.length_drop]
  omega

end Reading

/-! ## Length fields -/

theorem lengthBytes_of_lt {n : Nat} (h : n < 255) : lengthBytes n = [n.toUInt8] := by
  simp [lengthBytes, Nat.div_eq_of_lt h, Nat.mod_eq_of_lt h]

theorem lengthBytes_of_le {n : Nat} (h : 255 ≤ n) :
    lengthBytes n = 255 :: lengthBytes (n - 255) := by
  have hdiv : n / 255 = (n - 255) / 255 + 1 := by omega
  have hmod : n % 255 = (n - 255) % 255 := by omega
  simp only [lengthBytes, hdiv, hmod, List.replicate_succ, List.cons_append]

/-- The extension bytes of `n` read back as `n`, added to what was read before, with any fuel
beyond their number. -/
theorem extensionAt_lengthBytes {bytes rest : List UInt8} :
    ∀ (n acc : Nat) {fuel q : Nat}, bytes.drop q = lengthBytes n ++ rest →
      (lengthBytes n).length < fuel →
      extensionAt bytes.toArray fuel q acc = .ok (acc + n, q + (lengthBytes n).length) := by
  intro n
  induction n using Nat.strong_induction_on with
  | _ n ih =>
    intro acc fuel q h hfuel
    obtain ⟨fuel, rfl⟩ : ∃ f, fuel = f + 1 := Nat.exists_eq_succ_of_ne_zero (by omega)
    by_cases hsmall : n < 255
    · -- one byte below 255 ends the field
      rw [lengthBytes_of_lt hsmall, List.singleton_append] at h
      have hbyte : n.toUInt8.toNat = n := Varint.toNat_toUInt8 (by omega)
      have hne : n.toUInt8 ≠ 255 := fun heq => by
        have := congrArg UInt8.toNat heq
        rw [hbyte] at this
        exact absurd this (by simp; omega)
      simp only [extensionAt, getElem?_of_drop_eq h, if_neg hne, hbyte, lengthBytes_of_lt hsmall]
      rfl
    · -- a 255 adds 255 and the field goes on
      have hle : 255 ≤ n := Nat.le_of_not_lt hsmall
      rw [lengthBytes_of_le hle, List.cons_append] at h
      rw [lengthBytes_of_le hle, List.length_cons] at hfuel ⊢
      simp only [extensionAt, getElem?_of_drop_eq h, if_true]
      have hrest := ih (n - 255) (by omega) (acc + 255) (drop_succ_of_drop_eq h)
        (show _ < fuel by omega)
      have hsum : acc + 255 + (n - 255) = acc + n := by omega
      rw [hrest, hsum, Nat.add_right_comm q 1, Nat.add_assoc]

/-- A nibble holding `min n 15`, followed by the extension of `n`, reads back as `n`. -/
theorem fieldAt_extension {bytes rest : List UInt8} {q : Nat} (n : Nat)
    (h : bytes.drop q = extension n ++ rest) :
    fieldAt bytes.toArray (min n 15) q = .ok (n, q + (extension n).length) := by
  by_cases hlong : 15 ≤ n
  · -- a full nibble: the rest of the length follows as extension bytes
    have hext : extension n = lengthBytes (n - 15) := by rw [extension, if_pos hlong]
    rw [hext] at h ⊢
    have hfuel : (lengthBytes (n - 15)).length < bytes.toArray.size + 1 := by
      have := congrArg List.length h
      simp only [List.length_drop, List.length_append] at this
      simp only [List.size_toArray]
      omega
    rw [fieldAt, if_pos (by omega), extensionAt_lengthBytes (n - 15) 0 h hfuel]
    simp only [Nat.zero_add]
    congr 2
    omega
  · have hext : extension n = [] := by rw [extension, if_neg hlong]
    rw [fieldAt, if_neg (by omega), hext, List.length_nil, Nat.add_zero, min_eq_left (by omega)]

theorem token_div (a b : Nat) : (token a b).toNat / 16 = min a 15 := by
  have hlt : min a 15 * 16 + min b 15 < 256 := by omega
  rw [token, Varint.toNat_toUInt8 hlt]
  omega

theorem token_mod (a b : Nat) : (token a b).toNat % 16 = min b 15 := by
  have hlt : min a 15 * 16 + min b 15 < 256 := by omega
  rw [token, Varint.toNat_toUInt8 hlt]
  omega

/-- The bytes of a sequence, field by field. -/
theorem Sequence.encode_eq (s : Sequence) :
    s.encode = token s.literals.length (s.matchLength - 4) ::
      (extension s.literals.length ++ (s.literals ++ ((s.offset % 256).toUInt8 ::
        (s.offset / 256 % 256).toUInt8 :: extension (s.matchLength - 4)))) := by
  simp [Sequence.encode]

/-! ## Blocks that spell their data -/

/-- Where the match of a sequence starts when its literals start at `pos`. -/
def Sequence.matchStart (pos : Nat) (s : Sequence) : Nat := pos + s.literals.length

/-- Where the next sequence starts. -/
def Sequence.next (pos : Nat) (s : Sequence) : Nat := s.matchStart pos + s.matchLength

/-- A sequence placed at `pos` of `data`: its literals are the bytes of `data` there, and its
match, four bytes or more within `data`, repeats the bytes `offset` back, between one and
`maxDistance` bytes. -/
structure Sequence.Fits (data : Array UInt8) (pos : Nat) (s : Sequence) : Prop where
  literals_eq : s.literals = (data.extract pos (s.matchStart pos)).toList
  offset_pos : 0 < s.offset
  offset_le_start : s.offset ≤ s.matchStart pos
  offset_le_max : s.offset ≤ maxDistance
  four_le : 4 ≤ s.matchLength
  next_le : s.next pos ≤ data.size
  repeats : ∀ i < s.matchLength,
    data.getD (s.matchStart pos + i) 0 = data.getD (s.matchStart pos - s.offset + i) 0

/-- Sequences and final literals that spell `data` from `pos` on. -/
def Spells (data : Array UInt8) : Nat → List Sequence → List UInt8 → Prop
  | pos, [], last => last = (data.extract pos data.size).toList
  | pos, s :: rest, last => s.Fits data pos ∧ Spells data (s.next pos) rest last

/-- Copying a match that `data` repeats extends a prefix of `data` to a longer one, one byte at a
time, so the copy may overlap the bytes it produces. -/
theorem copyMatch_extract {data : Array UInt8} {offset : Nat} (hpos : 0 < offset) :
    ∀ (len m : Nat), offset ≤ m → m + len ≤ data.size →
      (∀ i < len, data.getD (m + i) 0 = data.getD (m - offset + i) 0) →
      copyMatch (data.extract 0 m) offset len = data.extract 0 (m + len)
  | 0, m, _, _, _ => rfl
  | len + 1, m, hoff, hlen, hrep => by
    -- the byte copied is the one `offset` back, which `data` repeats at `m`
    have hm : m < data.size := by omega
    have hsize : (data.extract 0 m).size = m := by simp; omega
    have hback : (data.extract 0 m).getD (m - offset) 0 = data[m] := by
      have h0 := hrep 0 (Nat.succ_pos len)
      simp only [Nat.add_zero] at h0
      simp only [Array.getD_eq_getD_getElem?, Array.getElem?_extract] at h0 ⊢
      rw [if_pos (by omega)]
      simp only [Nat.zero_add]
      rw [← h0, Array.getElem?_eq_getElem hm]
      rfl
    rw [copyMatch, hsize, hback, Array.push_extract_getElem hm, Nat.min_eq_left (Nat.zero_le m)]
    rw [copyMatch_extract hpos len (m + 1) (by omega) (by omega) fun i hi => by
      have := hrep (i + 1) (by omega)
      rw [show m + 1 + i = m + (i + 1) by omega,
        show m + 1 - offset + i = m - offset + (i + 1) by omega]
      exact this]
    rw [Nat.add_right_comm, Nat.add_assoc]

/-! ## The decoder over a spelled block

The decoder runs with an empty window from output position 0, as a frame of independent blocks
runs it. Its output stays the prefix of `data` that the sequences read so far spell. -/

/-- One sequence: from the prefix before it, the decoder reads its bytes and holds the prefix
after it. -/
theorem decodeFrom_sequence {bytes rest : List UInt8} {data : Array UInt8}
    {capacity q pos fuel : Nat} {s : Sequence} (hcap : data.size ≤ capacity)
    (hs : s.Fits data pos) (h : bytes.drop q = s.encode ++ rest) :
    decodeFrom bytes.toArray 0 0 capacity (fuel + 1) q (data.extract 0 pos) =
      decodeFrom bytes.toArray 0 0 capacity fuel (q + s.encode.length)
        (data.extract 0 (s.next pos)) := by
  have hsize : bytes.toArray.size = q + s.encode.length + rest.length := by
    rw [size_of_drop_eq h (by simp [Sequence.encode]), List.length_append, Nat.add_assoc]
  have hencode : s.encode.length = 1 + (extension s.literals.length).length + s.literals.length +
      2 + (extension (s.matchLength - 4)).length := by
    simp only [Sequence.encode_eq, List.length_cons, List.length_append]
    omega
  have hnext : s.next pos ≤ data.size := hs.next_le
  have hfour := hs.four_le
  have hout : (data.extract 0 pos).size = pos := by
    simp only [Array.size_extract]
    simp only [Sequence.next, Sequence.matchStart] at hnext
    omega
  rw [Sequence.encode_eq, List.cons_append, List.append_assoc, List.append_assoc, List.cons_append,
    List.cons_append] at h
  have h1 := drop_succ_of_drop_eq h
  have h2 := drop_add_of_drop_eq h1
  have h3 := drop_add_of_drop_eq h2
  have h4 := drop_succ_of_drop_eq h3
  have h5 := drop_succ_of_drop_eq h4
  -- the literals, then the bytes of `data` they spell
  have hlit := extract_of_drop_eq h2
  have hspelled : data.extract 0 pos ++ s.literals.toArray = data.extract 0 (s.matchStart pos) := by
    rw [hs.literals_eq, Array.toArray_toList, Array.extract_append_extract,
      Nat.min_eq_left (Nat.zero_le _), Nat.max_eq_right (by simp [Sequence.matchStart])]
  -- the offset, two little-endian bytes
  have hoffset :
      (bytes.toArray.getD (q + 1 + (extension s.literals.length).length + s.literals.length) 0).toNat +
        256 * (bytes.toArray.getD
          (q + 1 + (extension s.literals.length).length + s.literals.length + 1) 0).toNat =
      s.offset := by
    rw [getD_of_drop_eq h3, getD_of_drop_eq h4, Varint.toNat_toUInt8 (by omega),
      Varint.toNat_toUInt8 (by omega)]
    have := hs.offset_le_max
    simp only [maxDistance] at this
    omega
  have hfield := fieldAt_extension (s.matchLength - 4) h5
  rw [decodeFrom]
  simp only [getElem?_of_drop_eq h, token_div, token_mod, fieldAt_extension _ h1, hfield, hlit,
    hout, hoffset, hspelled, Bool.and_eq_true, decide_eq_true_eq, Array.size_extract]
  -- no check fails: the literals are there and fit, the offset is in range, the match fits
  have hoffpos := hs.offset_pos
  have hoffle := hs.offset_le_start
  have hstart : s.matchStart pos = pos + s.literals.length := rfl
  have hend : s.next pos = s.matchStart pos + s.matchLength := rfl
  rw [if_neg (by omega), if_neg (by omega), if_neg (by omega), if_neg (by omega), if_neg (by omega),
    if_neg (by omega), if_neg (by omega)]
  -- the match is copied from `offset` back, and reading goes on after the sequence
  have hcopy : copyMatch (data.extract 0 (s.matchStart pos)) s.offset (s.matchLength - 4 + 4) =
      data.extract 0 (s.next pos) := by
    rw [Nat.sub_add_cancel hfour, hend]
    exact copyMatch_extract hs.offset_pos _ _ hs.offset_le_start (by omega) hs.repeats
  have hafter : q + 1 + (extension s.literals.length).length + s.literals.length + 1 + 1 +
      (extension (s.matchLength - 4)).length = q + s.encode.length := by
    omega
  rw [hcopy, hafter]

/-- The final literals complete `data`, and the decoder stops at the end of the block. -/
theorem decodeFrom_last {bytes last : List UInt8} {data : Array UInt8} {capacity q pos fuel : Nat}
    (hcap : data.size ≤ capacity) (hpos : pos ≤ data.size)
    (hlast : last = (data.extract pos data.size).toList) (h : bytes.drop q = encodeLast last) :
    decodeFrom bytes.toArray 0 0 capacity (fuel + 1) q (data.extract 0 pos) = .ok data := by
  have hlen : last.length = data.size - pos := by simp [hlast]
  have hsize : bytes.toArray.size = q + 1 + (extension last.length).length + last.length := by
    rw [size_of_drop_eq h (by simp [encodeLast])]
    simp only [encodeLast, List.length_cons, List.length_append]
    omega
  have hout : (data.extract 0 pos).size = pos := by
    simp only [Array.size_extract]
    omega
  rw [encodeLast, List.cons_append] at h
  have h1 := drop_succ_of_drop_eq h
  have h2 : bytes.drop (q + 1 + (extension last.length).length) = last ++ [] := by
    rw [List.append_nil]
    exact drop_add_of_drop_eq h1
  have hlit := extract_of_drop_eq h2
  -- the final literals are the rest of `data`
  have hspelled : data.extract 0 pos ++ last.toArray = data := by
    rw [hlast, Array.toArray_toList, Array.extract_append_extract, Nat.min_eq_left (Nat.zero_le _),
      Nat.max_eq_right hpos, Array.extract_size]
  rw [decodeFrom]
  simp only [getElem?_of_drop_eq h, token_div, fieldAt_extension _ h1, hlit, hout, hspelled,
    Bool.and_eq_true, decide_eq_true_eq]
  rw [if_neg (by omega), if_neg (by omega), if_pos (by omega)]

/-- Encoded sequences and final literals that spell `data` from `pos` decode to `data`, from the
prefix before `pos`, with any fuel beyond the bytes left. -/
theorem decodeFrom_spells {bytes : List UInt8} {data : Array UInt8} {capacity : Nat}
    (hcap : data.size ≤ capacity) :
    ∀ (seqs : List Sequence) (last : List UInt8) (q pos fuel : Nat),
      bytes.drop q = (seqs.map Sequence.encode).flatten ++ encodeLast last →
      Spells data pos seqs last → pos ≤ data.size → bytes.length - q < fuel →
      decodeFrom bytes.toArray 0 0 capacity fuel q (data.extract 0 pos) = .ok data
  | [], last, q, pos, fuel, h, hspells, hpos, hfuel => by
    obtain ⟨fuel, rfl⟩ : ∃ f, fuel = f + 1 := Nat.exists_eq_succ_of_ne_zero (by omega)
    exact decodeFrom_last hcap hpos hspells (by simpa using h)
  | s :: seqs, last, q, pos, fuel, h, ⟨hs, hspells⟩, hpos, hfuel => by
    obtain ⟨fuel, rfl⟩ : ∃ f, fuel = f + 1 := Nat.exists_eq_succ_of_ne_zero (by omega)
    rw [List.map_cons, List.flatten_cons, List.append_assoc] at h
    have hrest := drop_add_of_drop_eq h
    -- each sequence takes a byte at least, and a unit of fuel
    have hgrow : 0 < s.encode.length := by simp [Sequence.encode]
    have hremaining : bytes.length - (q + s.encode.length) < fuel := by
      have := congrArg List.length h
      simp only [List.length_drop, List.length_append] at this
      omega
    rw [decodeFrom_sequence hcap hs h]
    exact decodeFrom_spells hcap seqs last _ _ fuel hrest hspells hs.next_le hremaining

/-- A block whose sequences and final literals spell `data` decodes to `data`, when `data` fits
in the capacity. -/
theorem decodeBlock_encode {b : Block} {data : Array UInt8} {capacity : Nat}
    (hspells : Spells data 0 b.sequences b.last) (hcap : data.size ≤ capacity) :
    decodeBlock b.encode.toArray #[] 0 capacity = .ok data := by
  have hempty : (#[] : Array UInt8) = data.extract 0 0 := Array.extract_zero.symm
  rw [decodeBlock, Array.size_empty, hempty]
  exact decodeFrom_spells hcap b.sequences b.last 0 0 _ List.drop_zero hspells (Nat.zero_le _)
    (by simp)

end TransitRouting.Lz4
