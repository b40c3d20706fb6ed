import TransitRouting.Proofs.Lz4.Compress
import TransitRouting.Lz4.Frame

/-!
# A frame reads back as its payload

A payload is written as a frame: a seven-byte header announcing independent blocks of one size
and no checksums, the payload cut into chunks of that size, each chunk as a block (compressed
if that is shorter, else stored as is) after a little-endian word giving its length, and a
zero word to end. Reading the frame undoes each layer: the header gives back the block size,
each word its block, each block its chunk (`decodeBlock_compress`), and the zero word the end
of the content. So every payload comes back, whatever its length and bytes.

## What this module delivers

- `wordAt_le32` and `chunks_spec`: the block words and the chunks.
- `frameDescriptor`: what the header of a written frame says, with `readHeader_header`.
- `readBlocks_block` and `readBlocks_encodeBlocks`: the blocks of the chunks read back as the
  chunks.
- `decodeFrame_encodeFrame`: a payload written as a frame reads back as itself.
-/

set_option autoImplicit false

namespace TransitRouting.Lz4

/-! ## Words and chunks -/

/-- A word written little-endian reads back as itself. -/
theorem wordAt_le32 {bytes rest : List UInt8} {q n : Nat} (h : bytes.drop q = le32 n ++ rest)
    (hn : n < Nat.pow 2 32) : wordAt bytes.toArray q = n := by
  simp only [le32, List.cons_append, List.nil_append] at h
  have h1 := drop_succ_of_drop_eq h
  have h2 := drop_succ_of_drop_eq h1
  have h3 := drop_succ_of_drop_eq h2
  rw [wordAt, getD_of_drop_eq h, getD_of_drop_eq h1, getD_of_drop_eq h2, getD_of_drop_eq h3,
    Varint.toNat_toUInt8 (by omega), Varint.toNat_toUInt8 (by omega), Varint.toNat_toUInt8 (by omega),
    Varint.toNat_toUInt8 (by omega)]
  simp only [Nat.pow_eq] at hn
  omega

/-- Cutting a payload into chunks of `size` bytes, with fuel for each byte: the chunks put
together are the payload, and each is one to `size` bytes. -/
theorem chunks_spec {size : Nat} (hsize : 0 < size) :
    ∀ (fuel : Nat) (bytes : List UInt8), bytes.length ≤ fuel →
      (chunks size fuel bytes).flatten = bytes ∧ ∀ c ∈ chunks size fuel bytes, c ≠ [] ∧ c.length ≤ size
  | 0, bytes, h => by
    obtain rfl : bytes = [] := List.eq_nil_of_length_eq_zero (by omega)
    simp [chunks]
  | _ + 1, [], _ => by simp [chunks]
  | fuel + 1, b :: bs, h => by
    obtain ⟨hflat, hall⟩ := chunks_spec hsize fuel ((b :: bs).drop size)
      (by simp only [List.length_drop, List.length_cons] at h ⊢; omega)
    simp only [chunks, List.flatten_cons, hflat, List.take_append_drop, List.mem_cons, true_and]
    refine fun c hc => ?_
    rcases hc with rfl | hc
    · exact ⟨by simp [List.take_eq_nil_iff]; omega, List.length_take_le _ _⟩
    · exact hall c hc

/-! ## Blocks

A written frame announces independent blocks without checksums, so each block is read on its
own, from output position 0, and reading goes on right after it. -/

/-- What the header of a written frame says: independent blocks, no checksums, no content size,
and blocks of the given size code. -/
def frameDescriptor (code : Nat) : Descriptor :=
  ⟨false, false, false, none, blockSizeOfCode code⟩

@[simp]
theorem frameDescriptor_linked (code : Nat) : (frameDescriptor code).linked = false :=
  rfl

@[simp]
theorem frameDescriptor_maxBlock (code : Nat) : (frameDescriptor code).maxBlock = blockSizeOfCode code :=
  rfl

/-- Independent blocks always start their output at position 0. -/
theorem placeNext_frameDescriptor (code : Nat) (p : Progress) :
    placeNext (frameDescriptor code) p = { p with start := 0 } :=
  rfl

/-- The zero word ends the frame: the content read so far is the content. -/
theorem readBlocks_end {bytes : List UInt8} {code pos : Nat} {content : Array UInt8} {start fuel : Nat}
    (h : bytes.drop pos = le32 0) :
    readBlocks bytes.toArray (frameDescriptor code) (fuel + 1) ⟨pos, content, start⟩ = .ok content := by
  have hsize : bytes.toArray.size = pos + 4 := by
    rw [size_of_drop_eq h (by simp [le32])]
    rfl
  have hmark : bytes.drop pos = le32 0 ++ [] := by rw [List.append_nil]; exact h
  have hword : wordAt bytes.toArray pos = 0 := wordAt_le32 hmark (by decide)
  rw [readBlocks, placeNext_frameDescriptor]
  dsimp only
  rw [if_neg (by omega), hword, if_pos rfl]
  rfl

/-- No block checksum is read: reading goes on right after the block. -/
theorem blockChecksum_frameDescriptor (input : Array UInt8) (code : Nat) (data : List UInt8)
    (pos : Nat) : blockChecksum input (frameDescriptor code) data pos = .ok pos :=
  rfl

/-- A block in the input: its word, then its bytes, then the rest of the input. -/
theorem block_layout {bytes body rest : List UInt8} {pos w : Nat}
    (h : bytes.drop pos = le32 w ++ body ++ rest) (hw : w < Nat.pow 2 32) (hbody : body ≠ []) :
    wordAt bytes.toArray pos = w ∧ bytes.length = pos + 4 + body.length + rest.length ∧
      bytes.toArray.extract (pos + 4) (pos + 4 + body.length) = body.toArray := by
  rw [List.append_assoc] at h
  have hrest := drop_add_of_drop_eq h
  have hsize := size_of_drop_eq hrest (List.append_ne_nil_of_left_ne_nil hbody rest)
  have hdata := extract_of_drop_eq hrest
  simp only [le32, List.length_cons, List.length_nil, List.size_toArray, List.length_append] at hsize hdata
  exact ⟨wordAt_le32 h hw, by omega, hdata⟩

/-- One block of a chunk, compressed with a table of earlier positions: its word is read, then
its bytes, which give back the chunk, and reading goes on after it. -/
theorem readBlocks_block {bytes rest : List UInt8} {code pos fuel start base : Nat}
    {content : Array UInt8} {chunk : List UInt8} {table : Array Nat}
    (hcode : blockSizeOfCode code < Nat.pow 2 31) (hne : chunk ≠ [])
    (hlen : chunk.length ≤ blockSizeOfCode code) (htable : TableBefore (max base 1) table)
    (h : bytes.drop pos = blockBytes chunk (compress chunk.toArray base table).1.encode ++ rest) :
    readBlocks bytes.toArray (frameDescriptor code) (fuel + 1) ⟨pos, content, start⟩ =
      readBlocks bytes.toArray (frameDescriptor code) fuel
        ⟨pos + (blockBytes chunk (compress chunk.toArray base table).1.encode).length,
          content ++ chunk.toArray, chunk.length⟩ := by
  have hchunk : 0 < chunk.length := List.length_pos_of_ne_nil hne
  have hwhole : chunk.toArray.extract 0 chunk.length = chunk.toArray :=
    Array.extract_eq_self_of_le (by simp)
  simp only [Nat.pow_eq] at hcode
  rw [readBlocks, placeNext_frameDescriptor]
  dsimp only
  unfold blockBytes at h ⊢
  split at h
  · -- a compressed block, shorter than its chunk: its length, then its bytes, decoded
    rename_i hshort
    rw [if_pos hshort]
    have hne' : (compress chunk.toArray base table).1.encode ≠ [] := by
      simp [Block.encode, encodeLast]
    obtain ⟨hword, hsize, hdata⟩ := block_layout h (by simp only [Nat.pow_eq]; omega) hne'
    have hpos : 0 < (compress chunk.toArray base table).1.encode.length :=
      List.length_pos_of_ne_nil hne'
    have hstored : ¬ ((compress chunk.toArray base table).1.encode.length ≥ 2147483648) := by
      omega
    have hout := decodeBlock_compress chunk.toArray base table htable
      (show chunk.toArray.size ≤ 0 + blockSizeOfCode code by simp; omega)
    simp only [hword, hstored, if_false, blockChecksum_frameDescriptor, frameDescriptor_linked,
      frameDescriptor_maxBlock, Bool.false_eq_true, hdata, hout, List.size_toArray, List.length_nil,
      hwhole]
    rw [if_neg (by omega), if_neg (by omega), if_neg (by omega), if_neg (by omega), if_neg (by omega)]
    simp only [le32, List.length_append, List.length_cons, List.length_nil]
    rw [Nat.zero_add, show pos + 4 + (compress chunk.toArray base table).1.encode.length =
      pos + (0 + 1 + 1 + 1 + 1 + (compress chunk.toArray base table).1.encode.length) by omega]
  · -- a stored block: its length with the high bit set, then the chunk itself
    rename_i hlong
    rw [if_neg hlong]
    obtain ⟨hword, hsize, hdata⟩ := block_layout h (by simp only [Nat.pow_eq]; omega) hne
    have hstored : chunk.length + 2147483648 ≥ 2147483648 := Nat.le_add_left _ _
    simp only [hword, hstored, if_true, Nat.add_sub_cancel, blockChecksum_frameDescriptor,
      frameDescriptor_maxBlock, hdata, List.size_toArray]
    rw [if_neg (by omega), if_neg (by omega), if_neg (by omega), if_neg (by omega), if_neg (by omega)]
    simp only [le32, List.length_append, List.length_cons, List.length_nil]
    rw [Nat.zero_add, show pos + 4 + chunk.length = pos + (0 + 1 + 1 + 1 + 1 + chunk.length) by omega]

/-- A block takes its four-byte word at least. -/
theorem length_blockBytes_ge (chunk compressed : List UInt8) :
    4 ≤ (blockBytes chunk compressed).length := by
  unfold blockBytes
  split <;> simp [le32]

/-- The blocks of a frame's chunks, each compressed with the table the chunks before it left,
read back as the chunks, after whatever content came before. -/
theorem readBlocks_encodeBlocks {bytes : List UInt8} {code : Nat}
    (hcode : blockSizeOfCode code < Nat.pow 2 31) :
    ∀ (cs : List (List UInt8)) (base : Nat) (table : Array Nat) (pos : Nat) (content : Array UInt8)
      (start fuel : Nat),
      (∀ c ∈ cs, c ≠ [] ∧ c.length ≤ blockSizeOfCode code) → TableBefore (max base 1) table →
      bytes.drop pos = encodeBlocks cs base table ++ le32 0 → bytes.length - pos < fuel →
      readBlocks bytes.toArray (frameDescriptor code) fuel ⟨pos, content, start⟩ =
        .ok (content ++ cs.flatten.toArray)
  | [], _, _, pos, content, start, fuel, _, _, h, hfuel => by
    obtain ⟨fuel, rfl⟩ : ∃ f, fuel = f + 1 := Nat.exists_eq_succ_of_ne_zero (by omega)
    rw [readBlocks_end (by simpa [encodeBlocks] using h)]
    simp
  | c :: cs, base, table, pos, content, start, fuel, hcs, htable, h, hfuel => by
    obtain ⟨fuel, rfl⟩ : ∃ f, fuel = f + 1 := Nat.exists_eq_succ_of_ne_zero (by omega)
    obtain ⟨hne, hlen⟩ := hcs c List.mem_cons_self
    simp only [encodeBlocks] at h
    rw [List.append_assoc] at h
    have hnext := drop_add_of_drop_eq h
    -- the next block starts after this one's bytes, with the table this one left
    have htable' : TableBefore (max (base + c.length) 1) (compress c.toArray base table).2 := by
      have hpos : 0 < c.toArray.size := by simpa using List.length_pos_of_ne_nil hne
      rw [Nat.max_eq_left (by simp only [List.size_toArray] at hpos; omega)]
      simpa using tableBefore_compress c.toArray base table htable hpos
    have hremaining : bytes.length -
        (pos + (blockBytes c (compress c.toArray base table).1.encode).length) < fuel := by
      have hword := length_blockBytes_ge c (compress c.toArray base table).1.encode
      have := congrArg List.length h
      simp only [List.length_drop, List.length_append] at this
      omega
    rw [readBlocks_block hcode hne hlen htable h, readBlocks_encodeBlocks hcode cs _ _ _ _ _ fuel
      (fun d hd => hcs d (List.mem_cons_of_mem c hd)) htable' hnext hremaining]
    simp [List.flatten_cons, Array.append_assoc]

/-! ## The header and the whole frame -/

/-- The header of a written frame reads as independent blocks of its size code, seven bytes
long, whatever follows it. -/
theorem readHeader_header {code : Nat} (hcode : 4 ≤ code ∧ code < 8) (rest : List UInt8) :
    readHeader (header code ++ rest).toArray = .ok (some (frameDescriptor code, 7)) := by
  -- the block-size byte and the checksum byte, kept abstract
  obtain ⟨bd, hbd⟩ : ∃ b : UInt8, b = (code * 16).toUInt8 := ⟨_, rfl⟩
  obtain ⟨check, hcheck⟩ : ∃ b : UInt8, b = ((Xxh32.hash [0x60, bd]) >>> 8).toUInt8 := ⟨_, rfl⟩
  have hform : header code ++ rest = [4, 34, 77, 24, 96, bd, check] ++ rest := by
    rw [hcheck, hbd]
    rfl
  have hbdval : bd.toNat = code * 16 := by
    rw [hbd]
    exact Varint.toNat_toUInt8 (by omega)
  have h8 : code % 8 = code := Nat.mod_eq_of_lt hcode.2
  have h128 : ¬ (16 * code / 128 = 1) := by omega
  have h4 : ¬ code < 4 := by omega
  rw [hform]
  -- the reader's checks, run on these bytes: the magic number, the version, the reserved bits,
  -- the block size, and the checksum byte, which is the one computed from the descriptor
  simp +arith [readHeader, readDescriptor, wordAt, magic, legacyMagic, isSkippable, hbdval, h8, h128,
    h4, ← hcheck]
  rfl

/-- A fresh table holds position 0 only. -/
theorem tableBefore_emptyTable : TableBefore (max 0 1) emptyTable := by
  intro e he
  simp only [emptyTable, Array.mem_replicate] at he
  omega

/-- The size code written is one the reader accepts, and its blocks fit a block word. -/
theorem codeForLength_bounds (n : Nat) :
    (4 ≤ codeForLength n ∧ codeForLength n < 8) ∧ blockSizeOfCode (codeForLength n) < Nat.pow 2 31 := by
  unfold codeForLength
  split
  · exact ⟨by omega, by decide⟩
  · split
    · exact ⟨by omega, by decide⟩
    · exact ⟨by omega, by decide⟩

/-- A payload written as a frame reads back as itself. -/
theorem decodeFrame_encodeFrame (payload : List UInt8) :
    decodeFrame (encodeFrame payload) = .ok payload := by
  obtain ⟨hcode, hsize⟩ := codeForLength_bounds payload.length
  have hpos : 0 < blockSizeOfCode (codeForLength payload.length) := by
    simp only [blockSizeOfCode, Nat.pow_eq]
    exact Nat.two_pow_pos _
  obtain ⟨hflat, hcs⟩ := chunks_spec hpos payload.length payload le_rfl
  -- the header, then the blocks from byte 7 on
  have hblocks : (encodeFrame payload).drop 7 =
      encodeBlocks (chunks (blockSizeOfCode (codeForLength payload.length)) payload.length payload) 0
        emptyTable ++ le32 0 := by
    rw [encodeFrame, List.append_assoc]
    exact List.drop_left' (by simp [header])
  have hread := readBlocks_encodeBlocks hsize _ 0 emptyTable 7 #[] 0 ((encodeFrame payload).toArray.size + 1)
    hcs tableBefore_emptyTable hblocks (by simp)
  have hheader : readHeader (encodeFrame payload).toArray =
      pure (some (frameDescriptor (codeForLength payload.length), 7)) := by
    rw [encodeFrame, List.append_assoc]
    exact readHeader_header hcode _
  simp only [decodeFrame, hheader, pure_bind]
  rw [hread, Array.empty_append, hflat]
  rfl

end TransitRouting.Lz4
