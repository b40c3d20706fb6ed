import TransitRouting.Hash.Xxh32
import TransitRouting.Lz4.Block

/-!
# LZ4 frames

A frame wraps LZ4 blocks with a header and an end mark. The header is the magic number
`04 22 4D 18`, a flag byte (version 01, independent blocks, block and content checksums,
content size, dictionary id), a block-size byte (the largest block, 64 KiB to 4 MiB), the
optional content size and dictionary id, and one checksum byte: the second byte of the
xxHash of the descriptor. Each block is announced by a little-endian word: zero ends the frame,
the high bit marks a block stored as is, otherwise the block is compressed. Blocks may carry a
checksum and the frame may end with one of its content.

## Writing

A frame is written with default settings: independent blocks, no checksums, no content size,
and a block size chosen from the length of the payload (64 KiB up to 64 KiB, 256 KiB up to
256 KiB, 4 MiB above). Each block is compressed with the table carried over from the blocks
before it; a compressed block that is not shorter than its input is stored as is.

## Reading

Reading takes the first frame of the input and ignores whatever follows it. No input, or only
a magic number, reads as nothing. An input that ends inside the header, a block or a checksum is
an unexpected end; an input that ends before a block word simply ends the content. A block
that yields no bytes also ends the content. In a frame of linked blocks a match may reach into
the output of the earlier blocks.

## What this module delivers

- `Lz4.encodeFrame payload`: the frame bytes.
- `Lz4.FrameError` with `FrameError.message`.
- `Lz4.decodeFrame input`: the content of the first frame, or the first error.
-/

set_option autoImplicit false

namespace TransitRouting.Lz4

/-- The little-endian bytes of a 32-bit word. -/
def le32 (n : Nat) : List UInt8 :=
  [(n % 256).toUInt8, (n / 256 % 256).toUInt8, (n / 65536 % 256).toUInt8,
    (n / 16777216 % 256).toUInt8]

/-- The little-endian word of four bytes at `pos`. -/
def wordAt (input : Array UInt8) (pos : Nat) : Nat :=
  (input.getD pos 0).toNat + 256 * (input.getD (pos + 1) 0).toNat +
    65536 * (input.getD (pos + 2) 0).toNat + 16777216 * (input.getD (pos + 3) 0).toNat

/-- The magic number of a frame. -/
def magic : Nat := 0x184D2204

/-- The magic number of a frame in the legacy layout. -/
def legacyMagic : Nat := 0x184C2102

/-- Whether a magic number marks a skippable frame. -/
def isSkippable (m : Nat) : Bool := 0x184D2A50 ≤ m && m ≤ 0x184D2A5F

/-- The largest block of a block-size code. -/
def blockSizeOfCode (code : Nat) : Nat := Nat.pow 2 (8 + 2 * code)

/-- The block-size code a payload of `n` bytes is written with. -/
def codeForLength (n : Nat) : Nat :=
  if n ≤ blockSizeOfCode 4 then 4
  else if n ≤ blockSizeOfCode 5 then 5
  else 7

/-! ## Writing -/

/-- The header of a frame with independent blocks of the given size code. -/
def header (code : Nat) : List UInt8 :=
  let descriptor : List UInt8 := [0x60, (code * 16).toUInt8]
  ([0x04, 0x22, 0x4D, 0x18] : List UInt8) ++ descriptor ++ [((Xxh32.hash descriptor) >>> 8).toUInt8]

/-- The bytes of one block as written in a frame: compressed if that is shorter. -/
def blockBytes (chunk : List UInt8) (compressed : List UInt8) : List UInt8 :=
  if compressed.length < chunk.length then le32 compressed.length ++ compressed
  else le32 (chunk.length + 0x80000000) ++ chunk

/-- Write the blocks of `chunks`, the first at stream position `base`. -/
def encodeBlocks : List (List UInt8) → Nat → Array Nat → List UInt8
  | [], _, _ => []
  | chunk :: rest, base, table =>
    let (block, table) := compress chunk.toArray base table
    blockBytes chunk block.encode ++ encodeBlocks rest (base + chunk.length) table

/-- Cut a payload into chunks of `size` bytes, the last possibly shorter. -/
def chunks (size : Nat) : Nat → List UInt8 → List (List UInt8)
  | 0, _ => []
  | _ + 1, [] => []
  | fuel + 1, bytes => bytes.take size :: chunks size fuel (bytes.drop size)

/-- The frame a payload is written as, with default settings. -/
def encodeFrame (payload : List UInt8) : List UInt8 :=
  let code := codeForLength payload.length
  header code ++
    encodeBlocks (chunks (blockSizeOfCode code) payload.length payload) 0 emptyTable ++ le32 0

/-! ## Reading -/

/-- Why a frame could not be read. -/
inductive FrameError where
  | wrongMagicNumber
  | skippableFrame (size : Nat)
  | unsupportedVersion (version : Nat)
  | reservedBitsSet
  | unsupportedBlocksize (code : Nat)
  | headerChecksumError
  | dictionaryNotSupported
  | contentLengthError (expected actual : Nat)
  | contentChecksumError
  | blockChecksumError
  | blockTooBig
  | decompressionError (e : BlockError)
  | unexpectedEnd
deriving Repr, DecidableEq

/-- The text a frame error is reported with. -/
def FrameError.message : FrameError → String
  | .wrongMagicNumber => "WrongMagicNumber"
  | .skippableFrame size => "SkippableFrame(" ++ toString size ++ ")"
  | .unsupportedVersion v => "UnsupportedVersion(" ++ toString v ++ ")"
  | .reservedBitsSet => "ReservedBitsSet"
  | .unsupportedBlocksize code => "UnsupportedBlocksize(" ++ toString code ++ ")"
  | .headerChecksumError => "HeaderChecksumError"
  | .dictionaryNotSupported => "DictionaryNotSupported"
  | .contentLengthError expected actual =>
    "ContentLengthError \x7b expected: " ++ toString expected ++ ", actual: " ++
      toString actual ++ " \x7d"
  | .contentChecksumError => "ContentChecksumError"
  | .blockChecksumError => "BlockChecksumError"
  | .blockTooBig => "BlockTooBig"
  | .decompressionError e => "DecompressionError(" ++ e.name ++ ")"
  | .unexpectedEnd => "failed to fill whole buffer"

/-- What the header says about the blocks that follow. -/
structure Descriptor where
  linked : Bool
  blockChecksums : Bool
  contentChecksum : Bool
  contentSize : Option Nat
  maxBlock : Nat
deriving Repr, DecidableEq

/-- Read the descriptor from the header bytes `input[0, size)`, whose magic number is known to
be the frame's. -/
def readDescriptor (input : Array UInt8) (size : Nat) : Except FrameError Descriptor := do
  let flg := (input.getD 4 0).toNat
  let bd := (input.getD 5 0).toNat
  if flg / 64 ≠ 1 then throw (.unsupportedVersion (flg / 64 * 64))
  if flg / 2 % 2 = 1 || bd % 16 ≠ 0 || bd / 128 = 1 then throw .reservedBitsSet
  let code := bd / 16 % 8
  if code < 4 then throw (.unsupportedBlocksize code)
  let hasSize := flg / 8 % 2 = 1
  let contentSize :=
    if hasSize then
      some ((List.range 8).foldr (fun i acc => (input.getD (6 + i) 0).toNat + 256 * acc) 0)
    else none
  let descriptor := (input.extract 4 (size - 1)).toList
  if ((Xxh32.hash descriptor) >>> 8).toUInt8 ≠ input.getD (size - 1) 0 then
    throw .headerChecksumError
  if flg % 2 = 1 then throw .dictionaryNotSupported
  return {
    linked := flg / 32 % 2 = 0
    blockChecksums := flg / 16 % 2 = 1
    contentChecksum := flg / 4 % 2 = 1
    contentSize
    maxBlock := blockSizeOfCode code }

/-- The blocks of a legacy frame: independent, unchecked, up to 8 MiB each. -/
def legacyDescriptor : Descriptor :=
  ⟨false, false, false, none, 8 * 1024 * 1024⟩

/-- Read the header: `none` when the input holds no frame at all, else the descriptor and the
header length. -/
def readHeader (input : Array UInt8) : Except FrameError (Option (Descriptor × Nat)) := do
  let n := input.size
  if n = 0 then return none
  if n < 4 then throw .unexpectedEnd
  let m := wordAt input 0
  if m = legacyMagic then return some (legacyDescriptor, 4)
  if n = 4 then return none
  if n < 7 then throw .unexpectedEnd
  if isSkippable m then
    if n < 8 then throw .unexpectedEnd
    throw (.skippableFrame (wordAt input 4))
  if m ≠ magic then throw .wrongMagicNumber
  let flg := (input.getD 4 0).toNat
  let size := 7 + (if flg / 8 % 2 = 1 then 8 else 0) + (if flg % 2 = 1 then 4 else 0)
  if n < size then throw .unexpectedEnd
  return some (← readDescriptor input size, size)

/-- Where reading the blocks of a frame stands. -/
structure Progress where
  pos : Nat
  content : Array UInt8
  start : Nat

/-- The size of the window kept for linked blocks. -/
def windowSize : Nat := 65536

/-- Where the next block's output is placed: independent blocks always at zero; linked output
restarts at zero, the last window kept aside, when another block might not fit after it. -/
def placeNext (d : Descriptor) (p : Progress) : Progress :=
  if !d.linked then { p with start := 0 }
  else if p.start + d.maxBlock > 2 * d.maxBlock + windowSize then { p with start := 0 }
  else p

/-- Check a block's checksum at `pos`, when the frame has block checksums. -/
def blockChecksum (input : Array UInt8) (d : Descriptor) (data : List UInt8) (pos : Nat) :
    Except FrameError Nat :=
  if !d.blockChecksums then .ok pos
  else if pos + 4 > input.size then .error .unexpectedEnd
  else if (Xxh32.hash data).toNat ≠ wordAt input pos then .error .blockChecksumError
  else .ok (pos + 4)

/-- The end mark: check the content length and the content checksum. -/
def finish (input : Array UInt8) (d : Descriptor) (p : Progress) : Except FrameError (Array UInt8) := do
  if let some expected := d.contentSize then
    if expected ≠ p.content.size then throw (.contentLengthError expected p.content.size)
  if d.contentChecksum then
    if p.pos + 4 > input.size then throw .unexpectedEnd
    if (Xxh32.hash p.content.toList).toNat ≠ wordAt input p.pos then
      throw .contentChecksumError
  return p.content

/-- Read blocks until the end mark, the end of the input or an empty block. -/
def readBlocks (input : Array UInt8) (d : Descriptor) :
    Nat → Progress → Except FrameError (Array UInt8)
  | 0, p => .ok p.content
  | fuel + 1, p =>
    let p := placeNext d p
    if p.pos + 4 > input.size then .ok p.content
    else
      let word := wordAt input p.pos
      let pos := p.pos + 4
      if word = 0 then finish input d { p with pos }
      else
        let stored := word ≥ 0x80000000
        let len := if stored then word - 0x80000000 else word
        if len > d.maxBlock then .error .blockTooBig
        else if pos + len > input.size then .error .unexpectedEnd
        else
          let data := input.extract pos (pos + len)
          match blockChecksum input d data.toList (pos + len) with
          | .error e => .error e
          | .ok pos =>
            let produced : Except FrameError (Array UInt8) :=
              if stored then .ok data
              else
                let window := if d.linked then p.content else #[]
                match decodeBlock data window p.start (p.start + d.maxBlock) with
                | .ok out => .ok (out.extract window.size out.size)
                | .error e => .error (.decompressionError e)
            match produced with
            | .error e => .error e
            | .ok out =>
              if out.size = 0 then .ok p.content
              else
                readBlocks input d fuel
                  { p with pos, content := p.content ++ out, start := p.start + out.size }

/-- The content of the first frame of the input. -/
def decodeFrame (bytes : List UInt8) : Except FrameError (List UInt8) := do
  let input := bytes.toArray
  match ← readHeader input with
  | none => return []
  | some (d, size) =>
    let content ← readBlocks input d (input.size + 1) ⟨size, #[], 0⟩
    return content.toList

end TransitRouting.Lz4
