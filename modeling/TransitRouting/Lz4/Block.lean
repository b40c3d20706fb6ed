/-!
# LZ4 blocks

An LZ4 block is a run of sequences followed by a final run of literals. A sequence is a run of
literal bytes followed by a match: a copy of `matchLength` bytes (at least four) starting
`offset` bytes back in the output, where the copy may overlap the bytes it produces.

On the wire every sequence starts with a token byte: the literal count in the high nibble and
the match length less four in the low nibble, each 15 meaning "15 plus the extension bytes
that follow", an extension being a run of 255s ended by one smaller byte. Then come the
literals, the offset as two little-endian bytes, and the match extension. The final run has
only a token (low nibble zero), its extension and its literals.

The compressor is the greedy single-pass matcher with a 4096-slot table of positions, keyed by
a multiplicative hash of the eight bytes at a position. It probes with a step that grows by one
every 32 misses, accepts a candidate whose first four bytes agree and that lies at most 65535
bytes back, extends the match backwards over equal bytes and forwards up to six bytes before
the end of the input, and never starts a match in the last twelve bytes. Positions in the table
count from the start of the whole stream, so one table serves every block of a frame.

The decoder reads tokens byte by byte and reports the first problem it meets: a missing byte, a
literal run past the end of the block, output beyond its capacity, a zero offset, or an offset
reaching before the start of the output.

## What this module delivers

- `Lz4.Sequence`, `Lz4.Block` and `Lz4.Block.encode` (the byte layout).
- `Lz4.compress input base table`: the block of one input and the table after it.
- `Lz4.BlockError` with `BlockError.name`.
- `Lz4.decodeBlock input window start capacity`: the window with the block's output after it.
-/

set_option autoImplicit false

namespace TransitRouting.Lz4

/-- Literal bytes, then a copy of `matchLength` bytes from `offset` bytes back. -/
structure Sequence where
  literals : List UInt8
  offset : Nat
  matchLength : Nat
deriving Repr, DecidableEq

/-- Sequences, then the final literals. -/
structure Block where
  sequences : List Sequence
  last : List UInt8
deriving Repr, DecidableEq

/-- The extension bytes of a length already reduced by 15: 255s, then the remainder. -/
def lengthBytes (n : Nat) : List UInt8 :=
  List.replicate (n / 255) 255 ++ [(n % 255).toUInt8]

/-- The extension of a nibble field holding `n`: present only when `n` reaches 15. -/
def extension (n : Nat) : List UInt8 :=
  if n ≥ 15 then lengthBytes (n - 15) else []

/-- A token: literal count in the high nibble, match length less four in the low one. -/
def token (literals matchExtra : Nat) : UInt8 :=
  (min literals 15 * 16 + min matchExtra 15).toUInt8

/-- The bytes of one sequence. -/
def Sequence.encode (s : Sequence) : List UInt8 :=
  token s.literals.length (s.matchLength - 4) :: extension s.literals.length ++ s.literals ++
    [(s.offset % 256).toUInt8, (s.offset / 256 % 256).toUInt8] ++ extension (s.matchLength - 4)

/-- The bytes of the final literal run. -/
def encodeLast (literals : List UInt8) : List UInt8 :=
  token literals.length 0 :: extension literals.length ++ literals

/-- The bytes of a block. -/
def Block.encode (b : Block) : List UInt8 :=
  (b.sequences.map Sequence.encode).flatten ++ encodeLast b.last

/-! ## Compressing -/

/-- The slots of the position table. -/
def tableSize : Nat := 4096

/-- A fresh position table. -/
def emptyTable : Array Nat := Array.replicate tableSize 0

/-- The farthest a match may reach back. -/
def maxDistance : Nat := 65535

/-- The little-endian word of the eight bytes at `pos`. -/
def word64 (input : Array UInt8) (pos : Nat) : UInt64 :=
  (List.range 8).foldr (fun i acc => (acc <<< 8) ||| (input.getD (pos + i) 0).toUInt64) 0

/-- The table slot of the position `pos`: the top twelve bits of a 16-bit multiplicative hash
of its eight bytes. -/
def slot (input : Array UInt8) (pos : Nat) : Nat :=
  ((((word64 input pos) <<< 24) * 889523592379) >>> 52).toNat

/-- Whether the four bytes at `a` and at `b` agree. -/
def sameWord (input : Array UInt8) (a b : Nat) : Bool :=
  input.extract a (a + 4) == input.extract b (b + 4)

/-- How many bytes agree from `a` and from `b` on, stopping at index `limit` on `a`'s side. -/
def commonRun (input : Array UInt8) (a b limit : Nat) : Nat :=
  if a < limit then
    if input.getD a 0 == input.getD b 0 then commonRun input (a + 1) (b + 1) limit + 1 else 0
  else 0
termination_by limit - a

/-- Move the start of a match back while the bytes before it agree, not past `floor`. -/
def backtrack (input : Array UInt8) (floor : Nat) (cur cand : Nat) : Nat × Nat :=
  if h : cand > 0 ∧ cur > floor ∧ input.getD (cur - 1) 0 = input.getD (cand - 1) 0 then
    backtrack input floor (cur - 1) (cand - 1)
  else (cur, cand)
termination_by cur
decreasing_by omega

/-- Probe positions from `cur` for a match; `probes` counts the probes since the last match
(from 32, so the step is `probes / 32`). Gives the table and, if found before the last twelve
bytes, the position and its earlier copy, both counted from the start of the input. -/
def search (input : Array UInt8) (base : Nat) :
    Nat → Array Nat → Nat → Nat → Array Nat × Option (Nat × Nat)
  | 0, table, _, _ => (table, none)
  | fuel + 1, table, probes, cur =>
    if cur + 12 > input.size then (table, none)
    else
      let h := slot input cur
      let cand := table.getD h 0
      let table := table.setIfInBounds h (cur + base)
      let next := cur + probes / 32
      if base + cur - cand > maxDistance || cand < base then
        search input base fuel table (probes + 1) next
      else if sameWord input (cand - base) cur then (table, some (cur, cand - base))
      else search input base fuel table (probes + 1) next

/-- Emit sequences from position `cur`, literals pending since `lit`. -/
def compressFrom (input : Array UInt8) (base : Nat) :
    Nat → Array Nat → Nat → Nat → List Sequence → Block × Array Nat
  | 0, table, lit, _, acc => (⟨acc.reverse, (input.extract lit input.size).toList⟩, table)
  | fuel + 1, table, lit, cur, acc =>
    match search input base (input.size + 1) table 32 cur with
    | (table, none) => (⟨acc.reverse, (input.extract lit input.size).toList⟩, table)
    | (table, some (cur, cand)) =>
      let (cur, cand) := backtrack input lit cur cand
      let literals := (input.extract lit cur).toList
      let run := commonRun input (cur + 4) (cand + 4) (input.size - 6)
      let next := cur + 4 + run
      let table := table.setIfInBounds (slot input (next - 2)) (next - 2 + base)
      compressFrom input base fuel table next next
        ({ literals, offset := cur - cand, matchLength := run + 4 } :: acc)

/-- Compress one block whose first byte is at stream position `base`, with the table left by
the blocks before it. Inputs under thirteen bytes are all literals; the first block of a
stream cannot start with a match. -/
def compress (input : Array UInt8) (base : Nat) (table : Array Nat) : Block × Array Nat :=
  if input.size < 13 then (⟨[], input.toList⟩, table)
  else if base = 0 then
    compressFrom input base (input.size + 1) (table.setIfInBounds (slot input 0) 0) 0 1 []
  else compressFrom input base (input.size + 1) table 0 0 []

/-! ## Decompressing -/

/-- Why a block could not be decompressed. -/
inductive BlockError where
  | outputTooSmall (expected actual : Nat)
  | literalOutOfBounds
  | expectedAnotherByte
  | offsetOutOfBounds
  | offsetZero
deriving Repr, DecidableEq

/-- The name a block error is reported with. -/
def BlockError.name : BlockError → String
  | .outputTooSmall expected actual =>
    "OutputTooSmall \x7b expected: " ++ toString expected ++ ", actual: " ++ toString actual ++
      " \x7d"
  | .literalOutOfBounds => "LiteralOutOfBounds"
  | .expectedAnotherByte => "ExpectedAnotherByte"
  | .offsetOutOfBounds => "OffsetOutOfBounds"
  | .offsetZero => "OffsetZero"

/-- Read a length extension at `pos`: bytes are added up to the first that is not 255.
Gives the sum and the position after it. -/
def extensionAt (input : Array UInt8) : Nat → Nat → Nat → Except BlockError (Nat × Nat)
  | 0, _, _ => .error .expectedAnotherByte
  | fuel + 1, pos, acc =>
    match input[pos]? with
    | none => .error .expectedAnotherByte
    | some b =>
      if b = 255 then extensionAt input fuel (pos + 1) (acc + 255)
      else .ok (acc + b.toNat, pos + 1)

/-- A nibble field at `pos`: the nibble, or 15 plus its extension. -/
def fieldAt (input : Array UInt8) (nibble pos : Nat) : Except BlockError (Nat × Nat) :=
  if nibble = 15 then
    match extensionAt input (input.size + 1) pos 0 with
    | .ok (e, p) => .ok (15 + e, p)
    | .error err => .error err
  else .ok (nibble, pos)

/-- Append `n` bytes copied from `offset` back, one at a time, so a copy may overlap itself. -/
def copyMatch (out : Array UInt8) (offset : Nat) : Nat → Array UInt8
  | 0 => out
  | n + 1 => copyMatch (out.push (out.getD (out.size - offset) 0)) offset n

/-- Decode sequences from `pos`. `out` holds the window and the output so far; the output
position counts from `start`, and may not pass `capacity`. -/
def decodeFrom (input : Array UInt8) (windowSize start capacity : Nat) :
    Nat → Nat → Array UInt8 → Except BlockError (Array UInt8)
  | 0, _, out => .ok out
  | fuel + 1, pos, out =>
    match input[pos]? with
    | none => .error .expectedAnotherByte
    | some tok =>
      match fieldAt input (tok.toNat / 16) (pos + 1) with
      | .error e => .error e
      | .ok (lit, pos) =>
        let here := start + (out.size - windowSize)
        if lit ≠ 0 && lit > input.size - pos then .error .literalOutOfBounds
        else if lit ≠ 0 && lit > capacity - here then .error (.outputTooSmall (here + lit) capacity)
        else
          let out := out ++ input.extract pos (pos + lit)
          let pos := pos + lit
          if pos ≥ input.size then .ok out
          else if pos + 2 > input.size then .error .expectedAnotherByte
          else
            let offset := (input.getD pos 0).toNat + 256 * (input.getD (pos + 1) 0).toNat
            if offset = 0 then .error .offsetZero
            else
              match fieldAt input (tok.toNat % 16) (pos + 2) with
              | .error e => .error e
              | .ok (extra, pos) =>
                let len := extra + 4
                let here := start + (out.size - windowSize)
                if here + len > capacity then .error (.outputTooSmall (here + len) capacity)
                else if offset > out.size then .error .offsetOutOfBounds
                else decodeFrom input windowSize start capacity fuel pos (copyMatch out offset len)

/-- Decompress a block after the bytes of `window`, which matches may reach into. The output
position starts at `start` and may not pass `capacity`. Gives the window followed by the
block's output. -/
def decodeBlock (input window : Array UInt8) (start capacity : Nat) :
    Except BlockError (Array UInt8) :=
  decodeFrom input window.size start capacity (input.size + 1) 0 window

end TransitRouting.Lz4
