/-!
# The 32-bit xxHash

LZ4 frames protect their header, their blocks and their content with the 32-bit xxHash, seed 0.
The hash keeps four accumulators over 16-byte stripes (when there is at least one stripe),
folds them into one word, adds the input length, mixes in the last whole 4-byte words and then
the last bytes, and ends with an avalanche of shifts and multiplications. All arithmetic wraps
at 32 bits.

## What this module delivers

- `Xxh32.hash bytes`: the hash with seed 0.
-/

set_option autoImplicit false

namespace TransitRouting.Xxh32

/-- The first multiplier. -/
def prime1 : UInt32 := 2654435761
/-- The second multiplier. -/
def prime2 : UInt32 := 2246822519
/-- The third multiplier. -/
def prime3 : UInt32 := 3266489917
/-- The fourth multiplier. -/
def prime4 : UInt32 := 668265263
/-- The fifth multiplier. -/
def prime5 : UInt32 := 374761393

/-- Rotate a word left by `k` bits, `0 < k < 32`. -/
def rotl (x : UInt32) (k : UInt32) : UInt32 := (x <<< k) ||| (x >>> (32 - k))

/-- The little-endian word of four bytes. -/
def word (a b c d : UInt8) : UInt32 :=
  a.toUInt32 ||| (b.toUInt32 <<< 8) ||| (c.toUInt32 <<< 16) ||| (d.toUInt32 <<< 24)

/-- One accumulator step over a word of a stripe. -/
def round (acc lane : UInt32) : UInt32 := rotl (acc + lane * prime2) 13 * prime1

/-- The four accumulators after the whole stripes of the input, and the bytes left over. -/
def stripes (acc : UInt32 × UInt32 × UInt32 × UInt32) :
    List UInt8 → (UInt32 × UInt32 × UInt32 × UInt32) × List UInt8
  | b0 :: b1 :: b2 :: b3 :: b4 :: b5 :: b6 :: b7 :: b8 :: b9 :: b10 :: b11 :: b12 :: b13 ::
      b14 :: b15 :: rest =>
    let (v1, v2, v3, v4) := acc
    stripes (round v1 (word b0 b1 b2 b3), round v2 (word b4 b5 b6 b7),
      round v3 (word b8 b9 b10 b11), round v4 (word b12 b13 b14 b15)) rest
  | rest => (acc, rest)

/-- Mix in the last whole words, then the last bytes. -/
def tail (h : UInt32) : List UInt8 → UInt32
  | b0 :: b1 :: b2 :: b3 :: rest => tail (rotl (h + word b0 b1 b2 b3 * prime3) 17 * prime4) rest
  | b :: rest => tail (rotl (h + b.toUInt32 * prime5) 11 * prime1) rest
  | [] => h

/-- Spread every input bit over the whole word. -/
def avalanche (h : UInt32) : UInt32 :=
  let h := (h ^^^ (h >>> 15)) * prime2
  let h := (h ^^^ (h >>> 13)) * prime3
  h ^^^ (h >>> 16)

/-- The 32-bit xxHash of the bytes, seed 0. -/
def hash (bytes : List UInt8) : UInt32 :=
  let start :=
    if bytes.length ≥ 16 then
      let ((v1, v2, v3, v4), rest) := stripes (prime1 + prime2, prime2, 0, 0 - prime1) bytes
      (rotl v1 1 + rotl v2 7 + rotl v3 12 + rotl v4 18, rest)
    else (prime5, bytes)
  avalanche (tail (start.1 + bytes.length.toUInt32) start.2)

end TransitRouting.Xxh32
