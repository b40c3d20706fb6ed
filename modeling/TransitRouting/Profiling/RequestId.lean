/-!
# Request ids in decimal

A request id is an opaque byte string. Profiling tables show it as the decimal numeral of the
big-endian unsigned integer it spells, the empty id as the empty text. The numeral is built in
limbs of nine decimal digits, least significant first, held in 32-bit words: each byte multiplies
the number by 256 and adds itself, limb by limb, in 64-bit words, carrying between limbs.

## What this module delivers

- `RequestId.limbStep`: one limb times 256 plus the carry into it.
- `RequestId.pushByte`: one byte into the limbs.
- `RequestId.limbs`: the limbs of a byte string.
- `RequestId.decimal`: the numeral, or `""` for no bytes.
-/

set_option autoImplicit false

namespace TransitRouting.RequestId

/-- The base of one limb. -/
def limbBase : UInt64 := 1000000000

/-- One limb times 256 plus the carry into it: the limb kept and the carry out. -/
def limbStep (limb : UInt32) (carry : UInt64) : UInt32 × UInt64 :=
  let value := limb.toUInt64 * 256 + carry
  ((value % limbBase).toUInt32, value / limbBase)

/-- Limbs for a carry left over past the last limb. -/
def spill (carry : UInt64) : List UInt32 :=
  if carry = 0 then []
  else (carry % limbBase).toUInt32 :: spill (carry / limbBase)
termination_by carry.toNat
decreasing_by
  rw [UInt64.toNat_div]
  exact Nat.div_lt_self (Nat.pos_of_ne_zero fun h => ‹¬carry = 0› (UInt64.toNat_inj.1 h))
    (by decide)

/-- Multiply the limbs by 256 and add a carry, least significant limb first. -/
def mulAdd : List UInt32 → UInt64 → List UInt32
  | [], carry => spill carry
  | l :: ls, carry => (limbStep l carry).1 :: mulAdd ls (limbStep l carry).2

/-- Append one byte to the number the limbs hold. -/
def pushByte (limbs : List UInt32) (byte : UInt8) : List UInt32 := mulAdd limbs byte.toUInt64

/-- The limbs of a big-endian byte string, least significant first. -/
def limbs (bytes : List UInt8) : List UInt32 := bytes.foldl pushByte [0]

/-- A limb written with nine digits, leading zeros kept. -/
def padded (limb : UInt32) : String :=
  let s := toString limb
  String.ofList (List.replicate (9 - s.length) '0') ++ s

/-- The decimal numeral of a big-endian byte string; the empty string for no bytes. -/
def decimal (bytes : List UInt8) : String :=
  if bytes.isEmpty then ""
  else
    match (limbs bytes).reverse with
    | [] => ""
    | top :: rest => toString top ++ String.join (rest.map padded)

end TransitRouting.RequestId
