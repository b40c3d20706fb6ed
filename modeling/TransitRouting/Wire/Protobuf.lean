import TransitRouting.Wire.Varint
import TransitRouting.Text.Utf8

/-!
# Protocol-buffer fields

A protocol-buffer message is a run of fields. Each field starts with a key, the varint
`tag * 8 + wire type`; the wire type says how the value that follows is laid out. This module
reads and writes the field layouts the routing messages use.

Decoding reports errors the way the reference decoder words them: a description, preceded by
the `Message.field` path from the innermost field outwards, all after the fixed text
"failed to decode Protobuf message: ".

Nested messages are read from the whole remaining input with an end mark: fields are read
while the input left is longer than the mark allows, and a field that runs past the mark is
found only afterwards ("delimited length exceeded"). Nesting, of messages and of groups, is
limited to 100 levels.

## What this module delivers

- `WireType` with `WireType.ofCode?`, `WireType.code` and `WireType.name`.
- `DecodeError` with `DecodeError.push` (add a field to the path) and `DecodeError.message`.
- `Decoder`, reading from the bytes left, and its readers: `varint`, `key`, `expectWire`,
  `lengthDelimited`, `bytesField`, `stringField`, `doubleField`, `uint32Field`,
  `uint64Field`, `int32Field`, `boolField`, `skip`, `fields` (a message body) and
  `nested` (a length-delimited message).
- Writers for the same layouts: `keyBytes`, `varintField`, `bytesField`, `doubleField`,
  `messageField`, with the proto3 rule that a plain scalar equal to its default is not
  written.
-/

set_option autoImplicit false

namespace TransitRouting.Protobuf

/-- How the value after a key is laid out. -/
inductive WireType where
  | varint
  | sixtyFourBit
  | lengthDelimited
  | startGroup
  | endGroup
  | thirtyTwoBit
deriving Repr, DecidableEq

/-- The three-bit code of a wire type. -/
def WireType.code : WireType → Nat
  | .varint => 0
  | .sixtyFourBit => 1
  | .lengthDelimited => 2
  | .startGroup => 3
  | .endGroup => 4
  | .thirtyTwoBit => 5

/-- The wire type with a three-bit code; codes 6 and 7 have none. -/
def WireType.ofCode? : Nat → Option WireType
  | 0 => some .varint
  | 1 => some .sixtyFourBit
  | 2 => some .lengthDelimited
  | 3 => some .startGroup
  | 4 => some .endGroup
  | 5 => some .thirtyTwoBit
  | _ => none

/-- The name a wire type is reported with. -/
def WireType.name : WireType → String
  | .varint => "Varint"
  | .sixtyFourBit => "SixtyFourBit"
  | .lengthDelimited => "LengthDelimited"
  | .startGroup => "StartGroup"
  | .endGroup => "EndGroup"
  | .thirtyTwoBit => "ThirtyTwoBit"

/-- A decoding failure: what went wrong and the fields it happened in, innermost first. -/
structure DecodeError where
  description : String
  stack : List (String × String) := []
deriving Repr, DecidableEq

/-- Record that the error arose in field `field` of message `message`. -/
def DecodeError.push (e : DecodeError) (message field : String) : DecodeError :=
  { e with stack := e.stack ++ [(message, field)] }

/-- The error text: the fixed lead, the field path, then the description. -/
def DecodeError.message (e : DecodeError) : String :=
  "failed to decode Protobuf message: " ++
    String.join (e.stack.map fun (m, f) => m ++ "." ++ f ++ ": ") ++ e.description

/-- Reading from the bytes not yet read. -/
abbrev Decoder := StateT (List UInt8) (Except DecodeError)

/-- Fail with a bare description. -/
def failWith {α : Type} (description : String) : Decoder α :=
  throw { description }

/-- Run a reader; an error it raises is recorded as arising in `message.field`. -/
def within {α : Type} (message field : String) (step : Decoder α) : Decoder α :=
  tryCatch step (fun e => throw (e.push message field))

/-- The nesting allowed for messages and groups. -/
def recursionLimit : Nat := 100

/-- A varint. -/
def varint : Decoder Nat := do
  match Varint.decode? (← get) with
  | some (n, rest) => set rest; return n
  | none => failWith "invalid varint"

/-- The bytes left. -/
def remaining : Decoder Nat := do
  return (← get).length

/-- A key: the tag and the wire type of the field that follows. -/
def key : Decoder (Nat × WireType) := do
  let k ← varint
  if k ≥ Nat.pow 2 32 then failWith ("invalid key value: " ++ toString k)
  match WireType.ofCode? (k % 8) with
  | none => failWith ("invalid wire type value: " ++ toString (k % 8))
  | some w =>
    if k / 8 = 0 then failWith "invalid tag value: 0"
    return (k / 8, w)

/-- Check that a field has the wire type its declaration gives it. -/
def expectWire (expected actual : WireType) : Decoder Unit :=
  if expected = actual then pure ()
  else failWith ("invalid wire type: " ++ actual.name ++ " (expected " ++ expected.name ++ ")")

/-- Take `n` bytes, or fail when fewer are left. -/
def takeBytes (n : Nat) : Decoder (List UInt8) := do
  let bs ← get
  if n > bs.length then failWith "buffer underflow"
  set (bs.drop n)
  return bs.take n

/-- A length and that many bytes. -/
def lengthDelimited : Decoder (List UInt8) := do
  takeBytes (← varint)

/-- A `bytes` field value. -/
def bytesField (w : WireType) : Decoder (List UInt8) := do
  expectWire .lengthDelimited w
  lengthDelimited

/-- A `string` field value, which must be UTF-8. -/
def stringField (w : WireType) : Decoder String := do
  let bs ← bytesField w
  match Utf8.decode bs with
  | .ok s => return s
  | .error _ => failWith "invalid string value: data is not UTF-8 encoded"

/-- The number spelled by bytes, least significant first. -/
def littleEndian (bs : List UInt8) : Nat :=
  bs.foldr (fun b acc => b.toNat + 256 * acc) 0

/-- The bytes of the low `n` bytes of a number, least significant first. -/
def littleEndianBytes : Nat → Nat → List UInt8
  | 0, _ => []
  | n + 1, v => (v % 256).toUInt8 :: littleEndianBytes n (v / 256)

/-- A `double` field value: eight bytes, little-endian. -/
def doubleField (w : WireType) : Decoder Float := do
  expectWire .sixtyFourBit w
  let bs ← takeBytes 8
  return Float.ofBits (littleEndian bs).toUInt64

/-- A `uint64` field value. -/
def uint64Field (w : WireType) : Decoder Nat := do
  expectWire .varint w
  varint

/-- A `uint32` field value: the low 32 bits of the varint. -/
def uint32Field (w : WireType) : Decoder Nat := do
  expectWire .varint w
  return (← varint) % Nat.pow 2 32

/-- An `int32` field value: the low 32 bits of the varint, as a signed number. -/
def int32Field (w : WireType) : Decoder Int := do
  expectWire .varint w
  let v : Nat := (← varint) % Nat.pow 2 32
  return if v < Nat.pow 2 31 then (v : Int) else (v : Int) - Nat.pow 2 32

/-- A `bool` field value: any nonzero varint is true. -/
def boolField (w : WireType) : Decoder Bool := do
  expectWire .varint w
  return (← varint) != 0

mutual

/-- Skip the value of a field nobody asked for; groups are skipped up to their end key. -/
def skipField (fuel depth : Nat) (w : WireType) (tag : Nat) : Decoder Unit := do
  if depth = 0 then failWith "recursion limit reached"
  match w with
  | .varint => discard varint
  | .thirtyTwoBit => discard (takeBytes 4)
  | .sixtyFourBit => discard (takeBytes 8)
  | .lengthDelimited => discard lengthDelimited
  | .startGroup => skipGroup fuel depth tag
  | .endGroup => failWith "unexpected end group tag"

/-- Skip the fields of a group up to the end key that matches `tag`. -/
def skipGroup (fuel depth : Nat) (tag : Nat) : Decoder Unit := do
  match fuel with
  | 0 => failWith "invalid varint"
  | fuel + 1 =>
    let (t, w) ← key
    match w with
    | .endGroup => if t = tag then pure () else failWith "unexpected end group tag"
    | _ =>
      skipField fuel (depth - 1) w t
      skipGroup fuel depth tag

end

/-- Skip the value of an unknown field at nesting `depth`. -/
def skip (depth : Nat) (w : WireType) (tag : Nat) : Decoder Unit := do
  skipField ((← remaining) + 1) depth w tag

/-- Read fields into a value while more than `limit` bytes are left. -/
def fieldsAbove {α : Type} (field : α → Nat → WireType → Nat → Decoder α) (depth limit : Nat) :
    Nat → α → Decoder α
  | 0, acc => pure acc
  | fuel + 1, acc => do
    if (← remaining) ≤ limit then return acc
    let (t, w) ← key
    let acc ← field acc t w depth
    fieldsAbove field depth limit fuel acc

/-- A whole message body: fields until the input ends, starting from the default value. -/
def fields {α : Type} (init : α) (field : α → Nat → WireType → Nat → Decoder α) :
    Decoder α := do
  fieldsAbove field recursionLimit 0 ((← remaining) + 1) init

/-- A length-delimited message field at nesting `depth`, merged into `init`. -/
def nested {α : Type} (w : WireType) (depth : Nat) (init : α)
    (field : α → Nat → WireType → Nat → Decoder α) : Decoder α := do
  expectWire .lengthDelimited w
  if depth = 0 then failWith "recursion limit reached"
  let len ← varint
  let left ← remaining
  if len > left then failWith "buffer underflow"
  let limit := left - len
  let v ← fieldsAbove field (depth - 1) limit (left + 1) init
  if (← remaining) ≠ limit then failWith "delimited length exceeded"
  return v

/-! ## Writing -/

/-- The key bytes of a field. -/
def keyBytes (tag : Nat) (w : WireType) : List UInt8 := Varint.encode (tag * 8 + w.code)

/-- A varint field, always written. -/
def varintField (tag value : Nat) : List UInt8 := keyBytes tag .varint ++ Varint.encode value

/-- A plain varint field: not written when zero. -/
def scalarVarint (tag value : Nat) : List UInt8 := if value = 0 then [] else varintField tag value

/-- A length-delimited field, always written. -/
def delimitedField (tag : Nat) (body : List UInt8) : List UInt8 :=
  keyBytes tag .lengthDelimited ++ Varint.encode body.length ++ body

/-- A plain bytes or string field: not written when empty. -/
def scalarDelimited (tag : Nat) (body : List UInt8) : List UInt8 :=
  if body.isEmpty then [] else delimitedField tag body

/-- A double field, always written: the eight bytes of the value, little-endian. -/
def doubleBytes (tag : Nat) (x : Float) : List UInt8 :=
  keyBytes tag .sixtyFourBit ++ littleEndianBytes 8 x.toBits.toNat

/-- A plain double field: not written when it equals zero (either zero). -/
def scalarDouble (tag : Nat) (x : Float) : List UInt8 :=
  if x == 0 then [] else doubleBytes tag x

/-- The varint an `int32` is written as: negative values take ten bytes. -/
def int32Bits (v : Int) : Nat :=
  if v < 0 then (v + Nat.pow 2 64).toNat else v.toNat

/-- A message field, always written. -/
def messageField (tag : Nat) (body : List UInt8) : List UInt8 := delimitedField tag body

end TransitRouting.Protobuf
