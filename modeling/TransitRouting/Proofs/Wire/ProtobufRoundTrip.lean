import Mathlib
import TransitRouting.Proofs.Wire.VarintRoundTrip
import TransitRouting.Wire.Protobuf

/-!
# Reading protocol-buffer fields back

The readers of `Wire.Protobuf` run over the bytes not yet read. Run on the bytes a writer laid
out, each reader returns the value written and leaves exactly the bytes that followed: a key
gives its tag and wire type, a varint field its value, a length-delimited field its bytes. A
message body is read field by field while bytes are left, so a body written as a run of fields
is read as that run, one field at a time.

## What this module delivers

- `Protobuf.varint_run`, `Protobuf.key_run`, `Protobuf.takeBytes_run`,
  `Protobuf.lengthDelimited_run`, `Protobuf.uint64Field_run` and `Protobuf.bytesField_run`:
  each reader on its writer's bytes, whatever follows.
- `Protobuf.within_run`: naming the field an error arises in changes no success.
- `Protobuf.fields_run`, `Protobuf.fieldsAbove_run_of_le` and `Protobuf.fieldsAbove_run_field`:
  a message body, one field at a time, until no bytes are left.
-/

set_option autoImplicit false

namespace TransitRouting.Protobuf

/-- Binding a success runs the continuation on its value. -/
@[simp]
theorem ok_bind {ε α β : Type} (a : α) (f : α → Except ε β) : (Except.ok a >>= f) = f a :=
  rfl

/-! ## Keys and scalar fields -/

theorem varint_run {n : Nat} (h : n < Nat.pow 2 64) (rest : List UInt8) :
    varint.run (Varint.encode n ++ rest) = .ok (n, rest) := by
  simp only [varint, StateT.run_bind, StateT.run_get, pure_bind, Varint.decode?_encode h]
  rfl

@[simp]
theorem ofCode?_code (w : WireType) : WireType.ofCode? w.code = some w := by
  cases w <;> rfl

theorem code_lt (w : WireType) : w.code < 8 := by
  cases w <;> decide

/-- A key written for a nonzero tag that fits in 32 bits reads back as its tag and wire type. -/
theorem key_run {tag : Nat} (w : WireType) (htag : 0 < tag) (hkey : tag * 8 + w.code < Nat.pow 2 32)
    (rest : List UInt8) : key.run (keyBytes tag w ++ rest) = .ok ((tag, w), rest) := by
  -- the low three bits are the wire type, the others the tag
  have hcode := code_lt w
  have h64 : tag * 8 + w.code < Nat.pow 2 64 := by
    have : Nat.pow 2 32 < Nat.pow 2 64 := by decide
    omega
  have hmod : (tag * 8 + w.code) % 8 = w.code := by omega
  have hdiv : (tag * 8 + w.code) / 8 = tag := by omega
  simp only [key, keyBytes, StateT.run_bind, varint_run h64, ok_bind, ge_iff_le,
    if_neg (Nat.not_le.2 hkey), hmod, ofCode?_code, hdiv, if_neg (Nat.pos_iff_ne_zero.1 htag)]
  rfl

theorem expectWire_run (w : WireType) (s : List UInt8) : (expectWire w w).run s = .ok ((), s) := by
  simp only [expectWire, if_true]
  rfl

theorem takeBytes_run (bytes rest : List UInt8) :
    (takeBytes bytes.length).run (bytes ++ rest) = .ok (bytes, rest) := by
  simp only [takeBytes, StateT.run_bind, StateT.run_get, pure_bind, List.length_append,
    if_neg (show ¬ bytes.length > bytes.length + rest.length by omega), StateT.run_set,
    StateT.run_pure, pure_bind, List.take_left, List.drop_left]
  rfl

theorem lengthDelimited_run {bytes : List UInt8} (h : bytes.length < Nat.pow 2 64)
    (rest : List UInt8) :
    lengthDelimited.run (Varint.encode bytes.length ++ bytes ++ rest) = .ok (bytes, rest) := by
  simp only [lengthDelimited, StateT.run_bind, List.append_assoc, varint_run h, ok_bind,
    takeBytes_run]

theorem bytesField_run {bytes : List UInt8} (h : bytes.length < Nat.pow 2 64) (rest : List UInt8) :
    (bytesField .lengthDelimited).run (Varint.encode bytes.length ++ bytes ++ rest) =
      .ok (bytes, rest) := by
  simp only [bytesField, StateT.run_bind, expectWire_run, ok_bind, lengthDelimited_run h]

theorem uint64Field_run {n : Nat} (h : n < Nat.pow 2 64) (rest : List UInt8) :
    (uint64Field .varint).run (Varint.encode n ++ rest) = .ok (n, rest) := by
  simp only [uint64Field, StateT.run_bind, expectWire_run, ok_bind, varint_run h]

/-- A reader that succeeds succeeds alike with the field named for its errors. -/
theorem within_run {α : Type} (message field : String) {step : Decoder α} {s : List UInt8}
    {p : α × List UInt8} (h : step.run s = .ok p) : (within message field step).run s = .ok p := by
  show Except.tryCatch (step.run s) _ = _
  rw [h]
  rfl

/-! ## Message bodies -/

/-- A body is read with fuel one more than its length, from nesting level 100. -/
theorem fields_run {α : Type} (init : α) (field : α → Nat → WireType → Nat → Decoder α)
    (s : List UInt8) :
    (fields init field).run s = (fieldsAbove field recursionLimit 0 (s.length + 1) init).run s := by
  simp only [fields, remaining, StateT.run_bind, StateT.run_get]
  rfl

section Fields

variable {α : Type} (field : α → Nat → WireType → Nat → Decoder α) (depth limit : Nat)

/-- With no more bytes than the end mark allows, the fields read so far are the value. -/
theorem fieldsAbove_run_of_le (fuel : Nat) (acc : α) (s : List UInt8) (h : s.length ≤ limit) :
    (fieldsAbove field depth limit fuel acc).run s = .ok (acc, s) := by
  cases fuel with
  | zero => rfl
  | succ fuel =>
    simp only [fieldsAbove, remaining, StateT.run_bind, StateT.run_get]
    simp only [StateT.run_pure, pure_bind, if_pos h]
    rfl

/-- With bytes left past the end mark, one key and its field are read, then the rest. -/
theorem fieldsAbove_run_field (fuel : Nat) {acc acc' : α} {s rest ys : List UInt8} {t : Nat}
    {w : WireType} (hlimit : limit < s.length) (hkey : key.run s = .ok ((t, w), rest))
    (hfield : (field acc t w depth).run rest = .ok (acc', ys)) :
    (fieldsAbove field depth limit (fuel + 1) acc).run s =
      (fieldsAbove field depth limit fuel acc').run ys := by
  simp only [fieldsAbove, remaining, StateT.run_bind, StateT.run_get]
  simp only [StateT.run_pure, pure_bind, if_neg (Nat.not_le.2 hlimit), StateT.run_bind, hkey,
    ok_bind, hfield]

end Fields

end TransitRouting.Protobuf
