import TransitRouting.Proofs.Ids.Concatenation
import TransitRouting.Proofs.Text.Utf8RoundTrip
import TransitRouting.Proofs.Wire.ProtobufRoundTrip
import TransitRouting.Proofs.Lz4.FrameRoundTrip

/-!
# A store file reads back as its store

A store file is written as one frame per kind, in tag order: the length of a record, then the
record, a protocol-buffer message with the kind's tag and its payload. The payload is the
kind's ids, each a length varint and its UTF-8 bytes, possibly compressed into an LZ4 frame.
Each layer is read back by its reader: the strings from the payload, the record from its body,
the frame from the file. Decoding is the fold of the frame reader over the frames, and
inserting a store's entries in order into the empty store gives the store back.

One thing bounds this: a length is written as a varint of at most 64 bits, so every record and
every payload must be shorter than `2^64` bytes (`IdStore.Fits`). A compressed payload comes
back because every LZ4 frame reads back as its payload (`Lz4.decodeFrame_encodeFrame`).

## What this module delivers

- `decodeStrings_encodeStrings`: a payload splits back into its strings, empty ones included.
- `Record.decode_encode`: a record body reads back as the record.
- `IdStore.entry_record`: the record written for a kind yields that kind and its ids.
- `IdStore.Fits`, decidable: the lengths of a store's records and payloads fit in 64 bits.
- `IdStore.decode_encode_store`: a store written to a file, with either compression, reads back as
  itself.
-/

set_option autoImplicit false

namespace TransitRouting

/-! ## Payloads -/

theorem encodeStrings_nil : encodeStrings [] = [] :=
  rfl

theorem encodeStrings_cons (s : String) (ids : List String) :
    encodeStrings (s :: ids) =
      Varint.encode s.utf8ByteSize ++ s.toUTF8.toList ++ encodeStrings ids := by
  simp only [encodeStrings, List.map_cons, List.flatten_cons, List.append_assoc]

theorem length_toUTF8_toList (s : String) : s.toUTF8.toList.length = s.utf8ByteSize := by
  rw [Utf8.toList_eq_data_toList, Array.length_toList, ByteArray.size_data,
    String.toUTF8_eq_toByteArray, String.size_toByteArray]

/-- Each string takes a byte at least. -/
theorem length_le_encodeStrings : ∀ ids : List String, ids.length ≤ (encodeStrings ids).length
  | [] => le_rfl
  | s :: ids => by
    have hne := Varint.encode_ne_nil s.utf8ByteSize
    have hpos : 0 < (Varint.encode s.utf8ByteSize).length := List.length_pos_of_ne_nil hne
    have ih := length_le_encodeStrings ids
    rw [encodeStrings_cons]
    simp only [List.length_append, List.length_cons]
    omega

/-- A payload of strings splits back into them, given fuel for each string. -/
theorem decodeStrings_encodeStrings (tag : Nat) :
    ∀ (ids : List String) (fuel : Nat), ids.length < fuel →
      (encodeStrings ids).length < Nat.pow 2 64 →
      decodeStrings tag fuel (encodeStrings ids) = .ok ids
  | [], fuel, hfuel, _ => by
    obtain ⟨fuel, rfl⟩ := Nat.exists_eq_add_of_lt hfuel
    rfl
  | s :: ids, fuel, hfuel, hfits => by
    obtain ⟨fuel, rfl⟩ := Nat.exists_eq_add_of_lt hfuel
    have hsize : s.utf8ByteSize < Nat.pow 2 64 := by
      rw [encodeStrings_cons] at hfits
      simp only [List.length_append, length_toUTF8_toList] at hfits
      omega
    have hrest : (encodeStrings ids).length < Nat.pow 2 64 := by
      rw [encodeStrings_cons] at hfits
      simp only [List.length_append] at hfits
      omega
    rw [decodeStrings.eq_3 _ _ _ (by simp [encodeStrings_cons, Varint.encode_ne_nil]),
      encodeStrings_cons, List.append_assoc, Varint.decode?_encode hsize]
    -- the string's bytes are exactly as long as the length written before them
    have htake : (s.toUTF8.toList ++ encodeStrings ids).take s.utf8ByteSize = s.toUTF8.toList := by
      rw [← length_toUTF8_toList, List.take_left]
    have hdrop : (s.toUTF8.toList ++ encodeStrings ids).drop s.utf8ByteSize = encodeStrings ids := by
      rw [← length_toUTF8_toList, List.drop_left]
    have hfits' : ¬ s.utf8ByteSize > (s.toUTF8.toList ++ encodeStrings ids).length := by
      simp only [List.length_append, length_toUTF8_toList]
      omega
    have htail := decodeStrings_encodeStrings tag ids ((s :: ids).length + fuel)
      (by simp only [List.length_cons]; omega) hrest
    simp only [hfits', if_false, htake, Utf8.decode_toUTF8, hdrop, htail]

/-! ## Records -/

/-- The field a payload is written in: 2 for raw bytes, 3 for an LZ4 frame. -/
def Payload.tag : Payload → Nat
  | .raw _ => 2
  | .lz4 _ => 3

/-- The bytes a payload holds. -/
def Payload.bytes : Payload → List UInt8
  | .raw bytes => bytes
  | .lz4 bytes => bytes

theorem Payload.tag_pos (p : Payload) : 0 < p.tag := by
  cases p <;> simp [Payload.tag]

theorem Payload.tag_le (p : Payload) : p.tag ≤ 3 := by
  cases p <;> simp [Payload.tag]

/-- The payload field of a record body, if it has one. -/
def Payload.field : Option Payload → List UInt8
  | none => []
  | some p => Protobuf.delimitedField p.tag p.bytes

namespace Record

open Protobuf

/-- A record body: the type id unless it is zero, then the payload field. -/
theorem length_pos_keyBytes (tag : Nat) (w : WireType) : 0 < (keyBytes tag w).length :=
  List.length_pos_of_ne_nil (Varint.encode_ne_nil _)

theorem encode_eq (r : Record) : r.encode = scalarVarint 1 r.typeId ++ Payload.field r.payload := by
  rcases r with ⟨typeId, _ | ⟨bytes⟩ | ⟨bytes⟩⟩ <;> rfl

theorem field_typeId_run (acc : Record) (depth : Nat) {n : Nat} (h : n < Nat.pow 2 64)
    (rest : List UInt8) :
    (Record.field acc 1 .varint depth).run (Varint.encode n ++ rest) =
      .ok ({ acc with typeId := n }, rest) := by
  simp only [Record.field]
  apply within_run
  simp only [StateT.run_bind, uint64Field_run h, ok_bind, StateT.run_pure]
  rfl

theorem field_payload_run (acc : Record) (depth : Nat) (p : Payload)
    (h : p.bytes.length < Nat.pow 2 64) (rest : List UInt8) :
    (Record.field acc p.tag .lengthDelimited depth).run
        (Varint.encode p.bytes.length ++ p.bytes ++ rest) =
      .ok ({ acc with payload := some p }, rest) := by
  cases p with
  | raw bytes =>
    simp only [Record.field, Payload.tag]
    apply within_run
    simp only [StateT.run_bind, bytesField_run h, ok_bind, StateT.run_pure]
    rfl
  | lz4 bytes =>
    simp only [Record.field, Payload.tag]
    apply within_run
    simp only [StateT.run_bind, bytesField_run h, ok_bind, StateT.run_pure]
    rfl

/-- The payload field, read into a record that has no payload yet, gives it that payload. -/
theorem fieldsAbove_payload_run {acc : Record} (hacc : acc.payload = none)
    (payload : Option Payload) (fuel : Nat) (hfuel : (Payload.field payload).length < fuel)
    (hlen : (Payload.field payload).length < Nat.pow 2 64) :
    (fieldsAbove Record.field recursionLimit 0 fuel acc).run (Payload.field payload) =
      .ok ({ acc with payload }, []) := by
  cases payload with
  | none =>
    simp only [Payload.field]
    rw [fieldsAbove_run_of_le _ _ _ _ _ [] (Nat.le_refl 0)]
    cases acc
    simp_all
  | some p =>
    obtain ⟨fuel, rfl⟩ := Nat.exists_eq_add_of_lt hfuel
    have hbytes : p.bytes.length < Nat.pow 2 64 := by
      simp only [Payload.field, delimitedField, List.length_append] at hlen
      omega
    have htag : p.tag * 8 + WireType.lengthDelimited.code < Nat.pow 2 32 := by
      have := p.tag_le
      simp only [WireType.code, Nat.pow_eq]
      omega
    have hkey := key_run .lengthDelimited p.tag_pos htag (Varint.encode p.bytes.length ++ p.bytes)
    have hfield := field_payload_run acc recursionLimit p hbytes []
    rw [List.append_nil] at hfield
    simp only [Payload.field, delimitedField, List.append_assoc]
    have hlimit :
        0 < (keyBytes p.tag .lengthDelimited ++ (Varint.encode p.bytes.length ++ p.bytes)).length := by
      rw [List.length_append]
      have := length_pos_keyBytes p.tag .lengthDelimited
      omega
    rw [fieldsAbove_run_field _ _ _ _ hlimit hkey hfield,
      fieldsAbove_run_of_le _ _ _ _ _ [] (Nat.le_refl 0)]

/-- A record body reads back as the record, when its type id and its length fit in 64 bits. -/
theorem decode_encode (r : Record) (htype : r.typeId < Nat.pow 2 64)
    (hlen : r.encode.length < Nat.pow 2 64) : Record.decode r.encode = .ok r := by
  have hpayload : (Payload.field r.payload).length < Nat.pow 2 64 := by
    rw [encode_eq, List.length_append] at hlen
    omega
  simp only [Record.decode, StateT.run'_eq, fields_run]
  by_cases hzero : r.typeId = 0
  · -- no type-id field: the body is the payload field alone
    have hbody : r.encode = Payload.field r.payload := by
      rw [encode_eq, hzero]
      rfl
    rw [hbody, fieldsAbove_payload_run rfl r.payload _ (Nat.lt_succ_self _) hpayload]
    cases r
    simp_all
  · -- the type-id field first, then the payload field with the fuel that is left
    have hkey := @key_run 1 .varint (by decide) (by decide)
      (Varint.encode r.typeId ++ Payload.field r.payload)
    have hfield := field_typeId_run ({} : Record) recursionLimit htype (Payload.field r.payload)
    have hbody :
        r.encode = keyBytes 1 .varint ++ (Varint.encode r.typeId ++ Payload.field r.payload) := by
      rw [encode_eq, scalarVarint, if_neg hzero, varintField, List.append_assoc]
    have hfuel : (Payload.field r.payload).length < r.encode.length := by
      rw [hbody]
      simp only [List.length_append]
      have := List.length_pos_of_ne_nil (Varint.encode_ne_nil r.typeId)
      omega
    have hlimit : 0 < r.encode.length := by
      rw [hbody, List.length_append]
      have := length_pos_keyBytes 1 .varint
      omega
    rw [hbody, fieldsAbove_run_field _ _ _ _ (hbody ▸ hlimit) hkey hfield, ← hbody,
      fieldsAbove_payload_run rfl r.payload _ hfuel hpayload]
    cases r
    rfl

end Record

/-! ## Entries -/

/-- Tags run from 1 to 10. -/
theorem IdKind.tag_le (k : IdKind) : k.tag ≤ 10 := by
  cases k <;> decide

namespace IdStore

/-- A record written for a kind's ids yields that kind and those ids, when the payload's length
fits in 64 bits. -/
theorem entry_record (c : Compression) (kind : IdKind) (ids : List String)
    (hfits : (encodeStrings ids).length < Nat.pow 2 64) :
    (record c kind ids).entry = .ok (some (kind, ids)) := by
  have hkind : kindOfTag kind.tag = .ok kind := by
    simp only [kindOfTag, IdKind.ofTag?_tag]
  have hsplit : decodeStrings kind.tag ((encodeStrings ids).length + 1) (encodeStrings ids) =
      .ok ids :=
    decodeStrings_encodeStrings kind.tag ids _
      (Nat.lt_succ_of_le (length_le_encodeStrings ids)) hfits
  rw [Record.entry_eq]
  cases c with
  | none =>
    simp only [record, hkind, hsplit]
    rfl
  | lz4 =>
    simp only [record, hkind, Lz4.decodeFrame_encodeFrame, hsplit]
    rfl

/-- The frame a store file holds for one kind: the record's length, then the record. -/
def entryFrame (c : Compression) (e : IdKind × List String) : List UInt8 :=
  Varint.encode (record c e.1 e.2).encode.length ++ (record c e.1 e.2).encode

theorem encode_eq_flatten (s : IdStore) (c : Compression) :
    s.encode c = (s.entries.map (entryFrame c)).flatten :=
  rfl

/-- Every record of the file, and every payload before compression, is shorter than `2^64`
bytes, so that each length varint holds its length. -/
def Fits (s : IdStore) (c : Compression) : Prop :=
  ∀ e ∈ s.entries,
    (encodeStrings e.2).length < Nat.pow 2 64 ∧ (record c e.1 e.2).encode.length < Nat.pow 2 64

instance (s : IdStore) (c : Compression) : Decidable (s.Fits c) := by
  unfold Fits
  infer_instance

/-- The frames of some entries, read into a store, insert those entries in order. -/
theorem readFrames_entryFrame (c : Compression) :
    ∀ (l : List (IdKind × List String)) (offset : Nat) (acc : IdStore),
      (∀ e ∈ l, (encodeStrings e.2).length < Nat.pow 2 64 ∧
        (record c e.1 e.2).encode.length < Nat.pow 2 64) →
      readFrames offset acc (l.map (entryFrame c)) =
        .ok (l.foldl (fun a e => a.insert e.1 e.2) acc)
  | [], _, _, _ => rfl
  | e :: l, offset, acc, hfits => by
    obtain ⟨hpayload, hbody⟩ := hfits e List.mem_cons_self
    have htype : (record c e.1 e.2).typeId < Nat.pow 2 64 := by
      have := IdKind.tag_le e.1
      simp only [record, Nat.pow_eq]
      omega
    have hentry := entry_record c e.1 e.2 hpayload
    have hread : readRecord offset (entryFrame c e) = .ok (some (e.1, e.2), []) := by
      rw [entryFrame, ← List.append_nil (Varint.encode _ ++ _), readRecord_frame _ _ _ hbody,
        Record.decode_encode _ htype hbody]
      show (record c e.1 e.2).entry.map (·, []) = _
      rw [hentry]
      rfl
    rw [List.map_cons, readFrames, hread]
    exact readFrames_entryFrame c l _ _ fun e' he' => hfits e' (List.mem_cons_of_mem e he')

/-- Writing the empty store's kinds over another changes nothing; writing a store's kinds over
the empty store gives it back. -/
theorem empty_override (s : IdStore) : ({} : IdStore).override s = s :=
  ext_get? fun k => by simp only [get?_override, get?_empty, Option.or_none]

/-- A store written to a file reads back as itself, with either compression, when each record
and payload is shorter than `2^64` bytes. -/
theorem decode_encode_store (s : IdStore) (c : Compression) (hfits : s.Fits c) :
    decode (s.encode c) = .ok s := by
  have hframes : ∀ f ∈ s.entries.map (entryFrame c), IsFrame f := by
    intro f hf
    obtain ⟨e, _, rfl⟩ := List.mem_map.1 hf
    exact ⟨_, rfl⟩
  rw [encode_eq_flatten, decode_flatten hframes, readFrames_entryFrame c s.entries 0 {} hfits]
  exact congrArg Except.ok (empty_override s)

/-- A compressed file with an empty list of person ids and the link ids `a` and the empty
string reads back as its store. -/
theorem decode_encode_people_and_links :
    (({} : IdStore).insert .link ["a", ""] |>.insert .person []).Fits .lz4 ∧
      decode ((({} : IdStore).insert .link ["a", ""] |>.insert .person []).encode .lz4) =
        .ok (({} : IdStore).insert .link ["a", ""] |>.insert .person []) := by
  have hfits : (({} : IdStore).insert .link ["a", ""] |>.insert .person []).Fits .lz4 := by
    decide +kernel
  exact ⟨hfits, decode_encode_store _ .lz4 hfits⟩

end IdStore

end TransitRouting
