import TransitRouting.Ids.Kind
import TransitRouting.Wire.Protobuf
import TransitRouting.Lz4.Frame

/-!
# Id store files

The simulation and the router share compact integer codes for their external ids: the code of
an id is its index in the list of ids of its kind. An id store holds those lists, at most one
per kind, kept in tag order.

A store file is a run of records, each a varint byte length and then a protocol-buffer message
`IdsWithType { uint64 type_id = 1; oneof data { bytes raw = 2; bytes lz4_data = 3; } }`. The
payload, raw or inside an LZ4 frame, is a run of varint-length-prefixed UTF-8 strings with no
count in front. Reading a file fails as a whole at the first bad record: a bad length, a bad
message, an unknown kind, a payload that does not decompress, or a bad string. A record
without a payload is skipped (after its kind is checked), and a kind read again replaces the
earlier list.

## What this module delivers

- `IdStore`, kept sorted by tag, with `empty`, `insert`, `get?`, `kindCount`, `idCount`,
  `isEmpty`.
- `IdStoreError` with `IdStoreError.variant` and `IdStoreError.message`.
- `Record.entry`: the kind and ids a record contributes; `IdStore.readRecord`: one
  length-prefixed record read from the front of the bytes; `IdStore.addEntry`.
- `IdStore.decode bytes`, `IdStore.load path contents` and `IdStore.encode store compression`.
-/

set_option autoImplicit false

namespace TransitRouting

/-- Id lists by kind, in tag order, at most one list per kind. -/
structure IdStore where
  entries : List (IdKind × List String) := []
  /-- The kinds are listed in strictly increasing tag order, so none appears twice. -/
  sorted : entries.Pairwise (fun a b => a.1.tag < b.1.tag) := by simp
deriving Repr, DecidableEq

namespace IdStore

/-- Put a list in its tag-order place, replacing the list of the same kind. -/
def insertEntry (kind : IdKind) (ids : List String) :
    List (IdKind × List String) → List (IdKind × List String)
  | [] => [(kind, ids)]
  | (k, l) :: rest =>
    if kind.tag < k.tag then (kind, ids) :: (k, l) :: rest
    else if kind.tag = k.tag then (kind, ids) :: rest
    else (k, l) :: insertEntry kind ids rest

/-- An entry of the list after an insertion is the new entry or an old one. -/
theorem mem_insertEntry {kind : IdKind} {ids : List String} {e : IdKind × List String} :
    ∀ {l : List (IdKind × List String)}, e ∈ insertEntry kind ids l → e = (kind, ids) ∨ e ∈ l
  | [] => by
    intro h
    simp only [insertEntry, List.mem_singleton] at h
    exact .inl h
  | (k, l) :: rest => by
    intro h
    simp only [insertEntry] at h
    split at h
    · simpa using h
    · split at h
      · rcases List.mem_cons.1 h with h | h
        · exact .inl h
        · exact .inr (List.mem_cons_of_mem _ h)
      · rcases List.mem_cons.1 h with h | h
        · exact .inr (h ▸ List.mem_cons_self)
        · rcases mem_insertEntry h with h | h
          · exact .inl h
          · exact .inr (List.mem_cons_of_mem _ h)

/-- Inserting keeps the kinds in strictly increasing tag order. -/
theorem insertEntry_sorted (kind : IdKind) (ids : List String) :
    ∀ {l : List (IdKind × List String)}, l.Pairwise (fun a b => a.1.tag < b.1.tag) →
      (insertEntry kind ids l).Pairwise (fun a b => a.1.tag < b.1.tag)
  | [], _ => by simp [insertEntry]
  | (k, l) :: rest, h => by
    rw [List.pairwise_cons] at h
    obtain ⟨hk, hrest⟩ := h
    simp only [insertEntry]
    split
    · rename_i hlt
      refine List.Pairwise.cons ?_ (List.Pairwise.cons hk hrest)
      intro e he
      rcases List.mem_cons.1 he with rfl | he
      · exact hlt
      · exact Nat.lt_trans hlt (hk e he)
    · split
      · rename_i _ heq
        refine List.Pairwise.cons ?_ hrest
        intro e he
        exact heq ▸ hk e he
      · rename_i hge hne
        refine List.Pairwise.cons ?_ (insertEntry_sorted kind ids hrest)
        intro e he
        rcases mem_insertEntry he with rfl | he
        · exact Nat.lt_of_le_of_ne (Nat.le_of_not_lt hge) (Ne.symm hne)
        · exact hk e he

/-- The store with no kinds. -/
def empty : IdStore := {}

/-- Set the ids of a kind, replacing any earlier list. -/
def insert (s : IdStore) (kind : IdKind) (ids : List String) : IdStore :=
  ⟨insertEntry kind ids s.entries, insertEntry_sorted kind ids s.sorted⟩

/-- The ids of a kind, in code order. -/
def get? (s : IdStore) (kind : IdKind) : Option (List String) :=
  (s.entries.find? (fun e => e.1.tag == kind.tag)).map Prod.snd

/-- The number of kinds present. -/
def kindCount (s : IdStore) : Nat := s.entries.length

/-- The number of ids over all kinds. -/
def idCount (s : IdStore) : Nat := (s.entries.map fun e => e.2.length).foldr (· + ·) 0

/-- Whether no kind is present. -/
def isEmpty (s : IdStore) : Bool := s.entries.isEmpty

end IdStore

/-- How payloads are written. -/
inductive Compression where
  | none
  | lz4
deriving Repr, DecidableEq

/-- Why a store file could not be read. -/
inductive IdStoreError where
  /-- The file could not be read; `reason` is the system's message. -/
  | io (path reason : String)
  /-- A record length is malformed or runs past the end of the file. -/
  | framing (offset : Nat) (reason : String)
  /-- A record body is not a valid message. -/
  | badRecord (offset : Nat) (e : Protobuf.DecodeError)
  /-- A record names a kind outside the known ones. -/
  | unknownTypeTag (tag : Nat)
  /-- An LZ4 payload could not be decompressed. -/
  | decompress (tag : Nat) (e : Lz4.FrameError)
  /-- A string in a payload is malformed. -/
  | invalidString (tag : Nat) (reason : String)
deriving Repr, DecidableEq

/-- The name of the kind of error. -/
def IdStoreError.variant : IdStoreError → String
  | .io .. => "Io"
  | .framing .. => "Framing"
  | .badRecord .. => "Message"
  | .unknownTypeTag _ => "UnknownTypeTag"
  | .decompress .. => "Decompress"
  | .invalidString .. => "InvalidString"

/-- The error text. -/
def IdStoreError.message : IdStoreError → String
  | .io path reason => "failed to read id store " ++ path ++ ": " ++ reason
  | .framing offset reason =>
    "malformed record framing at byte " ++ toString offset ++ ": " ++ reason
  | .badRecord offset e => "invalid record at byte " ++ toString offset ++ ": " ++ e.message
  | .unknownTypeTag tag => "unknown id type tag: " ++ toString tag
  | .decompress tag e =>
    "failed to decompress ids of type tag " ++ toString tag ++ ": " ++ e.message
  | .invalidString tag reason =>
    "invalid string in payload of type tag " ++ toString tag ++ ": " ++ reason

/-- The kind of a tag, or the error for an unknown tag. -/
def kindOfTag (tag : Nat) : Except IdStoreError IdKind :=
  match IdKind.ofTag? tag with
  | some k => .ok k
  | none => .error (.unknownTypeTag tag)

/-- The text of a malformed varint. -/
def badVarint : String := "failed to decode Protobuf message: invalid varint"

/-! ## Records -/

/-- The payload of a record. -/
inductive Payload where
  | raw (bytes : List UInt8)
  | lz4 (bytes : List UInt8)
deriving Repr, DecidableEq

/-- One record: a kind tag and maybe a payload. -/
structure Record where
  typeId : Nat := 0
  payload : Option Payload := none
deriving Repr, DecidableEq

/-- Read one field of a record. -/
def Record.field (r : Record) (tag : Nat) (w : Protobuf.WireType) (depth : Nat) :
    Protobuf.Decoder Record :=
  match tag with
  | 1 => Protobuf.within "IdsWithType" "type_id" do
    return { r with typeId := ← Protobuf.uint64Field w }
  | 2 => Protobuf.within "IdsWithType" "data" do
    return { r with payload := some (.raw (← Protobuf.bytesField w)) }
  | 3 => Protobuf.within "IdsWithType" "data" do
    return { r with payload := some (.lz4 (← Protobuf.bytesField w)) }
  | _ => do
    Protobuf.skip depth w tag
    return r

/-- Read a record body. -/
def Record.decode (body : List UInt8) : Except Protobuf.DecodeError Record :=
  (Protobuf.fields {} Record.field).run' body

/-- The bytes of a record body. -/
def Record.encode (r : Record) : List UInt8 :=
  Protobuf.scalarVarint 1 r.typeId ++
    match r.payload with
    | none => []
    | some (.raw bytes) => Protobuf.delimitedField 2 bytes
    | some (.lz4 bytes) => Protobuf.delimitedField 3 bytes

/-! ## Payloads -/

/-- Split a payload into its strings, from the front until it is used up. -/
def decodeStrings (tag : Nat) : Nat → List UInt8 → Except IdStoreError (List String)
  | 0, _ => .ok []
  | _ + 1, [] => .ok []
  | fuel + 1, bytes =>
    match Varint.decode? bytes with
    | none => .error (.invalidString tag badVarint)
    | some (len, rest) =>
      if len > rest.length then
        .error (.invalidString tag
          ("string length " ++ toString len ++ " exceeds remaining " ++ toString rest.length ++
            " bytes"))
      else
        match Utf8.decode (rest.take len) with
        | .error e => .error (.invalidString tag e.message)
        | .ok s =>
          match decodeStrings tag fuel (rest.drop len) with
          | .ok more => .ok (s :: more)
          | .error e => .error e

/-- The payload bytes of a list of strings. -/
def encodeStrings (ids : List String) : List UInt8 :=
  (ids.map fun s => Varint.encode s.utf8ByteSize ++ s.toUTF8.toList).flatten

/-! ## Files -/

/-- The entry a record contributes: its kind and ids, or nothing when it has no payload. The
kind is checked first, then an LZ4 payload is decompressed, then the payload is split. -/
def Record.entry (r : Record) : Except IdStoreError (Option (IdKind × List String)) := do
  let kind ← kindOfTag r.typeId
  let payload ← match r.payload with
    | none => pure none
    | some (.raw bytes) => pure (some bytes)
    | some (.lz4 bytes) =>
      match Lz4.decodeFrame bytes with
      | .ok content => pure (some content)
      | .error e => throw (.decompress r.typeId e)
  match payload with
  | none => return none
  | some payload => return some (kind, ← decodeStrings r.typeId (payload.length + 1) payload)

namespace IdStore

/-- Read the record at the front of `bytes`, whose length varint is at byte `offset` of the
file: the entry it holds and the bytes after it. -/
def readRecord (offset : Nat) (bytes : List UInt8) :
    Except IdStoreError (Option (IdKind × List String) × List UInt8) := do
  let some (len, rest) := Varint.decode? bytes | throw (.framing offset badVarint)
  if len > rest.length then
    throw (.framing offset
      ("record length " ++ toString len ++ " exceeds remaining " ++ toString rest.length ++
        " bytes"))
  let record ← (Record.decode (rest.take len)).mapError (IdStoreError.badRecord offset)
  return (← record.entry, rest.drop len)

/-- Add the entry of a record, if it has one. -/
def addEntry (s : IdStore) : Option (IdKind × List String) → IdStore
  | none => s
  | some (kind, ids) => s.insert kind ids

/-- Read the records from byte `total - bytes.length` on into the store. -/
def decodeFrom (total : Nat) : Nat → List UInt8 → IdStore → Except IdStoreError IdStore
  | 0, _, s => .ok s
  | _ + 1, [], s => .ok s
  | fuel + 1, bytes, s => do
    let (entry, rest) ← readRecord (total - bytes.length) bytes
    decodeFrom total fuel rest (s.addEntry entry)

/-- Read a whole store file. -/
def decode (bytes : List UInt8) : Except IdStoreError IdStore :=
  decodeFrom bytes.length (bytes.length + 1) bytes {}

/-- Read a store from a file's contents, or from the error of reading the file. -/
def load (path : String) (contents : Except String (List UInt8)) : Except IdStoreError IdStore :=
  match contents with
  | .error reason => .error (.io path reason)
  | .ok bytes => decode bytes

/-- The record of one kind's ids. -/
def record (compression : Compression) (kind : IdKind) (ids : List String) : Record :=
  let payload := encodeStrings ids
  { typeId := kind.tag
    payload := some (match compression with
      | .none => .raw payload
      | .lz4 => .lz4 (Lz4.encodeFrame payload)) }

/-- Write a store file: one length-prefixed record per kind, in tag order. -/
def encode (s : IdStore) (compression : Compression) : List UInt8 :=
  (s.entries.map fun (kind, ids) =>
    let body := (record compression kind ids).encode
    Varint.encode body.length ++ body).flatten

end IdStore

end TransitRouting
