import TransitRouting.Proofs.Ids.StoreLookup
import TransitRouting.Proofs.Wire.VarintRoundTrip

/-!
# Reading concatenated store files

A store file is a run of self-delimiting records, read from the front. Reading a file made of
two files one after the other therefore reads the first, then the second from where the first
ended: if the first file reads as a store, the whole reads as the second file's kinds written
over that store, and an error in the second file is reported as it would be alone, its byte
offset moved on by the length of the first. Read frame by frame, decoding is a left fold of the
record reader: a later record of a kind replaces the earlier one, the first bad record fails
the whole file at its own offset, and no partial store is ever returned.

## What this module delivers

- `IdStoreError.shift n`: an error as reported with `n` more bytes in front.
- `IdStore.readRecord_eq`: the record reader, case by case; `IdStore.readRecord_frame`: a
  record written as a length varint and a body of that length is read from its body alone.
- `IdStore.decodeRest_of_ne_nil`: the decoding loop, one record at a time, with its fuel accounted
  for once.
- `IdStore.decode_append`: reading `b1 ++ b2` when `b1` reads as `s1`.
- `IdStore.readFrames` and `IdStore.decode_flatten`: decoding as a fold over frames.
- `IdStore.decode_concatenation`: the three together.
-/

set_option autoImplicit false

namespace TransitRouting

/-- An error as reported when `n` more bytes stand in front of the records read: framing and
message errors name their record's offset, the others no place. -/
def IdStoreError.shift (n : Nat) : IdStoreError → IdStoreError
  | .framing offset reason => .framing (n + offset) reason
  | .badRecord offset e => .badRecord (n + offset) e
  | e => e

/-- A frame: one record as the writer lays it out, a length varint and a body of that length. -/
def IsFrame (f : List UInt8) : Prop :=
  ∃ body : List UInt8, f = Varint.encode body.length ++ body

/-- A frame is never empty: its length varint takes a byte at least. -/
theorem IsFrame.ne_nil {f : List UInt8} (hf : IsFrame f) : f ≠ [] := by
  obtain ⟨body, rfl⟩ := hf
  exact List.append_ne_nil_of_left_ne_nil (Varint.encode_ne_nil body.length) body

/-! ## The record reader, case by case -/

/-- The entry of a record: the kind is checked first, even when there is no payload; an LZ4
payload is decompressed; the payload is split into strings. -/
theorem Record.entry_eq (r : Record) : r.entry =
    match kindOfTag r.typeId with
    | .error e => .error e
    | .ok kind =>
      match r.payload with
      | none => .ok none
      | some (.raw bytes) =>
        (decodeStrings r.typeId (bytes.length + 1) bytes).map fun ids => some (kind, ids)
      | some (.lz4 bytes) =>
        match Lz4.decodeFrame bytes with
        | .error e => .error (.decompress r.typeId e)
        | .ok content =>
          (decodeStrings r.typeId (content.length + 1) content).map fun ids => some (kind, ids) := by
  unfold Record.entry
  cases hk : kindOfTag r.typeId with
  | error e => rfl
  | ok kind =>
    rcases hp : r.payload with _ | ⟨bytes⟩ | ⟨bytes⟩
    · rfl
    · rfl
    · cases hf : Lz4.decodeFrame bytes with
      | error e => simp only [hf]; rfl
      | ok content => simp only [hf]; rfl

/-- Splitting a payload fails only with a string error. -/
theorem decodeStrings_error {tag : Nat} :
    ∀ {fuel : Nat} {bytes : List UInt8} {e : IdStoreError},
      decodeStrings tag fuel bytes = .error e → ∃ reason, e = .invalidString tag reason
  | 0, _, _, h => by simp [decodeStrings] at h
  | _ + 1, [], _, h => by simp [decodeStrings] at h
  | fuel + 1, b :: bs, e, h => by
    simp only [decodeStrings] at h
    split at h
    · exact ⟨_, (Except.error.inj h).symm⟩
    · split at h
      · exact ⟨_, (Except.error.inj h).symm⟩
      · split at h
        · exact ⟨_, (Except.error.inj h).symm⟩
        · split at h
          · contradiction
          · rename_i hrest
            rw [Except.error.inj h] at hrest
            exact decodeStrings_error hrest

/-- The entry of a record fails only with an error that names no offset. -/
theorem Record.shift_of_entry_error {r : Record} {e : IdStoreError} (h : r.entry = .error e)
    (n : Nat) : e.shift n = e := by
  -- every failure of an entry is an unknown kind, a failed decompression or a bad string
  have hstrings : ∀ {fuel bytes}, decodeStrings r.typeId fuel bytes = .error e → e.shift n = e := by
    intro fuel bytes hs
    obtain ⟨reason, rfl⟩ := decodeStrings_error hs
    rfl
  rw [Record.entry_eq] at h
  split at h
  · rename_i e' hk
    cases Except.error.inj h
    unfold kindOfTag at hk
    split at hk <;> cases hk
    rfl
  · split at h
    · cases h
    · cases hs : decodeStrings r.typeId _ _ <;> rw [hs] at h <;> cases h
      exact hstrings hs
    · split at h
      · cases Except.error.inj h
        rfl
      · cases hs : decodeStrings r.typeId _ _ <;> rw [hs] at h <;> cases h
        exact hstrings hs

namespace IdStore

/-- The record reader: a length varint (else a framing error), a length that fits in what is
left (else a framing error), a body that is a valid message (else a message error), and the
entry of that message; the bytes after the body are handed back. -/
theorem readRecord_eq (offset : Nat) (bytes : List UInt8) : readRecord offset bytes =
    match Varint.decode? bytes with
    | none => .error (.framing offset badVarint)
    | some (len, rest) =>
      if len > rest.length then
        .error (.framing offset ("record length " ++ toString len ++ " exceeds remaining " ++
          toString rest.length ++ " bytes"))
      else
        match Record.decode (rest.take len) with
        | .error e => .error (.badRecord offset e)
        | .ok r => r.entry.map (·, rest.drop len) := by
  unfold readRecord
  cases hdec : Varint.decode? bytes with
  | none => rfl
  | some p =>
    obtain ⟨len, rest⟩ := p
    by_cases hlen : len > rest.length
    · simp only [hlen, if_true]
      rfl
    · simp only [hlen, if_false]
      cases hrec : Record.decode (rest.take len) <;> rfl

/-- With `n` more bytes in front, a record is read alike, its errors moved on by `n`. -/
theorem readRecord_shift (n offset : Nat) (bytes : List UInt8) :
    readRecord (n + offset) bytes = (readRecord offset bytes).mapError (IdStoreError.shift n) := by
  rw [readRecord_eq, readRecord_eq]
  split
  · rfl
  · split
    · rfl
    · split
      · rfl
      · rename_i r _
        cases he : r.entry with
        | error e =>
          show Except.error e = Except.error (e.shift n)
          rw [Record.shift_of_entry_error he n]
        | ok entry => rfl

/-- A record read from some bytes is read alike with more bytes after them. -/
theorem readRecord_append {offset : Nat} {xs rest : List UInt8}
    {entry : Option (IdKind × List String)} (ys : List UInt8)
    (h : readRecord offset xs = .ok (entry, rest)) :
    readRecord offset (xs ++ ys) = .ok (entry, rest ++ ys) := by
  rw [readRecord_eq] at h ⊢
  cases hdec : Varint.decode? xs with
  | none => rw [hdec] at h; cases h
  | some p =>
    obtain ⟨len, body⟩ := p
    simp only [hdec] at h
    simp only [Varint.decode?_append ys hdec]
    by_cases hlen : len > body.length
    · rw [if_pos hlen] at h
      cases h
    · rw [if_neg hlen] at h
      have hfits : len ≤ body.length := Nat.le_of_not_lt hlen
      have htake : (body ++ ys).take len = body.take len := List.take_append_of_le_length hfits
      have hdrop : (body ++ ys).drop len = body.drop len ++ ys := List.drop_append_of_le_length hfits
      rw [if_neg (by simp only [List.length_append]; omega), htake, hdrop]
      split at h
      · cases h
      · rename_i r _
        cases he : r.entry with
        | error e => rw [he] at h; cases h
        | ok entry' =>
          rw [he] at h
          cases h
          rfl

/-- Reading a record consumes at least one byte. -/
theorem length_lt_of_readRecord {offset : Nat} {xs rest : List UInt8}
    {entry : Option (IdKind × List String)} (h : readRecord offset xs = .ok (entry, rest)) :
    rest.length < xs.length := by
  rw [readRecord_eq] at h
  cases hdec : Varint.decode? xs with
  | none => rw [hdec] at h; cases h
  | some p =>
    obtain ⟨len, body⟩ := p
    simp only [hdec] at h
    have hshort := Varint.length_lt_of_decode? hdec
    split at h
    · cases h
    · split at h
      · cases h
      · rename_i r _
        cases he : r.entry with
        | error e => rw [he] at h; cases h
        | ok entry' =>
          rw [he] at h
          cases h
          simp only [List.length_drop]
          omega

/-- One frame: a body of a length that fits in 64 bits, after its length varint, is read as a
message (else a message error at the frame's offset) and then as an entry; what follows the
frame is handed back untouched. -/
theorem readRecord_frame (offset : Nat) (body rest : List UInt8) (h : body.length < Nat.pow 2 64) :
    readRecord offset (Varint.encode body.length ++ body ++ rest) =
      (((Record.decode body).mapError (.badRecord offset)).bind Record.entry).map (·, rest) := by
  have hfits : ¬ body.length > (body ++ rest).length := by
    simp only [List.length_append]
    omega
  rw [readRecord_eq, List.append_assoc, Varint.decode?_encode h]
  simp only [hfits, if_false, List.take_left, List.drop_left]
  cases Record.decode body with
  | error e => rfl
  | ok r => rfl

/-- A frame is read from its own bytes, whatever follows it. -/
theorem readRecord_frame_append {f : List UInt8} (hf : IsFrame f) (offset : Nat)
    (ys : List UInt8) : readRecord offset (f ++ ys) = (readRecord offset f).map fun p => (p.1, ys) := by
  obtain ⟨body, rfl⟩ := hf
  by_cases hfits : body.length < Nat.pow 2 64
  · rw [readRecord_frame offset body ys hfits, ← List.append_nil (Varint.encode body.length ++ body),
      readRecord_frame offset body [] hfits]
    cases ((Record.decode body).mapError (.badRecord offset)).bind Record.entry <;> rfl
  · -- a length of 64 bits or more cannot be read, with or without what follows
    have htoo : Nat.pow 2 64 ≤ body.length := Nat.le_of_not_lt hfits
    rw [readRecord_eq, readRecord_eq, List.append_assoc, Varint.decode?_encode_of_le htoo,
      Varint.decode?_encode_of_le htoo]
    rfl

/-! ## The decoding loop without its fuel

The loop carries fuel one more than the bytes left; every record consumes a byte, so any such
fuel gives the same answer, and the loop can be read one record at a time. -/

/-- The records from `bytes` on read into `s`, in a file of `total` bytes. -/
def decodeRest (total : Nat) (bytes : List UInt8) (s : IdStore) : Except IdStoreError IdStore :=
  decodeFrom total (bytes.length + 1) bytes s

/-- Any fuel beyond the number of bytes left reads the same. -/
theorem decodeFrom_fuel (total : Nat) :
    ∀ {fuel fuel' : Nat} {bytes : List UInt8} (s : IdStore), bytes.length < fuel →
      bytes.length < fuel' → decodeFrom total fuel bytes s = decodeFrom total fuel' bytes s
  | 0, _, _, _, h, _ => absurd h (Nat.not_lt_zero _)
  | _, 0, _, _, _, h => absurd h (Nat.not_lt_zero _)
  | _ + 1, _ + 1, [], _, _, _ => rfl
  | fuel + 1, fuel' + 1, b :: bs, s, h, h' => by
    simp only [decodeFrom]
    cases hread : readRecord (total - (b :: bs).length) (b :: bs) with
    | error e => rfl
    | ok p =>
      obtain ⟨entry, rest⟩ := p
      have hrest := length_lt_of_readRecord hread
      simp only [List.length_cons] at h h' hrest
      exact decodeFrom_fuel total _ (show rest.length < fuel by omega)
        (show rest.length < fuel' by omega)

theorem decode_eq_decodeRest (bytes : List UInt8) : decode bytes = decodeRest bytes.length bytes {} :=
  rfl

@[simp]
theorem decodeRest_nil (total : Nat) (s : IdStore) : decodeRest total [] s = .ok s :=
  rfl

/-- The loop reads the record at the front, at offset `total` less the bytes left, and goes
on after it with its entry added. -/
theorem decodeRest_of_ne_nil (total : Nat) {bytes : List UInt8} (hne : bytes ≠ []) (s : IdStore) :
    decodeRest total bytes s =
      (readRecord (total - bytes.length) bytes).bind fun p =>
        decodeRest total p.2 (s.addEntry p.1) := by
  obtain ⟨b, bs, rfl⟩ := List.exists_cons_of_ne_nil hne
  unfold decodeRest
  simp only [decodeFrom, List.length_cons]
  cases hread : readRecord (total - (bs.length + 1)) (b :: bs) with
  | error e => rfl
  | ok p =>
    obtain ⟨entry, rest⟩ := p
    have hrest := length_lt_of_readRecord hread
    exact decodeFrom_fuel total _ (by simpa using hrest) (by omega)

/-! ## Reading after a prefix -/

/-- With `n` more bytes in front of a file, the records from any point of it on are read alike,
their errors moved on by `n`. -/
theorem decodeRest_shift (n : Nat) {total : Nat} :
    ∀ (bytes : List UInt8) (s : IdStore), bytes.length ≤ total →
      decodeRest (n + total) bytes s = (decodeRest total bytes s).mapError (IdStoreError.shift n)
  | [], _, _ => rfl
  | b :: bs, s, hlen => by
    -- the record at the front sits `n` bytes further on
    have hoffset : n + total - (b :: bs).length = n + (total - (b :: bs).length) := by omega
    rw [decodeRest_of_ne_nil _ (List.cons_ne_nil b bs), decodeRest_of_ne_nil _ (List.cons_ne_nil b bs),
      hoffset, readRecord_shift]
    cases hread : readRecord (total - (b :: bs).length) (b :: bs) with
    | error e => rfl
    | ok p =>
      obtain ⟨entry, rest⟩ := p
      have hrest := length_lt_of_readRecord hread
      exact decodeRest_shift n rest (s.addEntry entry) (by omega)
termination_by bytes => bytes.length
decreasing_by simp only [List.length_cons] at hrest; omega

/-- The empty store written over nothing. -/
@[simp]
theorem override_empty (s : IdStore) : s.override {} = s :=
  rfl

/-- The lookup after adding an entry: the entry's list for its kind, the old lookup for the
others. -/
theorem get?_addEntry (s : IdStore) (entry : Option (IdKind × List String)) (k : IdKind) :
    (s.addEntry entry).get? k = ((({} : IdStore).addEntry entry).get? k).or (s.get? k) := by
  rcases entry with _ | ⟨kind, ids⟩
  · simp [addEntry]
  · simp only [addEntry, get?_insert, get?_empty]
    split <;> rfl

/-- Adding an entry and then writing `t` over the result is writing over the store what the
entry and `t` give from the empty store. -/
theorem addEntry_override (s : IdStore) (entry : Option (IdKind × List String)) (t : IdStore) :
    (s.addEntry entry).override t = s.override ((({} : IdStore).addEntry entry).override t) :=
  ext_get? fun k => by
    simp only [get?_override]
    rw [get?_addEntry s entry k, Option.or_assoc]

/-- Read into a store `s`, the records give what they give read into the empty store, written
over `s`; an error does not depend on `s`. -/
theorem decodeRest_state (total : Nat) :
    ∀ (bytes : List UInt8) (s : IdStore),
      decodeRest total bytes s = (decodeRest total bytes {}).map s.override
  | [], s => by
    rw [decodeRest_nil, decodeRest_nil]
    exact congrArg Except.ok (override_empty s).symm
  | b :: bs, s => by
    rw [decodeRest_of_ne_nil _ (List.cons_ne_nil b bs), decodeRest_of_ne_nil _ (List.cons_ne_nil b bs)]
    cases hread : readRecord (total - (b :: bs).length) (b :: bs) with
    | error e => rfl
    | ok p =>
      obtain ⟨entry, rest⟩ := p
      have hrest := length_lt_of_readRecord hread
      show decodeRest total rest (s.addEntry entry) =
        (decodeRest total rest (({} : IdStore).addEntry entry)).map s.override
      -- both stores are the empty store's result written over
      rw [decodeRest_state total rest (s.addEntry entry),
        decodeRest_state total rest (({} : IdStore).addEntry entry)]
      cases decodeRest total rest {} with
      | error e => rfl
      | ok t => exact congrArg Except.ok (addEntry_override s entry t)
termination_by bytes => bytes.length
decreasing_by all_goals simp only [List.length_cons] at hrest; omega

/-- Records read from some bytes to a store are read alike with more bytes after them, and
reading then goes on into the bytes that follow. -/
theorem decodeRest_append {total : Nat} (ys : List UInt8) :
    ∀ {xs : List UInt8} {s s' : IdStore}, decodeRest total xs s = .ok s' →
      decodeRest (total + ys.length) (xs ++ ys) s = decodeRest (total + ys.length) ys s'
  | [], _, _, h => by
    cases h
    rfl
  | b :: bs, s, s', h => by
    rw [decodeRest_of_ne_nil _ (List.cons_ne_nil b bs)] at h
    cases hread : readRecord (total - (b :: bs).length) (b :: bs) with
    | error e =>
      rw [hread] at h
      cases h
    | ok p =>
      obtain ⟨entry, rest⟩ := p
      rw [hread] at h
      change decodeRest total rest (s.addEntry entry) = .ok s' at h
      have hrest := length_lt_of_readRecord hread
      -- the front record sits at the same offset in the longer file
      have hoffset : total + ys.length - (b :: bs ++ ys).length = total - (b :: bs).length := by
        simp only [List.length_append]
        omega
      rw [decodeRest_of_ne_nil _ (List.append_ne_nil_of_left_ne_nil (List.cons_ne_nil b bs) ys),
        hoffset, readRecord_append ys hread]
      exact decodeRest_append ys h
termination_by xs => xs.length
decreasing_by simp only [List.length_cons] at hrest; omega

/-- Two files one after the other: when the first reads as `s1`, the whole reads as the second
read alone with its kinds written over `s1`, or fails as the second fails alone, at an offset
moved on by the length of the first. -/
theorem decode_append {b1 : List UInt8} {s1 : IdStore} (h : decode b1 = .ok s1)
    (b2 : List UInt8) :
    decode (b1 ++ b2) = ((decode b2).map s1.override).mapError (IdStoreError.shift b1.length) := by
  have hfirst : decodeRest (b1.length + b2.length) (b1 ++ b2) {} =
      decodeRest (b1.length + b2.length) b2 s1 :=
    decodeRest_append b2 h
  rw [decode_eq_decodeRest, decode_eq_decodeRest b2, List.length_append, hfirst,
    decodeRest_shift b1.length b2 s1 le_rfl, decodeRest_state b2.length b2 s1]

/-! ## Decoding as a fold over frames -/

/-- The frame decoder folded over frames from the left: each frame's record is read at its
offset, the total length of the frames before it, and its entry added; the first failure is
the result, and no store is returned with it. -/
def readFrames : Nat → IdStore → List (List UInt8) → Except IdStoreError IdStore
  | _, s, [] => .ok s
  | offset, s, f :: fs =>
    (readRecord offset f).bind fun p => readFrames (offset + f.length) (s.addEntry p.1) fs

/-- Frames laid one after the other are read one by one. -/
theorem decodeRest_flatten :
    ∀ (fs : List (List UInt8)) (offset : Nat) (s : IdStore), (∀ f ∈ fs, IsFrame f) →
      decodeRest (offset + fs.flatten.length) fs.flatten s = readFrames offset s fs
  | [], _, _, _ => rfl
  | f :: fs, offset, s, hfs => by
    have hf : IsFrame f := hfs f List.mem_cons_self
    have hne : f ++ fs.flatten ≠ [] := by simp [hf.ne_nil]
    have hoffset : offset + (f ++ fs.flatten).length - (f ++ fs.flatten).length = offset := by
      omega
    rw [List.flatten_cons, decodeRest_of_ne_nil _ hne, hoffset, readRecord_frame_append hf,
      readFrames]
    cases readRecord offset f with
    | error e => rfl
    | ok p =>
      show decodeRest (offset + (f ++ fs.flatten).length) fs.flatten (s.addEntry p.1) =
        readFrames (offset + f.length) (s.addEntry p.1) fs
      rw [List.length_append, ← Nat.add_assoc]
      exact decodeRest_flatten fs (offset + f.length) (s.addEntry p.1)
        fun g hg => hfs g (List.mem_cons_of_mem f hg)

/-- A file of frames decodes as the fold of the frame decoder over them. -/
theorem decode_flatten {fs : List (List UInt8)} (hfs : ∀ f ∈ fs, IsFrame f) :
    decode fs.flatten = readFrames 0 {} fs := by
  rw [decode_eq_decodeRest, ← decodeRest_flatten fs 0 {} hfs, Nat.zero_add]

/-! ## Concatenated files -/

/-- Reading store files laid one after the other. When `b1` reads as `s1`, reading `b1 ++ b2`
is reading `b2` alone: on success its kinds are written over `s1`, and its framing and message
errors come at offsets moved on by the length of `b1`. A frame, a length varint and a body of
that length, is read from its body alone, as a message and then as the entry of that message.
So a file of frames decodes as the frame decoder folded over them from the left: a later
record of a kind replaces the earlier one, and the first bad record fails the whole file at
its own offset, with no store returned. -/
theorem decode_concatenation :
    (∀ (b1 b2 : List UInt8) (s1 : IdStore), decode b1 = .ok s1 →
      decode (b1 ++ b2) =
        ((decode b2).map s1.override).mapError (IdStoreError.shift b1.length)) ∧
    (∀ (offset : Nat) (body rest : List UInt8), body.length < Nat.pow 2 64 →
      readRecord offset (Varint.encode body.length ++ body ++ rest) =
        (((Record.decode body).mapError (.badRecord offset)).bind Record.entry).map (·, rest)) ∧
    (∀ fs : List (List UInt8), (∀ f ∈ fs, IsFrame f) → decode fs.flatten = readFrames 0 {} fs) :=
  ⟨fun _ b2 _ h => decode_append h b2, readRecord_frame, fun _ hfs => decode_flatten hfs⟩

/-- A file holding one empty list of link ids, followed by a record whose length runs past the
end: the framing error is reported at byte 5, after the first file. -/
theorem decode_link_file_then_overlong :
    decode [4, 8, 3, 18, 0] = .ok (({} : IdStore).insert .link []) ∧
      decode ([4, 8, 3, 18, 0] ++ [5, 8]) =
        .error (.framing 5 "record length 5 exceeds remaining 1 bytes") := by
  have hfirst : decode [4, 8, 3, 18, 0] = .ok (({} : IdStore).insert .link []) := by decide
  refine ⟨hfirst, ?_⟩
  rw [decode_concatenation.1 _ [5, 8] _ hfirst]
  decide

end IdStore

end TransitRouting
