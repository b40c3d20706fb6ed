import TransitRouting.Proofs.Lz4.BlockDecode

/-!
# The compressor spells its input

The compressor scans its input once, looking each position up in a table of earlier positions
keyed by a hash of the bytes there. The hash decides only which earlier position is tried; the
bytes are always compared before a match is taken. So whatever the hash does, every match the
compressor emits repeats bytes of the input, and its block spells the input.

Three facts carry this. The table only ever holds positions already passed
(`TableBefore`), so a candidate is always behind the scan, and a candidate from an earlier
block is refused. The search reports a position only after comparing its first four bytes with
the candidate's (`search_spec`, `Found`). Moving the match back and extending it forward go
over bytes that compare equal (`backtrack_spec`, `getD_of_lt_commonRun`), and the extension
reaches at least as far as the four bytes compared, so the scan moves forward.

## What this module delivers

- `TableBefore` and its laws.
- `backtrack_spec`, the `commonRun` lemmas and `search_spec`.
- `compressFrom_spec` and `spells_compress`: the block of any input spells it.
- `tableBefore_compress`: after a block, the table holds positions before its end, as the next
  block of a frame needs.
- `decodeBlock_compress`: a compressed block decodes to its input.
-/

set_option autoImplicit false

namespace TransitRouting.Lz4

/-! ## The position table -/

/-- Every position the table holds lies before `n`. -/
def TableBefore (n : Nat) (table : Array Nat) : Prop := ∀ e ∈ table, e < n

theorem TableBefore.mono {n m : Nat} {table : Array Nat} (h : TableBefore n table) (hnm : n ≤ m) :
    TableBefore m table :=
  fun e he => Nat.lt_of_lt_of_le (h e he) hnm

theorem TableBefore.setIfInBounds {n : Nat} {table : Array Nat} (h : TableBefore n table)
    (i : Nat) {v : Nat} (hv : v < n) : TableBefore n (table.setIfInBounds i v) := by
  intro e he
  rcases Array.mem_or_eq_of_mem_setIfInBounds he with he | rfl
  · exact h e he
  · exact hv

/-- A lookup, with `0` for a slot out of range, gives a position before `n`. -/
theorem TableBefore.getD_lt {n : Nat} {table : Array Nat} (h : TableBefore n table) (hn : 0 < n)
    (i : Nat) : table.getD i 0 < n := by
  rw [Array.getD_eq_getD_getElem?]
  cases hi : table[i]? with
  | none => exact hn
  | some e => exact h e (Array.mem_of_getElem? hi)

/-! ## Comparing bytes -/

/-- Four bytes that compare equal as words agree byte by byte. -/
theorem getD_of_sameWord {input : Array UInt8} {a b : Nat} (h : sameWord input a b = true)
    (ha : a + 4 ≤ input.size) (hb : b + 4 ≤ input.size) :
    ∀ j < 4, input.getD (b + j) 0 = input.getD (a + j) 0 := by
  intro j hj
  have hwords : input.extract a (a + 4) = input.extract b (b + 4) := by
    simpa [sameWord] using h
  have hj' := congrArg (fun w : Array UInt8 => w[j]?) hwords
  simp only [Array.getElem?_extract] at hj'
  rw [if_pos (by omega), if_pos (by omega)] at hj'
  simp only [Array.getD_eq_getD_getElem?, hj']

/-- The bytes the run counts agree. -/
theorem getD_of_lt_commonRun (input : Array UInt8) (a b limit : Nat) :
    ∀ i < commonRun input a b limit, input.getD (a + i) 0 = input.getD (b + i) 0 := by
  fun_induction commonRun input a b limit with
  | case1 a b hlim heq ih =>
    intro i hi
    cases i with
    | zero => simpa using heq
    | succ i =>
      have := ih i (by omega)
      rw [show a + (i + 1) = a + 1 + i by omega, show b + (i + 1) = b + 1 + i by omega]
      exact this
  | case2 a b hlim hne => intro i hi; omega
  | case3 a b hlim => intro i hi; omega

/-- The run stops at `limit`. -/
theorem commonRun_le (input : Array UInt8) (a b limit : Nat) :
    commonRun input a b limit ≤ limit - a := by
  fun_induction commonRun input a b limit with
  | case1 a b hlim heq ih => omega
  | case2 a b hlim hne => omega
  | case3 a b hlim => omega

/-- A run of bytes known to agree, before `limit`, is counted. -/
theorem le_commonRun (input : Array UInt8) (a b limit : Nat) :
    ∀ m, a + m ≤ limit → (∀ i < m, input.getD (a + i) 0 = input.getD (b + i) 0) →
      m ≤ commonRun input a b limit := by
  fun_induction commonRun input a b limit with
  | case1 a b hlim heq ih =>
    intro m hm hsame
    cases m with
    | zero => omega
    | succ m =>
      have := ih m (by omega) fun i hi => by
        have := hsame (i + 1) (by omega)
        rw [show a + (i + 1) = a + 1 + i by omega, show b + (i + 1) = b + 1 + i by omega] at this
        exact this
      omega
  | case2 a b hlim hne =>
    intro m hm hsame
    cases m with
    | zero => omega
    | succ m =>
      have := hsame 0 (by omega)
      simp only [Nat.add_zero] at this
      exact absurd (by simpa using this) hne
  | case3 a b hlim => intro m hm _; omega

/-- Moving a match back: by some `k` bytes, no further than `floor` and the start of the input,
over bytes that agree. -/
theorem backtrack_spec (input : Array UInt8) (floor cur cand : Nat) (hfloor : floor ≤ cur) :
    ∃ k, backtrack input floor cur cand = (cur - k, cand - k) ∧ k ≤ cand ∧ floor + k ≤ cur ∧
      ∀ i < k, input.getD (cur - k + i) 0 = input.getD (cand - k + i) 0 := by
  fun_induction backtrack input floor cur cand with
  | case1 cur cand hmove ih =>
    obtain ⟨hcand, hcur, hsame⟩ := hmove
    obtain ⟨k, hk, hkcand, hkcur, hagree⟩ := ih (by omega)
    refine ⟨k + 1, ?_, by omega, by omega, ?_⟩
    · rw [hk]
      congr 1 <;> omega
    · -- the `k` bytes moved over from one before, then that byte itself
      intro i hi
      rcases Nat.lt_or_ge i k with hik | hik
      · rw [show cur - (k + 1) + i = cur - 1 - k + i by omega,
          show cand - (k + 1) + i = cand - 1 - k + i by omega]
        exact hagree i hik
      · obtain rfl : i = k := by omega
        rw [show cur - (i + 1) + i = cur - 1 by omega, show cand - (i + 1) + i = cand - 1 by omega]
        exact hsame
  | case2 cur cand hstop => exact ⟨0, by simp, by omega, by omega, by omega⟩

/-- What a search reports from `cur`: a position at or after `cur`, twelve bytes or more before
the end, whose first four bytes were seen at `cand`, before it and at most `maxDistance` back. -/
structure Found (input : Array UInt8) (cur pos cand : Nat) : Prop where
  cur_le : cur ≤ pos
  room : pos + 12 ≤ input.size
  cand_lt : cand < pos
  near : pos - cand ≤ maxDistance
  same : ∀ j < 4, input.getD (pos + j) 0 = input.getD (cand + j) 0

theorem Found.of_le {input : Array UInt8} {cur next pos cand : Nat} (h : Found input next pos cand)
    (hle : cur ≤ next) : Found input cur pos cand :=
  { h with cur_le := Nat.le_trans hle h.cur_le }

/-- What a search from `cur` may end with: a table holding only positions before the end of the
input, and a reported match as `Found` says, with the table holding positions up to it. -/
def SearchResult (input : Array UInt8) (base cur : Nat) (r : Array Nat × Option (Nat × Nat)) : Prop :=
  TableBefore (base + input.size) r.1 ∧
    ∀ pos cand, r.2 = some (pos, cand) →
      Found input cur pos cand ∧ TableBefore (base + pos + 1) r.1

theorem SearchResult.of_le {input : Array UInt8} {base cur next : Nat}
    {r : Array Nat × Option (Nat × Nat)} (h : SearchResult input base next r) (hle : cur ≤ next) :
    SearchResult input base cur r :=
  ⟨h.1, fun pos cand hr => ⟨(h.2 pos cand hr).1.of_le hle, (h.2 pos cand hr).2⟩⟩

/-- A search from `cur`, with every position of the table before `cur` and before the end of the
input, ends as `SearchResult` says. -/
theorem search_spec (input : Array UInt8) (base : Nat) :
    ∀ (fuel : Nat) (table : Array Nat) (probes cur : Nat), 32 ≤ probes → 0 < base + cur →
      TableBefore (base + cur) table → TableBefore (base + input.size) table →
      SearchResult input base cur (search input base fuel table probes cur) := by
  intro fuel
  induction fuel with
  | zero =>
    intro table probes cur _ _ _ hend
    exact ⟨hend, fun pos cand h => by simp [search] at h⟩
  | succ fuel ih =>
    intro table probes cur hprobes hpos hcur hend
    rw [search]
    split
    · exact ⟨hend, fun pos cand h => by simp at h⟩
    · rename_i hroom
      dsimp only
      -- the probed slot holds an earlier position, and the table now holds `cur` too
      have hcand := hcur.getD_lt hpos (slot input cur)
      have hset := (hcur.mono (Nat.le_succ _)).setIfInBounds (slot input cur)
        (show cur + base < base + cur + 1 by omega)
      have hset' := hend.setIfInBounds (slot input cur) (show cur + base < base + input.size by omega)
      have hrec := (ih _ (probes + 1) (cur + probes / 32) (by omega) (by omega)
        (hset.mono (by omega)) hset').of_le (show cur ≤ cur + probes / 32 by omega)
      split
      · exact hrec
      · split
        · rename_i hfar hsame
          simp only [Bool.or_eq_true, decide_eq_true_eq, not_or] at hfar
          refine ⟨hset', fun pos cand h => ?_⟩
          simp only [Option.some.injEq, Prod.mk.injEq] at h
          obtain ⟨rfl, rfl⟩ := h
          refine ⟨⟨le_rfl, by omega, by omega, by omega, ?_⟩, hset⟩
          exact getD_of_sameWord hsame (by omega) (by omega)
        · exact hrec

/-- What compressing from `lit` may end with: the sequences gathered so far, then sequences and
final literals that spell the input from `lit`, and a table holding only positions before the
end of the input. -/
def CompressResult (input : Array UInt8) (base lit : Nat) (acc : List Sequence)
    (r : Block × Array Nat) :
    Prop :=
  (∃ seqs, r.1.sequences = acc.reverse ++ seqs ∧ Spells input lit seqs r.1.last) ∧
    TableBefore (base + input.size) r.2

/-- The bytes of a match after moving it back by `k`: the `k` bytes moved over, then the four
bytes the search compared. -/
theorem agree_of_backtrack {input : Array UInt8} {cur pos cand k : Nat}
    (hfound : Found input cur pos cand)
    (hk : k ≤ cand) (hback : ∀ i < k, input.getD (pos - k + i) 0 = input.getD (cand - k + i) 0) :
    ∀ i < k + 4, input.getD (pos - k + i) 0 = input.getD (cand - k + i) 0 := by
  intro i hi
  rcases Nat.lt_or_ge i k with hik | hik
  · exact hback i hik
  · have hsame := hfound.same (i - k) (by omega)
    have hc := hfound.cand_lt
    rw [show pos - k + i = pos + (i - k) by omega, show cand - k + i = cand + (i - k) by omega]
    exact hsame

/-- The sequence emitted for a match found at `pos`, moved back by `k` over agreeing bytes and
extended by `run` more agreeing bytes before the last six: its literals run from `lit`, it fits,
and the next sequence starts right after its match. -/
theorem fits_of_found {input : Array UInt8} {lit cur pos cand k run : Nat}
    (hfound : Found input cur pos cand) (hfloor : lit + k ≤ pos)
    (hagree : ∀ i < k + 4, input.getD (pos - k + i) 0 = input.getD (cand - k + i) 0)
    (hk : k ≤ cand) (hrun_le : run ≤ input.size - 6 - (pos - k + 4))
    (hrun_same : ∀ i < run, input.getD (pos - k + 4 + i) 0 = input.getD (cand - k + 4 + i) 0) :
    Sequence.Fits input lit ⟨(input.extract lit (pos - k)).toList, pos - k - (cand - k), run + 4⟩ ∧
      Sequence.next lit ⟨(input.extract lit (pos - k)).toList, pos - k - (cand - k), run + 4⟩ =
        pos - k + 4 + run := by
  have hroom := hfound.room
  have hlt := hfound.cand_lt
  have hnear := hfound.near
  have hstart : Sequence.matchStart lit
      ⟨(input.extract lit (pos - k)).toList, pos - k - (cand - k), run + 4⟩ = pos - k := by
    simp only [Sequence.matchStart, Array.toList_extract, List.extract_eq_take_drop,
      List.length_take, List.length_drop, Array.length_toList]
    omega
  have hnext : Sequence.next lit
      ⟨(input.extract lit (pos - k)).toList, pos - k - (cand - k), run + 4⟩ = pos - k + 4 + run := by
    rw [Sequence.next, hstart]
    dsimp only
    omega
  refine ⟨⟨by rw [hstart], by dsimp only; omega, by rw [hstart]; dsimp only; omega,
    by dsimp only; omega, by dsimp only; omega, by rw [hnext]; omega, ?_⟩, hnext⟩
  -- the match: the bytes moved over and the four compared, then the run counted after them
  intro i hi
  dsimp only at hi
  rw [hstart, show pos - k - (pos - k - (cand - k)) = cand - k by omega]
  rcases Nat.lt_or_ge i (k + 4) with hik | hik
  · exact hagree i hik
  · have := hrun_same (i - 4) (by omega)
    rw [show pos - k + 4 + (i - 4) = pos - k + i by omega,
      show cand - k + 4 + (i - 4) = cand - k + i by omega] at this
    exact this

theorem compressFrom_spec (input : Array UInt8) (base : Nat) :
    ∀ (fuel : Nat) (table : Array Nat) (lit cur : Nat) (acc : List Sequence),
      lit ≤ cur → cur ≤ input.size → 0 < base + cur → TableBefore (base + cur) table →
      CompressResult input base lit acc (compressFrom input base fuel table lit cur acc) := by
  intro fuel
  induction fuel with
  | zero =>
    intro table lit cur acc _ hcur _ htable
    exact ⟨⟨[], by simp [compressFrom], rfl⟩, htable.mono (by omega)⟩
  | succ fuel ih =>
    intro table lit cur acc hlit hcur hpos htable
    have hsearch := search_spec input base (input.size + 1) table 32 cur le_rfl hpos htable
      (htable.mono (by omega))
    rw [compressFrom]
    rcases hr : search input base (input.size + 1) table 32 cur with ⟨table', _ | ⟨pos, cand⟩⟩
    · rw [hr] at hsearch
      exact ⟨⟨[], by simp, rfl⟩, hsearch.1⟩
    · rw [hr] at hsearch
      obtain ⟨hfound, hbefore⟩ := hsearch.2 pos cand rfl
      obtain ⟨k, hk, hkcand, hkfloor, hback⟩ := backtrack_spec input lit pos cand
        (Nat.le_trans hlit hfound.cur_le)
      simp only [hk]
      have hagree := agree_of_backtrack hfound hkcand hback
      have hroom := hfound.room
      -- the run covers at least the bytes moved over, so the scan moves past `pos`
      have hrun_ge : k ≤ commonRun input (pos - k + 4) (cand - k + 4) (input.size - 6) :=
        le_commonRun input _ _ _ k (by omega) fun i hi => by
          rw [show pos - k + 4 + i = pos - k + (i + 4) by omega,
            show cand - k + 4 + i = cand - k + (i + 4) by omega]
          exact hagree (i + 4) (by omega)
      obtain ⟨hfits, hnext⟩ := fits_of_found hfound hkfloor hagree hkcand
        (commonRun_le input _ _ _) (getD_of_lt_commonRun input _ _ _)
      have hrun_le := commonRun_le input (pos - k + 4) (cand - k + 4) (input.size - 6)
      generalize commonRun input (pos - k + 4) (cand - k + 4) (input.size - 6) = run
        at hrun_ge hrun_le hfits hnext ⊢
      have htable2 : TableBefore (base + (pos - k + 4 + run))
          (table'.setIfInBounds (slot input (pos - k + 4 + run - 2)) (pos - k + 4 + run - 2 + base)) :=
        (hbefore.mono (by omega)).setIfInBounds _ (by omega)
      obtain ⟨⟨seqs, hseqs, hspells⟩, hend⟩ :=
        ih _ _ _ (_ :: acc) le_rfl (by omega) (by omega) htable2
      refine ⟨⟨_ :: seqs, ?_, hfits, hnext ▸ hspells⟩, hend⟩
      rw [hseqs, List.reverse_cons, List.append_assoc, List.singleton_append]

/-- The start of compressing a block: the whole input as literals when it is short, else the
first block of a stream with position 0 recorded, else a later block. -/
theorem compress_spec (input : Array UInt8) (base : Nat) (table : Array Nat)
    (htable : TableBefore (max base 1) table) :
    CompressResult input base 0 [] (compress input base table) ∨
      (input.size < 13 ∧ compress input base table = (⟨[], input.toList⟩, table)) := by
  unfold compress
  split
  · exact .inr ⟨‹_›, rfl⟩
  · rename_i hlong
    left
    split
    · -- the first block: position 0 goes into the table, and the search starts at 1
      rename_i hbase
      subst hbase
      have hset := htable.setIfInBounds (slot input 0) (show 0 < max 0 1 by omega)
      exact compressFrom_spec input 0 _ _ 0 1 [] (by omega) (by omega) (by omega)
        (by simpa using hset)
    · exact compressFrom_spec input base _ table 0 0 [] le_rfl (Nat.zero_le _) (by omega)
        (htable.mono (by omega))

/-- A compressed block spells its input. -/
theorem spells_compress (input : Array UInt8) (base : Nat) (table : Array Nat)
    (htable : TableBefore (max base 1) table) :
    Spells input 0 (compress input base table).1.sequences (compress input base table).1.last := by
  rcases compress_spec input base table htable with ⟨⟨seqs, hseqs, hspells⟩, _⟩ | ⟨_, hshort⟩
  · rw [hseqs, List.reverse_nil, List.nil_append]
    exact hspells
  · rw [hshort]
    show input.toList = (input.extract 0 input.size).toList
    rw [Array.extract_size]

/-- After a block of at least one byte, the table holds only positions before its end. -/
theorem tableBefore_compress (input : Array UInt8) (base : Nat) (table : Array Nat)
    (htable : TableBefore (max base 1) table) (hsize : 0 < input.size) :
    TableBefore (base + input.size) (compress input base table).2 := by
  rcases compress_spec input base table htable with ⟨_, hend⟩ | ⟨_, hshort⟩
  · exact hend
  · rw [hshort]
    exact htable.mono (by omega)

/-- A compressed block decodes to its input, given a capacity at least the input's size. -/
theorem decodeBlock_compress (input : Array UInt8) (base : Nat) (table : Array Nat)
    (htable : TableBefore (max base 1) table) {capacity : Nat} (hcap : input.size ≤ capacity) :
    decodeBlock (compress input base table).1.encode.toArray #[] 0 capacity = .ok input :=
  decodeBlock_encode (spells_compress input base table htable) hcap

end TransitRouting.Lz4
