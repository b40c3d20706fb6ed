import TransitRouting.Proofs.Ids.StoreLookup
import TransitRouting.Ids.Registry

/-!
# Codes of external ids

A registry built from an id store answers lookups in both directions. The id under a code is
the entry at that position of its kind's list; the code of an id is read from the reverse index
the registry builds, and that index holds the position of the id's first occurrence, as long as
that position fits in 32 bits (`get?_indexCodes`). A kind the store lacks behaves as an empty
list. Later duplicates of an id can still be reached by their own position, but looking their id
up gives the first position back, so the two lookups are inverse only up to that.

## What this module delivers

- `IdRegistry.get?_indexCodes`: the pass that builds the reverse index stores every id at its
  first position below `2^32`, over every list, however its ids repeat.
- `IdRegistry.resolve_register`, `IdRegistry.codeOf_register_eq_some_iff`,
  `IdRegistry.len_register`, `IdRegistry.isEmpty_register`: every lookup of a registry, read
  off the store it was built from.
- `IdRegistry.resolve_of_codeOf`, `IdRegistry.codeOf_of_resolve`: the two round trips.
- `IdRegistry.register_lookups`: all of the above for one store and one kind.
-/

set_option autoImplicit false

namespace TransitRouting

namespace IdRegistry

/-! ## The reverse index -/

/-- First positions in a list no longer than `b` all lie below `b`. -/
theorem filter_idxOf?_of_length_le {l : List String} {b : Nat} (h : l.length ≤ b) (x : String) :
    (l.idxOf? x).filter (· < b) = l.idxOf? x := by
  cases hx : l.idxOf? x with
  | none => rfl
  | some i =>
    obtain ⟨hi, -⟩ := List.idxOf?_eq_some_iff.1 hx
    simp [Option.filter, Nat.lt_of_lt_of_le hi h]

/-- Below the length of a list, the first position of a text in a longer list is its first
position in that list. -/
theorem filter_idxOf?_append (l r : List String) (x : String) :
    ((l ++ r).idxOf? x).filter (· < l.length) = l.idxOf? x := by
  simp only [List.idxOf?, List.findIdx?_append]
  cases hx : l.findIdx? (· == x) with
  | some i =>
    obtain ⟨hi, -⟩ := List.findIdx?_eq_some_iff_getElem.1 hx
    simp [Option.filter, hi]
  | none =>
    -- what the rest finds lies at or past the list's end
    cases r.findIdx? (· == x) <;> simp [Option.filter]

/-- The pass over the ids after `done`, from a reverse index of `done` no longer than `2^32`,
stores every id at its first position in the whole list, if that position is below `2^32`. -/
theorem get?_indexCodes : ∀ (rest done : List String) {codes : TextIndex},
    codes.IndexesFirst done → done.length ≤ Nat.pow 2 32 → ∀ x,
      (indexCodes done.length rest codes).get? x =
        ((done ++ rest).idxOf? x).filter (· < Nat.pow 2 32)
  | [], done, codes, hcodes, hlen, x => by
    rw [indexCodes, hcodes x, List.append_nil, filter_idxOf?_of_length_le hlen]
  | y :: rest, done, codes, hcodes, hlen, x => by
    rw [indexCodes]
    split_ifs with hstop hdup
    · -- the pass stops at position `2^32`: the ids before are all there is to index
      have hlen' : done.length = Nat.pow 2 32 := Nat.le_antisymm hlen hstop
      rw [hcodes x, ← hlen', filter_idxOf?_append]
    · -- a repeated id keeps its first code
      have h := get?_indexCodes rest (done ++ [y])
        (hcodes.concat_mem ((hcodes.contains_iff y).1 hdup))
        (by simp only [List.length_append, List.length_singleton]; omega) x
      simpa using h
    · have hy : y ∉ done := fun hy => hdup ((hcodes.contains_iff y).2 hy)
      have h := get?_indexCodes rest (done ++ [y]) (hcodes.insert hy)
        (by simp only [List.length_append, List.length_singleton]; omega) x
      simpa using h

/-- The reverse index of a list stores every id at its first position, if that is below
`2^32`. -/
theorem get?_ofList (ids : List String) (x : String) :
    (KindIds.ofList ids).codes.get? x = (ids.idxOf? x).filter (· < Nat.pow 2 32) :=
  get?_indexCodes ids [] TextIndex.indexesFirst_empty (by decide) x

/-! ## The lookups of a registered store -/

section Register

variable (s : IdStore) (k : IdKind)

/-- A registry holds the lists of the store it was built from, each with its reverse index. -/
@[simp]
theorem kindIds?_register : (register s).kindIds? k = (s.get? k).map KindIds.ofList := by
  simp only [kindIds?, register, IdStore.get?, List.find?_map, Option.map_map]
  rfl

/-- The id under a code is the entry at that position, if the kind's list reaches it. -/
theorem resolve_register (c : Nat) : (register s).resolve k c = ((s.get? k).getD [])[c]? := by
  cases h : s.get? k <;> simp [resolve, h]

/-- The code of an id is its first position, kept only below `2^32`. -/
theorem codeOf_register (x : String) :
    (register s).codeOf k x = (((s.get? k).getD []).idxOf? x).filter (· < Nat.pow 2 32) := by
  cases h : s.get? k with
  | none => simp [codeOf, h]
  | some ids => simp [codeOf, h, get?_ofList]

/-- An id has code `i` exactly when `i` fits in 32 bits, the id stands at position `i`, and at
no earlier position. -/
theorem codeOf_register_eq_some_iff (x : String) (i : Nat) :
    (register s).codeOf k x = some i ↔
      i < Nat.pow 2 32 ∧ ((s.get? k).getD [])[i]? = some x ∧
        ∀ j < i, ((s.get? k).getD [])[j]? ≠ some x := by
  rw [codeOf_register, Option.filter_eq_some_iff, List.idxOf?_eq_some_iff]
  constructor
  · rintro ⟨⟨hlt, hat, hbefore⟩, hfits⟩
    refine ⟨by simpa using hfits, by simp [hlt, hat], fun j hj hjx => ?_⟩
    obtain ⟨_, hjx⟩ := List.getElem?_eq_some_iff.1 hjx
    exact hbefore j hj hjx
  · rintro ⟨hfits, hat, hbefore⟩
    obtain ⟨hlt, hat⟩ := List.getElem?_eq_some_iff.1 hat
    refine ⟨⟨hlt, hat, fun j hj => ?_⟩, by simpa using hfits⟩
    have := hbefore j hj
    simp only [ne_eq, List.getElem?_eq_some_iff, not_exists] at this
    exact this (Nat.lt_trans hj hlt)

/-- The number of codes of a kind is the length of its list. -/
theorem len_register : (register s).len k = ((s.get? k).getD []).length := by
  cases h : s.get? k <;> simp [len, h]

/-- A registry is empty exactly when every list of its store is. -/
theorem isEmpty_register :
    (register s).isEmpty = true ↔ ∀ k' ids, s.get? k' = some ids → ids = [] := by
  simp only [isEmpty, register, List.all_map, List.all_eq_true, Function.comp_def,
    KindIds.ofList_ids, List.isEmpty_iff]
  constructor
  · intro h k' ids hget
    exact h (k', ids) ((IdStore.mem_entries_iff s k' ids).2 hget)
  · rintro h ⟨k', ids⟩ hmem
    exact h k' ids ((IdStore.mem_entries_iff s k' ids).1 hmem)

/-! ## Round trips -/

/-- The code of an id resolves to that id. -/
theorem resolve_of_codeOf {x : String} {i : Nat} (h : (register s).codeOf k x = some i) :
    (register s).resolve k i = some x := by
  rw [resolve_register]
  exact ((codeOf_register_eq_some_iff s k x i).1 h).2.1

/-- The id under a 32-bit code has a code of its own, no later than that one: its first
position. -/
theorem codeOf_of_resolve {c : Nat} {x : String} (hc : c < Nat.pow 2 32)
    (h : (register s).resolve k c = some x) :
    ∃ c', (register s).codeOf k x = some c' ∧ c' ≤ c := by
  rw [resolve_register] at h
  -- the id occurs at `c`, so its first occurrence is at or before `c`
  have hmem : x ∈ (s.get? k).getD [] := List.mem_of_getElem? h
  obtain ⟨c', hc'⟩ := Option.isSome_iff_exists.1 (List.isSome_idxOf?.2 hmem)
  obtain ⟨_, _, hbefore'⟩ := List.idxOf?_eq_some_iff.1 hc'
  obtain ⟨_, hat⟩ := List.getElem?_eq_some_iff.1 h
  have hle : c' ≤ c := Nat.le_of_not_lt fun hgt => hbefore' c hgt hat
  refine ⟨c', ?_, hle⟩
  rw [codeOf_register, hc']
  simp only [Option.filter_some, decide_eq_true_eq]
  rw [if_pos (Nat.lt_of_le_of_lt hle hc)]

end Register

/-- A repeated id keeps its first code, and its later position still resolves to it. -/
example :
    (register (IdStore.empty.insert .node ["a", "b", "a"])).codeOf .node "a" = some 0 ∧
      (register (IdStore.empty.insert .node ["a", "b", "a"])).resolve .node 2 = some "a" := by
  decide

/-- Every lookup of a registry built from a store, for one kind with list `ids` (empty when the
store lacks the kind): a code resolves to the entry at its position, if any; an id has as code
its first position, when that fits in 32 bits, and no code otherwise; a code of an id resolves
to the id, and the id under a 32-bit code has a code no later than it; the number of codes is
the list's length; and the registry is empty exactly when every list of the store is. -/
theorem register_lookups (s : IdStore) (k : IdKind) :
    (∀ c, (register s).resolve k c = ((s.get? k).getD [])[c]?) ∧
    (∀ x i, (register s).codeOf k x = some i ↔
      i < Nat.pow 2 32 ∧ ((s.get? k).getD [])[i]? = some x ∧
        ∀ j < i, ((s.get? k).getD [])[j]? ≠ some x) ∧
    (∀ x i, (register s).codeOf k x = some i → (register s).resolve k i = some x) ∧
    (∀ c x, c < Nat.pow 2 32 → (register s).resolve k c = some x →
      ∃ c', (register s).codeOf k x = some c' ∧ c' ≤ c) ∧
    (register s).len k = ((s.get? k).getD []).length ∧
    ((register s).isEmpty = true ↔ ∀ k' ids, s.get? k' = some ids → ids = []) :=
  ⟨resolve_register s k, codeOf_register_eq_some_iff s k, fun _ _ => resolve_of_codeOf s k,
    fun _ _ => codeOf_of_resolve s k, len_register s k, isEmpty_register s⟩

end IdRegistry

end TransitRouting
