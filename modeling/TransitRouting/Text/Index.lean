/-!
# Indices of texts

The program keeps hash maps from ids to positions: the code of each id of a kind, the position
of each link and of each stop of a scenario. Only inserts and lookups are ever made on them, and
their order is never read, so a map is what its lookups see: a list of entries, the latest
insert of a text first.

An index built by entering the texts of a list in order, each new text under its position and a
repeated one left alone, stores every text at its first position. `TextIndex.IndexesFirst` says
so, and its two step lemmas carry it along every loop that builds an index.

## What this module delivers

- `TextIndex` with `empty`, `get?`, `contains`, `insert`, and `get?_insert`.
- `TextIndex.IndexesFirst` with `contains_iff`, `get?_eq_none_iff`, `getElem?_of_get?`, `insert`
  and `concat_mem`.
-/

set_option autoImplicit false

namespace TransitRouting

/-- A map from texts to positions, as its lookups see it: the latest entry of a text wins. -/
structure TextIndex where
  entries : List (String × Nat) := []
deriving Repr, DecidableEq

namespace TextIndex

/-- The index with no entry. -/
def empty : TextIndex := {}

/-- The position stored for a text. -/
def get? (m : TextIndex) (key : String) : Option Nat := m.entries.lookup key

/-- Whether a text has a position. -/
def contains (m : TextIndex) (key : String) : Bool := (m.get? key).isSome

/-- Store a position for a text, in place of any earlier one. -/
def insert (m : TextIndex) (key : String) (pos : Nat) : TextIndex := ⟨(key, pos) :: m.entries⟩

@[simp] theorem get?_empty (key : String) : empty.get? key = none := rfl

@[simp] theorem get?_insert (m : TextIndex) (key x : String) (pos : Nat) :
    (m.insert key pos).get? x = if x = key then some pos else m.get? x := by
  by_cases h : x = key
  · subst h
    simp [insert, get?]
  · simp [insert, get?, List.lookup_cons, beq_false_of_ne h, h]

theorem contains_eq_isSome (m : TextIndex) (key : String) : m.contains key = (m.get? key).isSome :=
  rfl

/-! ## Indices of first positions -/

/-- The first position of a text in a list, after one more text: the position in the list, else
the new text's. -/
theorem idxOf?_concat (l : List String) (y x : String) :
    (l ++ [y]).idxOf? x = (l.idxOf? x).or (if y = x then some l.length else none) := by
  by_cases h : y = x <;> simp [List.idxOf?, List.findIdx?_append, h]

/-- Every text is stored at its first position in `l`, and no other text is stored. -/
def IndexesFirst (m : TextIndex) (l : List String) : Prop := ∀ x, m.get? x = l.idxOf? x

variable {m : TextIndex} {l : List String}

theorem indexesFirst_empty : empty.IndexesFirst [] := fun _ => rfl

/-- A text is stored exactly when it is in the list. -/
theorem IndexesFirst.contains_iff (h : m.IndexesFirst l) (x : String) :
    m.contains x = true ↔ x ∈ l := by
  rw [contains_eq_isSome, h x, List.isSome_idxOf?]

theorem IndexesFirst.get?_eq_none_iff (h : m.IndexesFirst l) (x : String) :
    m.get? x = none ↔ x ∉ l := by
  rw [h x, List.idxOf?_eq_none_iff]

/-- The position stored for a text holds that text in the list. -/
theorem IndexesFirst.getElem?_of_get? (h : m.IndexesFirst l) {x : String} {i : Nat}
    (hx : m.get? x = some i) : l[i]? = some x := by
  rw [h x] at hx
  obtain ⟨hi, hix, -⟩ := List.idxOf?_eq_some_iff.1 hx
  simp [hi, hix]

/-- Entering a new text at the end of the list stores it under its position. -/
theorem IndexesFirst.insert (h : m.IndexesFirst l) {y : String} (hy : y ∉ l) :
    (m.insert y l.length).IndexesFirst (l ++ [y]) := by
  intro x
  rw [get?_insert, idxOf?_concat, h x]
  by_cases hx : x = y
  · subst hx
    simp [List.idxOf?_eq_none_iff.2 hy]
  · simp [hx, Ne.symm hx]

/-- A text already in the list keeps its first position when it comes again. -/
theorem IndexesFirst.concat_mem (h : m.IndexesFirst l) {y : String} (hy : y ∈ l) :
    m.IndexesFirst (l ++ [y]) := by
  intro x
  rw [idxOf?_concat, h x]
  by_cases hx : y = x
  · subst hx
    obtain ⟨i, hi⟩ := Option.isSome_iff_exists.1 (List.isSome_idxOf?.2 hy)
    simp [hi]
  · simp [hx]

end TextIndex

end TransitRouting
