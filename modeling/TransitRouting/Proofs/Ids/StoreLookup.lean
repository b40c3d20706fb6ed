import Mathlib
import TransitRouting.Ids.Store

/-!
# Id stores as finite maps

An id store keeps at most one list per kind, in tag order. Looking a kind up is therefore all
there is to a store: two stores that give the same list for every kind are the same store. This
module gives the lookup its laws, so that later statements about stores are made kind by kind.

## What this module delivers

- `IdKind.tag_inj`: tags tell kinds apart.
- `IdStore.get?_eq_lookup`, `IdStore.get?_empty`, `IdStore.get?_insert`: lookups after the
  store operations.
- `IdStore.mem_entries_iff`, `IdStore.entries_nodup` and `IdStore.ext_get?`: a store is
  determined by its lookups.
- `IdStore.override s t`, the kinds of `t` written over `s`, with `IdStore.get?_override`.
-/

set_option autoImplicit false

namespace TransitRouting

namespace IdKind

/-- Distinct kinds have distinct tags. -/
theorem tag_injective : Function.Injective tag := by
  intro a b h
  cases a <;> cases b <;> first | rfl | exact absurd h (by decide)

@[simp]
theorem tag_inj {a b : IdKind} : a.tag = b.tag ↔ a = b :=
  tag_injective.eq_iff

end IdKind

namespace IdStore

/-- One step of a lookup in a list of entries. -/
theorem lookup_cons_eq (k k' : IdKind) (ids : List String) (rest : List (IdKind × List String)) :
    ((k, ids) :: rest).lookup k' = if k' = k then some ids else rest.lookup k' := by
  rw [List.lookup_cons]
  by_cases h : k' = k
  · simp [h]
  · rw [beq_false_of_ne h, if_neg h]

/-- A lookup finds the list of the kind, comparing kinds by their tags. -/
theorem get?_eq_lookup (s : IdStore) (k : IdKind) : s.get? k = s.entries.lookup k := by
  obtain ⟨entries, _⟩ := s
  simp only [get?]
  induction entries with
  | nil => rfl
  | cons e rest ih =>
    obtain ⟨k', ids⟩ := e
    rw [lookup_cons_eq, List.find?_cons]
    by_cases h : k = k'
    · subst h
      simp
    · have htag : (k'.tag == k.tag) = false := by simpa using Ne.symm h
      simp only [htag, h, if_false]
      exact ih (List.Pairwise.of_cons ‹_›)

@[simp]
theorem get?_empty (k : IdKind) : ({} : IdStore).get? k = none :=
  rfl

/-- The lookup after putting a list in its place: the new list for its kind, the old lookup
for every other kind. -/
theorem lookup_insertEntry (k : IdKind) (ids : List String) (k' : IdKind) :
    ∀ l : List (IdKind × List String),
      (insertEntry k ids l).lookup k' = if k' = k then some ids else l.lookup k'
  | [] => by
    simp only [insertEntry, lookup_cons_eq, List.lookup_nil]
  | (k0, l0) :: rest => by
    simp only [insertEntry]
    split
    · rw [lookup_cons_eq]
    · split
      · -- the old entry has the same kind and is dropped
        rename_i _ htag
        have hk0 : k = k0 := IdKind.tag_inj.1 htag
        subst hk0
        rw [lookup_cons_eq, lookup_cons_eq]
        by_cases h : k' = k <;> simp [h]
      · rename_i _ htag
        have hk0 : k ≠ k0 := fun h => htag (h ▸ rfl)
        rw [lookup_cons_eq, lookup_cons_eq, lookup_insertEntry k ids k' rest]
        by_cases h : k' = k
        · subst h
          simp [hk0]
        · simp [h]

/-- The lookup after an insertion. -/
theorem get?_insert (s : IdStore) (k : IdKind) (ids : List String) (k' : IdKind) :
    (s.insert k ids).get? k' = if k' = k then some ids else s.get? k' := by
  rw [get?_eq_lookup, get?_eq_lookup]
  exact lookup_insertEntry k ids k' s.entries

/-- In a list with kinds in strictly increasing tag order, an entry is present exactly when the
lookup of its kind gives its list. -/
theorem mem_iff_lookup :
    ∀ {l : List (IdKind × List String)}, l.Pairwise (fun a b => a.1.tag < b.1.tag) →
      ∀ (k : IdKind) (ids : List String), (k, ids) ∈ l ↔ l.lookup k = some ids
  | [], _ => by simp
  | (k0, l0) :: rest, h => by
    intro k ids
    rw [List.pairwise_cons] at h
    obtain ⟨hfirst, hrest⟩ := h
    rw [lookup_cons_eq, List.mem_cons]
    by_cases hk : k = k0
    · -- the first entry holds the kind; later entries have larger tags
      subst hk
      have hnot : (k, ids) ∉ rest := fun hmem => Nat.lt_irrefl k.tag (hfirst (k, ids) hmem)
      simp [hnot, eq_comm]
    · have hne : (k, ids) ≠ (k0, l0) := fun heq => hk (Prod.mk.inj heq).1
      simp only [hne, false_or, hk, if_false]
      exact mem_iff_lookup hrest k ids

/-- An entry is in a store exactly when the lookup of its kind gives its list. -/
theorem mem_entries_iff (s : IdStore) (k : IdKind) (ids : List String) :
    (k, ids) ∈ s.entries ↔ s.get? k = some ids := by
  rw [get?_eq_lookup]
  exact mem_iff_lookup s.sorted k ids

/-- No entry of a store appears twice. -/
theorem entries_nodup (s : IdStore) : s.entries.Nodup := by
  apply s.sorted.imp
  intro a b hab heq
  subst heq
  exact Nat.lt_irrefl _ hab

/-- Two stores with the same lookups are the same store. -/
theorem ext_get? {s t : IdStore} (h : ∀ k, s.get? k = t.get? k) : s = t := by
  have hmem : ∀ e, e ∈ s.entries ↔ e ∈ t.entries := by
    rintro ⟨k, ids⟩
    rw [mem_entries_iff, mem_entries_iff, h]
  have hperm : s.entries.Perm t.entries :=
    (List.perm_ext_iff_of_nodup s.entries_nodup t.entries_nodup).2 hmem
  have hentries : s.entries = t.entries :=
    hperm.eq_of_pairwise (fun a b _ _ hab hba => absurd (Nat.lt_trans hab hba) (Nat.lt_irrefl _))
      s.sorted t.sorted
  cases s
  cases t
  simp only [IdStore.mk.injEq]
  exact hentries

/-! ## Writing one store over another -/

/-- The kinds of `t` written over `s`: each kind of `t` gets `t`'s list, every other kind
keeps the list it has in `s`. -/
def override (s t : IdStore) : IdStore :=
  t.entries.foldl (fun acc e => acc.insert e.1 e.2) s

/-- Inserting the entries of a list with distinct kinds writes them over the store. -/
theorem get?_foldl_insert (k : IdKind) :
    ∀ {l : List (IdKind × List String)}, l.Pairwise (fun a b => a.1.tag < b.1.tag) →
      ∀ s : IdStore, (l.foldl (fun acc e => acc.insert e.1 e.2) s).get? k = (l.lookup k).or (s.get? k)
  | [], _, s => by simp
  | (k0, l0) :: rest, h, s => by
    rw [List.pairwise_cons] at h
    obtain ⟨hfirst, hrest⟩ := h
    rw [List.foldl_cons, get?_foldl_insert k hrest, get?_insert, lookup_cons_eq]
    by_cases hk : k = k0
    · -- no later entry has the kind of the first
      subst hk
      have hnone : rest.lookup k = none := by
        rw [List.lookup_eq_none_iff]
        intro p hp
        have hlt := hfirst p hp
        simp only [bne_iff_ne, ne_eq]
        intro heq
        exact Nat.lt_irrefl _ (heq ▸ hlt)
      simp [hnone]
    · simp [hk]

/-- A lookup after writing `t` over `s`: `t`'s list if it has the kind, else `s`'s. -/
@[simp]
theorem get?_override (s t : IdStore) (k : IdKind) :
    (s.override t).get? k = (t.get? k).or (s.get? k) := by
  rw [override, get?_foldl_insert k t.sorted, get?_eq_lookup t]

end IdStore

end TransitRouting
