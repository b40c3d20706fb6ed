import TransitRouting.Ids.Store
import TransitRouting.Text.Index

/-!
# The id registry

A registry is built once from a loaded id store and only answers lookups afterwards: the id
registered under a code, the code of an id, and how many codes a kind has. Each kind keeps its
list of ids, read by position, and a reverse index from an id to its code, built by one pass
over the list: every id gets its position as code, a repeated id is skipped and keeps the code
of its first position, and the pass stops at the first position that does not fit in 32 bits.

## What this module delivers

- `KindIds` and `indexCodes`, the pass that builds the reverse index.
- `IdRegistry.register store`.
- `IdRegistry.resolve`, `IdRegistry.codeOf`, `IdRegistry.len`, `IdRegistry.isEmpty`.
-/

set_option autoImplicit false

namespace TransitRouting

/-- The reverse index of the ids from position `idx` on, added to `codes`: a new id gets its
position as code, a repeated id keeps its earlier code, and the pass stops at position `2^32`,
the first that is no 32-bit code. -/
def indexCodes : Nat → List String → TextIndex → TextIndex
  | _, [], codes => codes
  | idx, id :: rest, codes =>
    if Nat.pow 2 32 ≤ idx then codes
    else if codes.contains id then indexCodes (idx + 1) rest codes
    else indexCodes (idx + 1) rest (codes.insert id idx)

/-- The ids of one kind, by code, and the reverse index from an id to its code. -/
structure KindIds where
  ids : List String
  codes : TextIndex
deriving Repr, DecidableEq

/-- The ids of a kind with the reverse index of the whole list. -/
def KindIds.ofList (ids : List String) : KindIds := ⟨ids, indexCodes 0 ids .empty⟩

@[simp] theorem KindIds.ofList_ids (ids : List String) : (KindIds.ofList ids).ids = ids := rfl

/-- Read-only lookups between codes and external ids, by kind. -/
structure IdRegistry where
  kinds : List (IdKind × KindIds) := []
deriving Repr, DecidableEq

namespace IdRegistry

/-- Register every id of the store under its position. -/
def register (s : IdStore) : IdRegistry :=
  ⟨s.entries.map fun e => (e.1, KindIds.ofList e.2)⟩

/-- The registry with no ids. -/
def empty : IdRegistry := {}

/-- The ids of a kind and their reverse index. -/
def kindIds? (r : IdRegistry) (kind : IdKind) : Option KindIds :=
  (r.kinds.find? (fun e => e.1.tag == kind.tag)).map Prod.snd

/-- The id registered under a code. -/
def resolve (r : IdRegistry) (kind : IdKind) (code : Nat) : Option String :=
  (r.kindIds? kind).bind fun k => k.ids[code]?

/-- The code of an external id, from the reverse index. -/
def codeOf (r : IdRegistry) (kind : IdKind) (id : String) : Option Nat :=
  (r.kindIds? kind).bind fun k => k.codes.get? id

/-- The number of codes of a kind. -/
def len (r : IdRegistry) (kind : IdKind) : Nat :=
  ((r.kindIds? kind).map fun k => k.ids.length).getD 0

/-- Whether no kind has any id. -/
def isEmpty (r : IdRegistry) : Bool := r.kinds.all fun e => e.2.ids.isEmpty

end IdRegistry

end TransitRouting
