/-!
# Kinds of external ids

Ids are kept per kind of entity. Each kind has a numeric tag, used in id-store files, and a
name. Tags run from 1 to 10; any other tag names no kind.

## What this module delivers

- `IdKind`, in tag order, with `IdKind.tag`, `IdKind.name` and `IdKind.all`.
- `IdKind.ofTag?`: the kind with a tag, and `IdKind.ofTag?_tag` saying each tag names its kind.
-/

set_option autoImplicit false

namespace TransitRouting

/-- The entity kinds ids are kept for, in tag order. -/
inductive IdKind where
  | string
  | person
  | link
  | node
  | vehicleType
  | vehicle
  | int32
  | int64
  | uint32
  | float32
deriving Repr, DecidableEq, Inhabited

namespace IdKind

/-- All kinds in tag order. -/
def all : List IdKind :=
  [.string, .person, .link, .node, .vehicleType, .vehicle, .int32, .int64, .uint32, .float32]

/-- The numeric tag of a kind in id-store files. -/
def tag : IdKind → Nat
  | .string => 1
  | .person => 2
  | .link => 3
  | .node => 4
  | .vehicleType => 5
  | .vehicle => 6
  | .int32 => 7
  | .int64 => 8
  | .uint32 => 9
  | .float32 => 10

/-- The name a kind is shown with. -/
def name : IdKind → String
  | .string => "string"
  | .person => "person"
  | .link => "link"
  | .node => "node"
  | .vehicleType => "vehicle-type"
  | .vehicle => "vehicle"
  | .int32 => "int32"
  | .int64 => "int64"
  | .uint32 => "uint32"
  | .float32 => "float32"

/-- The kind with a tag, if any. -/
def ofTag? (t : Nat) : Option IdKind := all.find? (fun k => k.tag == t)

/-- Every kind is found again from its tag. -/
theorem ofTag?_tag (k : IdKind) : ofTag? k.tag = some k := by
  cases k <;> rfl

/-- Kinds are ordered by their tags. -/
instance : LT IdKind := ⟨fun a b => a.tag < b.tag⟩

instance (a b : IdKind) : Decidable (a < b) := inferInstanceAs (Decidable (a.tag < b.tag))

end IdKind

end TransitRouting
