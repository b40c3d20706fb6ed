import TransitRouting.Json.Value
import TransitRouting.Text.Quote

/-!
# Typed reading of JSON

Reading a document into typed values: strings, 32-bit unsigned integers, doubles, optional
values, sequences and records. Each typed read looks at the next byte to decide; a byte that
starts a value of another type gives an `invalid type` error naming what was found (after
reading it, for scalars) and what was expected.

A record is read from an object, field by field, or from an array, field values in declaration
order. In an object, unknown keys are passed over, a key seen twice is an error as soon as it is
read again, and after the closing brace the first missing required field is reported. In an
array, a missing required value is reported as an `invalid length`.

Errors about types and fields have no place of their own: they are placed where the innermost
typed read that saw them has got to, after its closing bracket has been checked (that check
runs even after a failure, but the first error is the one reported).

## What this module delivers

- Error texts: `invalidType`, `invalidValue`, `invalidLength`, `missingField`,
  `duplicateField`.
- `peekInvalidType expected`: the error for a value of the wrong type at the next byte.
- Typed readers: `readStr`, `readU32`, `readF64`, `readOption`, `readSeq`, `readRecord`.
- Record helpers: `fieldsLoop` (the keys of an object), `element` (the next array item),
  `fieldValue` (a colon and a value), `ignoreField` (a colon and a skipped value),
  `readDraft` (an object into a draft), `setOnce`, `required` and `need`.
-/

set_option autoImplicit false

namespace TransitRouting.Json

/-- A value of the wrong type. -/
def invalidType (unexpected expected : String) : Error :=
  Error.custom ("invalid type: " ++ unexpected ++ ", expected " ++ expected)

/-- A value of the right type but out of range. -/
def invalidValue (unexpected expected : String) : Error :=
  Error.custom ("invalid value: " ++ unexpected ++ ", expected " ++ expected)

/-- An array with too few items for a record. -/
def invalidLength (n : Nat) (expected : String) : Error :=
  Error.custom ("invalid length " ++ toString n ++ ", expected " ++ expected)

/-- A required field that never came. -/
def missingField (name : String) : Error :=
  Error.custom ("missing field `" ++ name ++ "`")

/-- A field that came twice. -/
def duplicateField (name : String) : Error :=
  Error.custom ("duplicate field `" ++ name ++ "`")

/-- The error for a value of another type than `expected` at the next byte: keywords, numbers
and strings are read first, so the error is placed after them; a bracket is only looked at. -/
def peekInvalidType {α : Type} (expected : String) : Reader α := do
  let b ← peekOrZero
  let found : String ←
    if b == 110 then do bump; expectWord [117, 108, 108]; pure "null"
    else if b == 116 then do bump; expectWord [114, 117, 101]; pure "boolean `true`"
    else if b == 102 then do bump; expectWord [97, 108, 115, 101]; pure "boolean `false`"
    else if b == 45 then do bump; pure (← readInteger false).unexpected
    else if isDigit b then do pure (← readInteger true).unexpected
    else if b == 34 then do bump; pure ("string " ++ Quote.debug (← readString))
    else if b == 91 then pure "sequence"
    else if b == 123 then pure "map"
    else failAhead .expectedSomeValue
  throw (← locate (invalidType found expected))

/-- Run `inner`, then `close` whatever happened; the first error is the one raised. -/
def closing {α : Type} (close : Reader Unit) (inner : Reader α) : Reader α := do
  let result ← tryCatch (Except.ok <$> inner) (fun e => pure (Except.error e))
  let closed ← tryCatch (Except.ok <$> close) (fun e => pure (Except.error e))
  match result, closed with
  | .ok v, .ok () => pure v
  | .error e, _ => throw e
  | .ok _, .error e => throw e

/-- A typed read: blanks, then the reader chosen by the next byte, or a type error when there
is none for it. Errors without a place are placed where the read got to. -/
def typed {α : Type} (expected : String) (choose : UInt8 → Option (Reader α)) : Reader α :=
  locating do
    match ← skipBlanks with
    | none => failAhead .eofWhileParsingValue
    | some b =>
      match choose b with
      | some r => r
      | none => peekInvalidType expected

/-- A string. -/
def readStr : Reader String :=
  typed "a string" fun b => if b == 34 then some (do bump; readString) else none

/-- Whether a byte starts a number. -/
def startsNumber (b : UInt8) : Bool := b == 45 || isDigit b

/-- An unsigned 32-bit integer. -/
def readU32 : Reader Nat :=
  typed "u32" fun b =>
    if startsNumber b then
      some do
        match ← readNumber with
        | .unsigned n =>
          if n < Nat.pow 2 32 then pure n
          else throw (invalidValue (Number.unexpected (.unsigned n)) "u32")
        | .negative n => throw (invalidValue (Number.unexpected (.negative n)) "u32")
        | .float x => throw (invalidType (Number.unexpected (.float x)) "u32")
    else none

/-- A double: integers are rounded to the nearest double. -/
def readF64 : Reader Float :=
  typed "f64" fun b =>
    if startsNumber b then
      some do
        match ← readNumber with
        | .unsigned n => pure (Binary64.ofNat n)
        | .negative n => pure (-(Binary64.ofNat n.natAbs))
        | .float x => pure x
    else none

/-- An optional value: `null` is none, anything else is read as a value. -/
def readOption {α : Type} (r : Reader α) : Reader (Option α) := do
  match ← skipBlanks with
  | some 110 =>
    bump
    expectWord [117, 108, 108]
    pure none
  | _ => some <$> r

/-- The items of an array after its opening bracket, up to the closing one (not consumed). -/
def itemsLoop {α : Type} (item : Reader α) : Nat → Bool → List α → Reader (List α)
  | 0, _, acc => pure acc.reverse
  | fuel + 1, first, acc => do
    if ← hasNextElement first then
      let v ← item
      itemsLoop item fuel false (v :: acc)
    else pure acc.reverse

/-- An array of values. -/
def readSeq {α : Type} (item : Reader α) : Reader (List α) :=
  typed "a sequence" fun b =>
    if b == 91 then
      some do
        bump
        closing endSeq do itemsLoop item ((← remaining) + 1) true []
    else none

/-- A record named `name`, read from an array by `fromSeq` or from an object by `fromMap`,
each starting after the opening bracket. -/
def readRecord {α : Type} (name : String) (fromSeq fromMap : Reader α) : Reader α :=
  typed ("struct " ++ name) fun b =>
    if b == 91 then some (do bump; closing endSeq fromSeq)
    else if b == 123 then some (do bump; closing endMap fromMap)
    else none

/-- The next array item of a record, if any; `first` tells whether none was read yet. -/
def element {α : Type} (first : Bool) (item : Reader α) : Reader (Option α) := do
  if ← hasNextElement first then some <$> item else pure none

/-- A required record value read from an array: its absence is an `invalid length` error. -/
def required {α : Type} (index : Nat) (expected : String) : Option α → Reader α
  | some v => pure v
  | none => throw (invalidLength index expected)

/-- The colon after a key, then the value. -/
def fieldValue {α : Type} (r : Reader α) : Reader α := do
  expectColon
  r

/-- The colon after an unknown key, then its value passed over. -/
def ignoreField : Reader Unit := do
  expectColon
  skipValue

/-- The fields of an object after its opening brace, up to the closing one (not consumed):
`step` reads the value of each key into the draft. -/
def fieldsLoop {σ : Type} (step : σ → String → Reader σ) : Nat → Bool → σ → Reader σ
  | 0, _, s => pure s
  | fuel + 1, first, s => do
    if ← hasNextKey first then
      let k ← readKey
      let s ← step s k
      fieldsLoop step fuel false s
    else pure s

/-- Read the fields of an object into a draft. -/
def readDraft {σ : Type} (step : σ → String → Reader σ) (init : σ) : Reader σ := do
  fieldsLoop step ((← remaining) + 1) true init

/-- Set a draft field from its value, unless it was set before. -/
def setOnce {α : Type} (name : String) (current : Option α) (r : Reader α) : Reader α := do
  if current.isSome then throw (duplicateField name)
  fieldValue r

/-- A required field of a finished draft. -/
def need {α : Type} (name : String) : Option α → Reader α
  | some v => pure v
  | none => throw (missingField name)

end TransitRouting.Json
