/-!
# A cursor over JSON text

JSON documents are read byte by byte from the left. A reading error names its problem and the
place it is reported at: a line (counted from 1) and a column (bytes since the start of the
line). Errors found by the syntax are placed where they are found; errors about types and
fields are placed later, at the end of the innermost value that was being read when they arose.

## What this module delivers

- `Json.Problem` with `Problem.text`, and `Json.Error` with `Error.message`.
- `Json.placeOf input i`: the line and column of byte index `i`.
- `Json.Reader`: reading with the input at hand and the index as state, and its primitive
  steps: `peek?`, `bump`, `next?`, `skipBlanks`, `failHere` (placed at the index),
  `failAhead` (placed one byte on) and `locate` (places an unplaced error at the index).
-/

set_option autoImplicit false

namespace TransitRouting.Json

/-- What went wrong while reading. -/
inductive Problem where
  | eofWhileParsingList
  | eofWhileParsingObject
  | eofWhileParsingString
  | eofWhileParsingValue
  | expectedColon
  | expectedListCommaOrEnd
  | expectedObjectCommaOrEnd
  | expectedSomeIdent
  | expectedSomeValue
  | invalidEscape
  | invalidNumber
  | numberOutOfRange
  | controlCharacterWhileParsingString
  | keyMustBeAString
  | loneLeadingSurrogateInHexEscape
  | trailingComma
  | trailingCharacters
  | unexpectedEndOfHexEscape
  | recursionLimitExceeded
  /-- A problem with the type or the fields of a value, in words. -/
  | custom (text : String)
deriving Repr, DecidableEq

/-- The words a problem is reported with. -/
def Problem.text : Problem → String
  | .eofWhileParsingList => "EOF while parsing a list"
  | .eofWhileParsingObject => "EOF while parsing an object"
  | .eofWhileParsingString => "EOF while parsing a string"
  | .eofWhileParsingValue => "EOF while parsing a value"
  | .expectedColon => "expected `:`"
  | .expectedListCommaOrEnd => "expected `,` or `]`"
  | .expectedObjectCommaOrEnd => "expected `,` or `\x7d`"
  | .expectedSomeIdent => "expected ident"
  | .expectedSomeValue => "expected value"
  | .invalidEscape => "invalid escape"
  | .invalidNumber => "invalid number"
  | .numberOutOfRange => "number out of range"
  | .controlCharacterWhileParsingString =>
    "control character (\\u0000-\\u001F) found while parsing a string"
  | .keyMustBeAString => "key must be a string"
  | .loneLeadingSurrogateInHexEscape => "lone leading surrogate in hex escape"
  | .trailingComma => "trailing comma"
  | .trailingCharacters => "trailing characters"
  | .unexpectedEndOfHexEscape => "unexpected end of hex escape"
  | .recursionLimitExceeded => "recursion limit exceeded"
  | .custom text => text

/-- A reading error and, once known, the line and column it is reported at. -/
structure Error where
  problem : Problem
  place : Option (Nat × Nat) := none
deriving Repr, DecidableEq

/-- The error text: the problem, then its place when known. -/
def Error.message (e : Error) : String :=
  match e.place with
  | none => e.problem.text
  | some (line, column) =>
    e.problem.text ++ " at line " ++ toString line ++ " column " ++ toString column

/-- A problem about types or fields, not yet placed. -/
def Error.custom (text : String) : Error := { problem := .custom text }

/-- Line and column after reading the given bytes from the start of a line `line`. -/
def advancePlace : List UInt8 → Nat × Nat → Nat × Nat
  | [], p => p
  | b :: rest, (line, column) =>
    advancePlace rest (if b = 10 then (line + 1, 0) else (line, column + 1))

/-- The line and column of byte index `i`: newlines before it, then bytes since the last one. -/
def placeOf (input : Array UInt8) (i : Nat) : Nat × Nat :=
  advancePlace (input.toList.take i) (1, 0)

/-- Reading JSON: the input is at hand, the index of the next byte is the state. The index
survives an error, so a step run after a failure (closing a bracket, placing the error) starts
where the failure happened. -/
abbrev Reader := ReaderT (Array UInt8) (ExceptT Error (StateM Nat))

/-- The next byte, not consumed. -/
def peek? : Reader (Option UInt8) := do
  let input ← read
  let pos ← get
  return input[pos]?

/-- The next byte, or zero at the end. -/
def peekOrZero : Reader UInt8 := do
  return (← peek?).getD 0

/-- Consume one byte. -/
def bump : Reader Unit := modify (· + 1)

/-- The next byte, consumed. -/
def next? : Reader (Option UInt8) := do
  match ← peek? with
  | some b => bump; return some b
  | none => return none

/-- The next byte consumed, or zero (nothing consumed) at the end. -/
def nextOrZero : Reader UInt8 := do
  return (← next?).getD 0

/-- Fail with an error placed at the current index. -/
def failHere {α : Type} (p : Problem) : Reader α := do
  let input ← read
  let pos ← get
  throw { problem := p, place := some (placeOf input pos) }

/-- Fail with an error placed one byte past the current index (at most at the end). -/
def failAhead {α : Type} (p : Problem) : Reader α := do
  let input ← read
  let pos ← get
  throw { problem := p, place := some (placeOf input (min (pos + 1) input.size)) }

/-- Place an unplaced error at the current index. -/
def locate (e : Error) : Reader Error := do
  match e.place with
  | some _ => return e
  | none =>
    let input ← read
    let pos ← get
    return { e with place := some (placeOf input pos) }

/-- Run a step; an error it raises without a place is placed at the index reached. -/
def locating {α : Type} (step : Reader α) : Reader α :=
  tryCatch step (fun e => do throw (← locate e))

/-- Blank bytes between tokens: space, newline, tab and carriage return. -/
def isBlank (b : UInt8) : Bool := b == 32 || b == 10 || b == 9 || b == 13

/-- The first index at or after `pos` that holds no blank byte. -/
def skipBlanksFrom (input : Array UInt8) (pos : Nat) : Nat :=
  if h : pos < input.size then
    if isBlank input[pos] then skipBlanksFrom input (pos + 1) else pos
  else pos
termination_by input.size - pos

/-- Skip blanks and look at the next byte. -/
def skipBlanks : Reader (Option UInt8) := do
  let input ← read
  let pos ← get
  let pos' := skipBlanksFrom input pos
  set pos'
  return input[pos']?

/-- A decimal digit byte. -/
def isDigit (b : UInt8) : Bool := 48 ≤ b && b ≤ 57

/-- The first index at or after `pos` that holds no digit. -/
def skipDigitsFrom (input : Array UInt8) (pos : Nat) : Nat :=
  if h : pos < input.size then
    if isDigit input[pos] then skipDigitsFrom input (pos + 1) else pos
  else pos
termination_by input.size - pos

/-- Consume the expected bytes of a keyword one by one. -/
def expectWord : List UInt8 → Reader Unit
  | [] => pure ()
  | b :: rest => do
    match ← next? with
    | none => failHere .eofWhileParsingValue
    | some c => if c == b then expectWord rest else failHere .expectedSomeIdent

/-- The input left to read, as a count of bytes. -/
def remaining : Reader Nat := do
  return (← read).size - (← get)

end TransitRouting.Json
