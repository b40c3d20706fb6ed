import TransitRouting.Json.Number
import TransitRouting.Json.Text

/-!
# JSON documents

A JSON document read whole, or passed over, and written back as compact text.

Reading follows one grammar with one set of error places: blanks are skipped before every
token; an array is `[` items separated by commas `]`, with no comma before the closing bracket;
an object is `{` string keys, colons and values `}`; at most 127 arrays or objects nest. Of two
fields with one key the later wins. Passing a value over checks the same grammar with an
explicit stack of open brackets and keeps nothing.

## What this module delivers

- `Json.Value`, with lookups `Value.field?` and views `asString?`, `asArray?`, `asBool?`.
- `Json.readValue`: a whole value; `Value.parse`: a whole document, nothing but blanks after it.
- `Json.skipValue`: a value passed over.
- `Json.endSeq`, `Json.endMap`, `Json.hasNextElement`, `Json.hasNextKey`, `Json.expectColon`:
  the separators of arrays and objects, shared with typed reading.
- `Json.quote` and `Value.render`: compact JSON text; doubles in the JSON layout, non-finite
  ones as `null`.
-/

set_option autoImplicit false

namespace TransitRouting.Json

/-- A JSON value. Objects keep their first-seen key order; a repeated key keeps its last
value. -/
inductive Value where
  | null
  | bool (b : Bool)
  | number (n : Number)
  | string (s : String)
  | array (items : List Value)
  | object (fields : List (String × Value))

/-- The nesting depth at which reading gives up. -/
def depthLimit : Nat := 128

/-- Set a field, replacing the value of an equal key in place. -/
def setField (fields : List (String × Value)) (k : String) (v : Value) :
    List (String × Value) :=
  if fields.any (fun p => p.1 == k) then fields.map (fun p => if p.1 == k then (k, v) else p)
  else fields ++ [(k, v)]

/-- After the items of an array: its closing bracket. -/
def endSeq : Reader Unit := do
  match ← skipBlanks with
  | some 93 => bump
  | some 44 =>
    bump
    match ← skipBlanks with
    | some 93 => failAhead .trailingComma
    | _ => failAhead .trailingCharacters
  | some _ => failAhead .trailingCharacters
  | none => failAhead .eofWhileParsingList

/-- After the fields of an object: its closing brace. -/
def endMap : Reader Unit := do
  match ← skipBlanks with
  | some 125 => bump
  | some 44 => failAhead .trailingComma
  | some _ => failAhead .trailingCharacters
  | none => failAhead .eofWhileParsingObject

/-- Whether another item follows in an array; `first` tells whether one was read already. -/
def hasNextElement (first : Bool) : Reader Bool := do
  match ← skipBlanks with
  | none => failAhead .eofWhileParsingList
  | some 93 => pure false
  | some b =>
    if first then pure true
    else if b == 44 then
      bump
      match ← skipBlanks with
      | some 93 => failAhead .trailingComma
      | some _ => pure true
      | none => failAhead .eofWhileParsingValue
    else failAhead .expectedListCommaOrEnd

/-- Whether another field follows in an object; the key's quote is left unread. -/
def hasNextKey (first : Bool) : Reader Bool := do
  match ← skipBlanks with
  | none => failAhead .eofWhileParsingObject
  | some 125 => pure false
  | some b =>
    if first then
      if b == 34 then pure true else failAhead .keyMustBeAString
    else if b == 44 then
      bump
      match ← skipBlanks with
      | some 34 => pure true
      | some 125 => failAhead .trailingComma
      | some _ => failAhead .keyMustBeAString
      | none => failAhead .eofWhileParsingValue
    else failAhead .expectedObjectCommaOrEnd

/-- The colon between a key and its value. -/
def expectColon : Reader Unit := do
  match ← skipBlanks with
  | some 58 => bump
  | some _ => failAhead .expectedColon
  | none => failAhead .eofWhileParsingObject

/-- A key: its opening quote, then the literal. -/
def readKey : Reader String := do
  bump
  readString

mutual

/-- A whole value; `depth` arrays or objects may still open. -/
def readValue : Nat → Nat → Reader Value
  | 0, _ => failHere .eofWhileParsingValue
  | fuel + 1, depth => do
    match ← skipBlanks with
    | none => failAhead .eofWhileParsingValue
    | some b =>
      if b == 110 then
        bump
        expectWord [117, 108, 108]
        return .null
      else if b == 116 then
        bump
        expectWord [114, 117, 101]
        return .bool true
      else if b == 102 then
        bump
        expectWord [97, 108, 115, 101]
        return .bool false
      else if b == 45 || isDigit b then return .number (← readNumber)
      else if b == 34 then
        bump
        return .string (← readString)
      else if b == 91 then
        if depth ≤ 1 then failAhead .recursionLimitExceeded
        else
          bump
          let items ← readItems fuel (depth - 1) true []
          endSeq
          return .array items.reverse
      else if b == 123 then
        if depth ≤ 1 then failAhead .recursionLimitExceeded
        else
          bump
          let fields ← readFields fuel (depth - 1) true []
          endMap
          return .object fields
      else failAhead .expectedSomeValue

/-- The items of an array, reversed, up to its closing bracket (not consumed). -/
def readItems : Nat → Nat → Bool → List Value → Reader (List Value)
  | 0, _, _, acc => pure acc
  | fuel + 1, depth, first, acc => do
    if ← hasNextElement first then
      let v ← readValue fuel depth
      readItems fuel depth false (v :: acc)
    else pure acc

/-- The fields of an object up to its closing brace (not consumed). -/
def readFields : Nat → Nat → Bool → List (String × Value) → Reader (List (String × Value))
  | 0, _, _, acc => pure acc
  | fuel + 1, depth, first, acc => do
    if ← hasNextKey first then
      let k ← readKey
      expectColon
      let v ← readValue fuel depth
      readFields fuel depth false (setField acc k v)
    else pure acc

end

/-- Pass over the digits of a number. -/
def skipExponent : Reader Unit := do
  bump
  let c ← peekOrZero
  if c == 43 || c == 45 then bump
  if isDigit (← nextOrZero) then skipDigits else failHere .invalidNumber

/-- Pass over a fraction part, from its point. -/
def skipFraction : Reader Unit := do
  bump
  let start ← get
  skipDigits
  if (← get) == start then failAhead .invalidNumber
  else
    let c ← peekOrZero
    if c == 101 || c == 69 then skipExponent

/-- Pass over a number after its optional minus sign. -/
def skipInteger : Reader Unit := do
  let c ← nextOrZero
  if c == 48 then
    if isDigit (← peekOrZero) then failAhead .invalidNumber
  else if isDigit c then skipDigits
  else failHere .invalidNumber
  let c ← peekOrZero
  if c == 46 then skipFraction
  else if c == 101 || c == 69 then skipExponent

/-- The bracket that closes an open one. -/
def closer (frame : UInt8) : UInt8 := if frame == 91 then 93 else 125

mutual

/-- Pass over values: `stack` holds the brackets still open (innermost first), `enclosing` the
one just around the next value. -/
def skipOuter : Nat → List UInt8 → Option UInt8 → Reader Unit
  | 0, _, _ => failHere .eofWhileParsingValue
  | fuel + 1, stack, enclosing => do
    let peeked ← skipBlanks
    let opened : Option UInt8 ← match peeked with
      | none => failAhead .eofWhileParsingValue
      | some b =>
        if b == 110 then do
          bump
          expectWord [117, 108, 108]
          pure none
        else if b == 116 then do
          bump
          expectWord [114, 117, 101]
          pure none
        else if b == 102 then do
          bump
          expectWord [97, 108, 115, 101]
          pure none
        else if b == 45 then do
          bump
          skipInteger
          pure none
        else if isDigit b then do
          skipInteger
          pure none
        else if b == 34 then do
          bump
          skipString
          pure none
        else if b == 91 || b == 123 then do
          bump
          pure (some b)
        else failAhead .expectedSomeValue
    match opened with
    | some frame =>
      let stack' := match enclosing with
        | some e => e :: stack
        | none => stack
      skipInner fuel stack' false frame
    | none =>
      match enclosing with
      | some frame => skipInner fuel stack true frame
      | none =>
        match stack with
        | frame :: rest => skipInner fuel rest true frame
        | [] => pure ()

/-- After a value inside `frame`: a comma, the closing bracket, or (right after opening) the
next value. -/
def skipInner : Nat → List UInt8 → Bool → UInt8 → Reader Unit
  | 0, _, _, _ => failHere .eofWhileParsingValue
  | fuel + 1, stack, acceptComma, frame => do
    match ← skipBlanks with
    | none =>
      if frame == 91 then failAhead .eofWhileParsingList else failAhead .eofWhileParsingObject
    | some b =>
      if b == 44 && acceptComma then
        bump
        skipKey fuel stack frame
      else if b == closer frame then
        bump
        match stack with
        | f :: rest => skipInner fuel rest true f
        | [] => pure ()
      else if acceptComma then
        if frame == 91 then failAhead .expectedListCommaOrEnd
        else failAhead .expectedObjectCommaOrEnd
      else skipKey fuel stack frame

/-- Before the next value inside `frame`: inside an object, a key and its colon. -/
def skipKey : Nat → List UInt8 → UInt8 → Reader Unit
  | 0, _, _ => failHere .eofWhileParsingValue
  | fuel + 1, stack, frame => do
    if frame == 123 then
      match ← skipBlanks with
      | some 34 => bump
      | some _ => failAhead .keyMustBeAString
      | none => failAhead .eofWhileParsingObject
      skipString
      match ← skipBlanks with
      | some 58 => bump
      | some _ => failAhead .expectedColon
      | none => failAhead .eofWhileParsingObject
    skipOuter fuel stack (some frame)

end

/-- Pass over one value, checking its grammar. -/
def skipValue : Reader Unit := do
  skipOuter (4 * (← remaining) + 4) [] none

/-- Read one whole value. -/
def readAny : Reader Value := do
  readValue (2 * (← remaining) + 2) depthLimit

/-- After a document: only blanks may follow. -/
def endDocument : Reader Unit := do
  match ← skipBlanks with
  | none => pure ()
  | some _ => failAhead .trailingCharacters

/-- Run a reader over the bytes of a text from its start. -/
def runOn {α : Type} (r : Reader α) (text : String) : Except Error α :=
  (Id.run ((r.run text.toUTF8.data).run.run 0)).1

namespace Value

/-- Read a whole document. -/
def parse (text : String) : Except Error Value :=
  runOn (do let v ← readAny; endDocument; pure v) text

/-- The value of a field of an object. -/
def field? (v : Value) (key : String) : Option Value :=
  match v with
  | .object fields => (fields.find? (fun p => p.1 == key)).map (·.2)
  | _ => none

/-- The text of a string value. -/
def asString? : Value → Option String
  | .string s => some s
  | _ => none

/-- The items of an array value. -/
def asArray? : Value → Option (List Value)
  | .array items => some items
  | _ => none

/-- The truth value of a boolean value. -/
def asBool? : Value → Option Bool
  | .bool b => some b
  | _ => none

/-- A value that is null, or no value at all. -/
def isAbsent : Option Value → Bool
  | none => true
  | some .null => true
  | some _ => false

end Value

/-- Four lowercase hexadecimal digits. -/
def hex4 (n : Nat) : String :=
  let d (k : Nat) : Char := if k < 10 then Char.ofNat (48 + k) else Char.ofNat (87 + k)
  String.ofList [d (n / 4096 % 16), d (n / 256 % 16), d (n / 16 % 16), d (n % 16)]

/-- One character inside a JSON string literal: quote, backslash and control characters
escaped, everything else as it is. -/
def escapeChar (c : Char) : String :=
  if c = '"' then "\\\""
  else if c = '\\' then "\\\\"
  else if c = '\n' then "\\n"
  else if c = '\r' then "\\r"
  else if c = '\t' then "\\t"
  else if c.toNat = 8 then "\\b"
  else if c.toNat = 12 then "\\f"
  else if c.toNat < 32 then "\\u" ++ hex4 c.toNat
  else String.singleton c

/-- A JSON string literal. -/
def quote (s : String) : String :=
  "\"" ++ String.join (s.toList.map escapeChar) ++ "\""

/-- Compact text of a number. -/
def Number.render : Number → String
  | .unsigned n => toString n
  | .negative n => toString n
  | .float x => Layout.json.render x

mutual

/-- Compact JSON text. -/
def Value.render : Value → String
  | .null => "null"
  | .bool b => if b then "true" else "false"
  | .number n => n.render
  | .string s => quote s
  | .array items => "[" ++ renderItems items ++ "]"
  | .object fields => "\x7b" ++ renderFields fields ++ "\x7d"

/-- Array items separated by commas. -/
def renderItems : List Value → String
  | [] => ""
  | [v] => v.render
  | v :: rest => v.render ++ "," ++ renderItems rest

/-- Object fields separated by commas. -/
def renderFields : List (String × Value) → String
  | [] => ""
  | [(k, v)] => quote k ++ ":" ++ v.render
  | (k, v) :: rest => quote k ++ ":" ++ v.render ++ "," ++ renderFields rest

end

end TransitRouting.Json
