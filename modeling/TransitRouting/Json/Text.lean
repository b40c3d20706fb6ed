import TransitRouting.Json.Cursor

/-!
# String literals in JSON text

A string literal runs from its opening quote to the next unescaped quote. Control bytes may not
appear raw; escapes are the usual single letters and `\uXXXX`, where a high surrogate must be
followed by an escaped low surrogate and a low surrogate may not stand first.

## What this module delivers

- `Json.readString`: the text of a literal whose opening quote was consumed.
- `Json.skipString`: the same literal checked and passed over, as done for values that are not
  kept (a raw control byte is then reported at its own index, not after it).
- `Json.utf8Bytes`: the UTF-8 encoding of a code point.
-/

set_option autoImplicit false

namespace TransitRouting.Json

/-- The UTF-8 bytes of a code point below `0x110000`. -/
def utf8Bytes (c : Nat) : List UInt8 :=
  if c < 0x80 then [c.toUInt8]
  else if c < 0x800 then [(0xC0 + c / 64).toUInt8, (0x80 + c % 64).toUInt8]
  else if c < 0x10000 then
    [(0xE0 + c / 4096).toUInt8, (0x80 + c / 64 % 64).toUInt8, (0x80 + c % 64).toUInt8]
  else
    [(0xF0 + c / 262144).toUInt8, (0x80 + c / 4096 % 64).toUInt8,
      (0x80 + c / 64 % 64).toUInt8, (0x80 + c % 64).toUInt8]

/-- The value of a hexadecimal digit byte. -/
def hexValue? (b : UInt8) : Option Nat :=
  if 48 ≤ b && b ≤ 57 then some (b.toNat - 48)
  else if 97 ≤ b && b ≤ 102 then some (b.toNat - 87)
  else if 65 ≤ b && b ≤ 70 then some (b.toNat - 55)
  else none

/-- Four hexadecimal digits: running out of input fails at its end, a non-digit fails after all
four are passed. -/
def readHex4 : Reader Nat := do
  let input ← read
  let pos ← get
  if pos + 4 > input.size then
    set input.size
    failHere .eofWhileParsingString
  else
    let ds := (input.toList.drop pos).take 4
    set (pos + 4)
    match ds.mapM hexValue? with
    | some [a, b, c, d] => return ((a * 16 + b) * 16 + c) * 16 + d
    | _ => failHere .invalidEscape

/-- The next byte inside a literal; the end of input is an unfinished string. -/
def peekInString : Reader UInt8 := do
  match ← peek? with
  | some b => return b
  | none => failHere .eofWhileParsingString

/-- A `\u` escape, its `u` consumed: a code point, or a surrogate pair given as two escapes. -/
def readUnicodeEscape : Reader (List UInt8) := do
  let n ← readHex4
  if 0xDC00 ≤ n && n ≤ 0xDFFF then failHere .loneLeadingSurrogateInHexEscape
  else if n < 0xD800 || n > 0xDBFF then return utf8Bytes n
  else
    if (← peekInString) == 92 then bump
    else
      bump
      failHere .unexpectedEndOfHexEscape
    if (← peekInString) == 117 then bump
    else
      bump
      failHere .unexpectedEndOfHexEscape
    let n2 ← readHex4
    if n2 < 0xDC00 || n2 > 0xDFFF then failHere .loneLeadingSurrogateInHexEscape
    else return utf8Bytes ((n - 0xD800) * 1024 + (n2 - 0xDC00) + 0x10000)

/-- An escape, its backslash consumed. -/
def readEscape : Reader (List UInt8) := do
  match ← next? with
  | none => failHere .eofWhileParsingString
  | some c =>
    if c == 34 then return [34]
    else if c == 92 then return [92]
    else if c == 47 then return [47]
    else if c == 98 then return [8]
    else if c == 102 then return [12]
    else if c == 110 then return [10]
    else if c == 114 then return [13]
    else if c == 116 then return [9]
    else if c == 117 then readUnicodeEscape
    else failHere .invalidEscape

/-- The bytes of a literal up to its closing quote, reversed. -/
def stringBytes : Nat → List UInt8 → Reader (List UInt8)
  | 0, acc => do
    let _ ← peekInString
    return acc
  | fuel + 1, acc => do
    let c ← peekInString
    if c == 34 then
      bump
      return acc
    else if c == 92 then
      bump
      let e ← readEscape
      stringBytes fuel (e.reverse ++ acc)
    else if c < 32 then
      bump
      failHere .controlCharacterWhileParsingString
    else
      bump
      stringBytes fuel (c :: acc)

/-- The text of a string literal whose opening quote was consumed. -/
def readString : Reader String := do
  let bytes ← stringBytes ((← remaining) + 1) []
  return (String.fromUTF8? (ByteArray.mk bytes.reverse.toArray)).getD ""

/-- An escape passed over: `\u` needs four hexadecimal digits, nothing more. -/
def skipEscape : Reader Unit := do
  match ← next? with
  | none => failHere .eofWhileParsingString
  | some c =>
    if c == 34 || c == 92 || c == 47 || c == 98 || c == 102 || c == 110 || c == 114 || c == 116
    then pure ()
    else if c == 117 then do
      let _ ← readHex4
      pure ()
    else failHere .invalidEscape

/-- Pass over the rest of a literal. -/
def skipStringLoop : Nat → Reader Unit
  | 0 => do
    let _ ← peekInString
    pure ()
  | fuel + 1 => do
    let c ← peekInString
    if c == 34 then bump
    else if c == 92 then
      bump
      skipEscape
      skipStringLoop fuel
    else if c < 32 then failHere .controlCharacterWhileParsingString
    else
      bump
      skipStringLoop fuel

/-- Pass over a string literal whose opening quote was consumed. -/
def skipString : Reader Unit := do
  skipStringLoop ((← remaining) + 1)

end TransitRouting.Json
