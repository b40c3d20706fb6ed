import TransitRouting.Json.Cursor
import TransitRouting.Number.Layout

/-!
# Numbers in JSON text

A JSON number is read into one of three shapes: an unsigned integer that fits 64 bits, a
negative integer that fits 64 bits, or a double. Digits are gathered into a 64-bit significand;
digits that no longer fit are dropped, those before the point raising the decimal exponent.
The double is then the significand rounded to a double and scaled once by the double nearest
to the power of ten (several times by `10^308` for huge negative exponents). This is one
rounding more than the exact decimal would need, so a long numeral can land one double away
from the nearest one; that is the rule.

## What this module delivers

- `Json.Number` and `Number.unexpected`, the words a number is named with in type errors.
- `Json.scaleDecimal`: the significand and decimal exponent to a double, or out of range.
- `Json.readInteger positive`: the number after its optional minus sign, with the reader's
  errors and their places.
- `Json.readNumber`: a number with its sign.
-/

set_option autoImplicit false

namespace TransitRouting.Json

/-- A number as read: an unsigned integer below 2^64, a negative integer from -2^63, or a
double. -/
inductive Number where
  | unsigned (n : Nat)
  | negative (n : Int)
  | float (x : Float)

/-- The largest unsigned 64-bit integer. -/
def u64Max : Nat := 18446744073709551615

/-- The largest signed 32-bit integer. -/
def i32Max : Int := 2147483647

/-- Clamp to the signed 32-bit range. -/
def clampI32 (e : Int) : Int := max (-2147483648) (min e i32Max)

/-- How a number is named in a type error: integers as such, doubles with a decimal point. -/
def Number.unexpected : Number → String
  | .unsigned n => "integer `" ++ toString n ++ "`"
  | .negative n => "integer `" ++ toString n ++ "`"
  | .float x => "floating point `" ++ Layout.pointed.render x ++ "`"

/-- Scale by the double nearest to `10^|e|` in one step when `|e| ≤ 308`; otherwise, for a
nonzero value and a negative exponent, divide by `10^308` and go on. -/
def scaleLoop : Nat → Float → Int → Except Problem Float
  | 0, f, _ => .ok f
  | fuel + 1, f, e =>
    let k := e.natAbs
    if k < 309 then
      if e ≥ 0 then
        let g := f * Binary64.powerOfTen k
        if Binary64.isInfinite g then .error .numberOutOfRange else .ok g
      else .ok (f / Binary64.powerOfTen k)
    else if Binary64.isZero f then .ok f
    else if e ≥ 0 then .error .numberOutOfRange
    else scaleLoop fuel (f / Binary64.powerOfTen 308) (e + 308)

/-- The double for `significand · 10^exponent` (negated unless `positive`): the significand
rounded to a double, then scaled. -/
def scaleDecimal (positive : Bool) (significand : Nat) (exponent : Int) : Except Problem Float :=
  match scaleLoop 8 (Binary64.ofNat significand) exponent with
  | .ok f => .ok (if positive then f else -f)
  | .error p => .error p

/-- Scale, failing at the current index when out of range. -/
def scaleHere (positive : Bool) (significand : Nat) (exponent : Int) : Reader Float :=
  match scaleDecimal positive significand exponent with
  | .ok f => pure f
  | .error p => failHere p

/-- The value of a digit byte. -/
def digitValue (b : UInt8) : Nat := b.toNat - 48

/-- Skip digits; the number read so far is zero or its exponent underflowed. -/
def skipDigits : Reader Unit := do
  let input ← read
  set (skipDigitsFrom input (← get))

/-- Exponent digits after the first: they accumulate until the exponent would pass the 32-bit
range, which ends the number as out of range (a nonzero significand and a positive exponent)
or as zero. -/
def exponentDigits (positive positiveExp : Bool) (significand : Nat) :
    Nat → Int → Reader (Option Int)
  | 0, e => pure (some e)
  | fuel + 1, e => do
    let c ← peekOrZero
    if isDigit c then
      bump
      let e' := e * 10 + digitValue c
      if e' > i32Max then
        if significand != 0 && positiveExp then failHere .numberOutOfRange
        else
          skipDigits
          return none
      else exponentDigits positive positiveExp significand fuel e'
    else pure (some e)

/-- An exponent part, from its `e` on; the significand and the exponent so far are given. -/
def readExponent (positive : Bool) (significand : Nat) (start : Int) : Reader Float := do
  bump
  let c ← peekOrZero
  let positiveExp ← if c == 43 then bump *> pure true
    else if c == 45 then bump *> pure false
    else pure true
  match ← next? with
  | none => failHere .eofWhileParsingValue
  | some c =>
    if !isDigit c then failHere .invalidNumber
    else
      match ← exponentDigits positive positiveExp significand (← remaining) (digitValue c) with
      | none => pure (if positive then Binary64.zero false else Binary64.zero true)
      | some e =>
        let final := if positiveExp then clampI32 (start + e) else clampI32 (start - e)
        scaleHere positive significand final

/-- Digits after an overflowed significand are dropped; an exponent may follow. -/
def afterOverflow (positive : Bool) (significand : Nat) (exponent : Int) : Reader Float := do
  skipDigits
  let c ← peekOrZero
  if c == 101 || c == 69 then readExponent positive significand exponent
  else scaleHere positive significand exponent

/-- Fraction digits: each one kept lowers the exponent; the first that does not fit ends the
gathering (`none` then carries the exponent reached). -/
def fractionDigits : Nat → Nat → Int → Reader (Nat × Int × Bool)
  | 0, s, e => pure (s, e, false)
  | fuel + 1, s, e => do
    let c ← peekOrZero
    if isDigit c then
      if s * 10 + digitValue c > u64Max then pure (s, e, true)
      else
        bump
        fractionDigits fuel (s * 10 + digitValue c) (e - 1)
    else pure (s, e, false)

/-- A fraction part, from its point on. At least one digit must follow the point. -/
def readFraction (positive : Bool) (significand : Nat) (before : Int) : Reader Float := do
  bump
  let (s, after, overflowed) ← fractionDigits (← remaining) significand 0
  if overflowed then afterOverflow positive s (before + after)
  else if after == 0 then
    match ← peek? with
    | some _ => failAhead .invalidNumber
    | none => failAhead .eofWhileParsingValue
  else
    let c ← peekOrZero
    if c == 101 || c == 69 then readExponent positive s (before + after)
    else scaleHere positive s (before + after)

/-- Digits of an integer part that no longer fit: each raises the exponent. -/
def longDigits (positive : Bool) (significand : Nat) : Nat → Int → Reader Float
  | 0, e => scaleHere positive significand e
  | fuel + 1, e => do
    let c ← peekOrZero
    if isDigit c then
      bump
      longDigits positive significand fuel (e + 1)
    else if c == 46 then readFraction positive significand e
    else if c == 101 || c == 69 then readExponent positive significand e
    else scaleHere positive significand e

/-- What follows the integer part: a fraction, an exponent, or the end of the number. A negative
integer that fits 64 bits stays an integer; minus zero and larger magnitudes become doubles. -/
def numberTail (positive : Bool) (significand : Nat) : Reader Number := do
  let c ← peekOrZero
  if c == 46 then return .float (← readFraction positive significand 0)
  else if c == 101 || c == 69 then return .float (← readExponent positive significand 0)
  else if positive then return .unsigned significand
  else if significand = 0 || significand > Nat.pow 2 63 then
    return .float (-(Binary64.ofNat significand))
  else return .negative (-(significand : Int))

/-- Integer digits after the first: gathered while they fit 64 bits. -/
def integerDigits (positive : Bool) : Nat → Nat → Reader Number
  | 0, s => numberTail positive s
  | fuel + 1, s => do
    let c ← peekOrZero
    if isDigit c then
      if s * 10 + digitValue c > u64Max then
        return .float (← longDigits positive s (← remaining) 0)
      else
        bump
        integerDigits positive fuel (s * 10 + digitValue c)
    else numberTail positive s

/-- A number after its optional minus sign: one leading zero at most, then digits. -/
def readInteger (positive : Bool) : Reader Number := do
  match ← next? with
  | none => failHere .eofWhileParsingValue
  | some c =>
    if c == 48 then
      if isDigit (← peekOrZero) then failAhead .invalidNumber
      else numberTail positive 0
    else if isDigit c then integerDigits positive (← remaining) (digitValue c)
    else failHere .invalidNumber

/-- A number with its optional minus sign. -/
def readNumber : Reader Number := do
  if (← peekOrZero) == 45 then
    bump
    readInteger false
  else readInteger true

end TransitRouting.Json
