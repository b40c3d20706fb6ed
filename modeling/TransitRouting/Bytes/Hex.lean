/-!
# Hexadecimal text for byte strings

Byte strings (id-store files, request ids, wire messages) travel as hexadecimal text. Reading
accepts either case and skips blanks; writing uses lowercase digits, two per byte, high half
first.

## What this module delivers

- `Hex.encode bytes`: two lowercase digits per byte.
- `Hex.decode text`: the bytes back, or an `Hex.Error`: an odd number of digits, or a character
  that is no digit. The count of digits is checked first.
-/

set_option autoImplicit false

namespace TransitRouting.Hex

/-- Why a text is no hexadecimal byte string. -/
inductive Error where
  /-- The digits, blanks left out, are odd in number. -/
  | oddLength
  /-- A character that is neither a digit nor a blank. -/
  | badDigit
deriving Repr, DecidableEq

/-- The text each reason is reported with. -/
def Error.message : Error → String
  | .oddLength => "odd hex length"
  | .badDigit => "bad hex"

/-- The value of one hexadecimal digit of either case. -/
def digitValue? (c : Char) : Option Nat :=
  if '0' ≤ c ∧ c ≤ '9' then some (c.toNat - '0'.toNat)
  else if 'a' ≤ c ∧ c ≤ 'f' then some (c.toNat - 'a'.toNat + 10)
  else if 'A' ≤ c ∧ c ≤ 'F' then some (c.toNat - 'A'.toNat + 10)
  else none

/-- The lowercase digit of a value below sixteen. -/
def digitChar (n : Nat) : Char :=
  if n < 10 then Char.ofNat ('0'.toNat + n) else Char.ofNat ('a'.toNat + n - 10)

/-- Pairs of digits, high half first, become bytes. -/
def pairsToBytes : List Char → Except Error (List UInt8)
  | [] => .ok []
  | [_] => .error .oddLength
  | hi :: lo :: rest =>
    match digitValue? hi, digitValue? lo with
    | some h, some l => (pairsToBytes rest).map (fun bs => (h * 16 + l).toUInt8 :: bs)
    | _, _ => .error .badDigit

/-- Read hexadecimal text: blanks are skipped, the digit count must be even, and every other
character must be a digit. -/
def decode (text : String) : Except Error (List UInt8) :=
  let digits := text.toList.filter (fun c => !c.isWhitespace)
  if digits.length % 2 = 1 then .error .oddLength else pairsToBytes digits

/-- Write bytes as lowercase hexadecimal text. -/
def encode (bytes : List UInt8) : String :=
  String.ofList (bytes.flatMap fun b => [digitChar (b.toNat / 16), digitChar (b.toNat % 16)])

end TransitRouting.Hex
