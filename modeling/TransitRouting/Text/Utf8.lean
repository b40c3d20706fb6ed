/-!
# UTF-8 validation with a reported position

Byte strings that should hold text are checked character by character. The first character
that is not well-formed UTF-8 (RFC 3629 §4) stops the check, which reports how many bytes before
it were valid and how long the bad sequence is: one, two or three bytes, counting the lead byte
and the continuation bytes that were still acceptable. A sequence that is cut short by the end
of the input has no length; it is reported as incomplete.

Which second byte a lead byte admits follows the RFC: after `E0` only `A0..BF` (no overlong
forms), after `ED` only `80..9F` (no surrogates), after `F0` only `90..BF`, after `F4` only
`80..8F` (nothing past U+10FFFF), and `80..BF` otherwise.

## What this module delivers

- `Utf8Error` with `Utf8Error.message`.
- `Utf8.check bytes`: `none` for valid text, else the first error.
- `Utf8.decode bytes`: the text, or the first error.
-/

set_option autoImplicit false

namespace TransitRouting

/-- Where UTF-8 validation failed: bytes valid before the bad sequence and its length, if it
was not cut short by the end of the input. -/
structure Utf8Error where
  validUpTo : Nat
  errorLength : Option Nat
deriving Repr, DecidableEq

/-- The text an error is reported with. -/
def Utf8Error.message (e : Utf8Error) : String :=
  match e.errorLength with
  | some n =>
    "invalid utf-8 sequence of " ++ toString n ++ " bytes from index " ++ toString e.validUpTo
  | none => "incomplete utf-8 byte sequence from index " ++ toString e.validUpTo

namespace Utf8

/-- A continuation byte, `80..BF`. -/
def isTail (b : UInt8) : Bool := 0x80 ≤ b && b ≤ 0xBF

/-- The bytes a character starting with `lead` has in all: 0 for a byte that cannot lead. -/
def width (lead : UInt8) : Nat :=
  if lead < 0x80 then 1
  else if lead < 0xC2 then 0
  else if lead < 0xE0 then 2
  else if lead < 0xF0 then 3
  else if lead < 0xF5 then 4
  else 0

/-- Whether `b` may follow `lead` as the second byte of a character. -/
def secondFits (lead b : UInt8) : Bool :=
  if lead = 0xE0 then 0xA0 ≤ b && b ≤ 0xBF
  else if lead = 0xED then 0x80 ≤ b && b ≤ 0x9F
  else if lead = 0xF0 then 0x90 ≤ b && b ≤ 0xBF
  else if lead = 0xF4 then 0x80 ≤ b && b ≤ 0x8F
  else isTail b

/-- Read one character at the front: the continuation bytes it takes, or the error length
(`none` when the input ends inside it). -/
def character (lead : UInt8) (rest : List UInt8) : Except (Option Nat) Nat :=
  match width lead with
  | 1 => .ok 0
  | 2 =>
    match rest with
    | [] => .error none
    | b :: _ => if isTail b then .ok 1 else .error (some 1)
  | 3 =>
    match rest with
    | [] => .error none
    | b :: rest =>
      if !secondFits lead b then .error (some 1)
      else
        match rest with
        | [] => .error none
        | c :: _ => if isTail c then .ok 2 else .error (some 2)
  | 4 =>
    match rest with
    | [] => .error none
    | b :: rest =>
      if !secondFits lead b then .error (some 1)
      else
        match rest with
        | [] => .error none
        | c :: rest =>
          if !isTail c then .error (some 2)
          else
            match rest with
            | [] => .error none
            | d :: _ => if isTail d then .ok 3 else .error (some 3)
  | _ => .error (some 1)

/-- Check the bytes from index `index` on. -/
def checkFrom (index : Nat) : List UInt8 → Option Utf8Error
  | [] => none
  | lead :: rest =>
    match character lead rest with
    | .ok k => checkFrom (index + 1 + k) (rest.drop k)
    | .error len => some { validUpTo := index, errorLength := len }
termination_by bytes => bytes.length
decreasing_by simp only [List.length_drop, List.length_cons]; omega

/-- The first UTF-8 error in the bytes, or `none` when they are valid text. -/
def check (bytes : List UInt8) : Option Utf8Error := checkFrom 0 bytes

/-- The text the bytes spell, or the first UTF-8 error in them. -/
def decode (bytes : List UInt8) : Except Utf8Error String :=
  match check bytes with
  | some e => .error e
  | none => .ok ((String.fromUTF8? ⟨bytes.toArray⟩).getD "")

end Utf8

end TransitRouting
