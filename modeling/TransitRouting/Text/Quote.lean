import TransitRouting.Text.Unicode

/-!
# Quoting text for diagnostics

Error messages show offending text between double quotes, with every character that could be
misread written as an escape: the null, tab, carriage return and newline characters, the
backslash and the double quote get a backslash form, and characters that extend a grapheme
cluster or are not printable are written `\u{h}` with the code point in lowercase hexadecimal
without leading zeros. Everything else stands as it is.

## What this module delivers

- `Quote.escapeChar c`: the written form of one character.
- `Quote.debug s`: the quoted text.
-/

set_option autoImplicit false

namespace TransitRouting.Quote

/-- A digit of lowercase hexadecimal. -/
def hexDigit (d : Nat) : Char :=
  if d < 10 then Char.ofNat (48 + d) else Char.ofNat (87 + d)

/-- The lowercase hexadecimal digits of a number, without leading zeros. -/
def hex (n : Nat) : String :=
  if n < 16 then (hexDigit n).toString
  else hex (n / 16) ++ (hexDigit (n % 16)).toString
termination_by n
decreasing_by omega

/-- The escape of a code point by its number. -/
def unicodeEscape (c : Char) : String := "\\u\x7b" ++ hex c.toNat ++ "\x7d"

/-- The written form of one character. -/
def escapeChar (c : Char) : String :=
  if c = '\x00' then "\\0"
  else if c = '\t' then "\\t"
  else if c = '\r' then "\\r"
  else if c = '\n' then "\\n"
  else if c = '\\' then "\\\\"
  else if c = '"' then "\\\""
  else if Unicode.isGraphemeExtend c then unicodeEscape c
  else if Unicode.isPrintable c then c.toString
  else unicodeEscape c

/-- The text between double quotes, characters escaped as needed. -/
def debug (s : String) : String :=
  "\"" ++ String.join (s.toList.map escapeChar) ++ "\""

end TransitRouting.Quote
