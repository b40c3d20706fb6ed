import TransitRouting.Number.Shortest

/-!
# Writing doubles as text

The digits of a double come from `Decimal.ofFloat`; where they stand is a matter of layout.
A layout says which decimal-point positions are written without an exponent, what follows a
whole number, how an exponent is marked and how the non-finite values are spelled. Three layouts
are used: numbers in JSON documents, numbers inside messages, and numbers inside messages that
must show a decimal point.

## What this module delivers

- `Layout` and `Layout.render`.
- `Layout.json`: positional for point positions `-5 < p ≤ 16`, a whole number ends in `.0`,
  else `d.ddde±x`; zero is `0.0`.
- `Layout.display`: always positional, no `.0`; `NaN`, `inf`, `-inf`; `-0` for negative zero.
- `Layout.pointed`: as `display`, but a finite number without a point gains `.0`.
-/

set_option autoImplicit false

namespace TransitRouting

/-- Where the digits of a double stand and how the special values are spelled. -/
structure Layout where
  /-- Point positions `p` written without an exponent: `lowest < p ≤ highest`; `none` writes
  every number positionally. The point position is the count of digits before the point. -/
  positional : Option (Int × Int)
  /-- Appended to a number written positionally without a fractional part. -/
  wholeTail : String
  /-- Marks the exponent. -/
  exponentMark : String
  /-- Spelling of not-a-number. -/
  nanText : String
  /-- Spelling of positive infinity; negative infinity takes a minus sign before it. -/
  infinityText : String

namespace Layout

/-- Numbers in JSON documents: shortest digits, positional for point positions from -4 to 16. -/
def json : Layout :=
  { positional := some (-5, 16), wholeTail := ".0", exponentMark := "e",
    nanText := "null", infinityText := "null" }

/-- Numbers in messages: shortest digits, always positional, no `.0`. -/
def display : Layout :=
  { positional := none, wholeTail := "", exponentMark := "e",
    nanText := "NaN", infinityText := "inf" }

/-- Numbers in messages that always show a decimal point. -/
def pointed : Layout := { display with wholeTail := ".0" }

/-- `n` zeros. -/
def zeros (n : Nat) : String := String.ofList (List.replicate n '0')

/-- The digits `s` of a positive number with point position `p` written positionally. -/
def positionalText (L : Layout) (s : String) (exponent : Int) (p : Int) : String :=
  if exponent ≥ 0 then s ++ zeros exponent.toNat ++ L.wholeTail
  else if p > 0 then String.ofList (s.toList.take p.toNat) ++ "." ++
    String.ofList (s.toList.drop p.toNat)
  else "0." ++ zeros (-p).toNat ++ s

/-- The digits `s` of a positive number with point position `p` written with an exponent. -/
def exponentText (L : Layout) (s : String) (p : Int) : String :=
  let mantissa := match s.toList with
    | [] => ""
    | [d] => String.singleton d
    | d :: rest => String.singleton d ++ "." ++ String.ofList rest
  mantissa ++ L.exponentMark ++ toString (p - 1)

/-- Write a double in this layout. -/
def render (L : Layout) (x : Float) : String :=
  if Binary64.isNaN x then L.nanText
  else
    let sign := if Binary64.isNegative x then "-" else ""
    if Binary64.isInfinite x then sign ++ L.infinityText
    else if Binary64.isZero x then sign ++ "0" ++ L.wholeTail
    else
      let d := Decimal.ofFloat x
      let s := toString d.digits
      let p : Int := (s.length : Int) + d.exponent
      let body := match L.positional with
        | none => L.positionalText s d.exponent p
        | some (lowest, highest) =>
          if lowest < p && p ≤ highest then L.positionalText s d.exponent p
          else L.exponentText s p
      sign ++ body

end Layout

end TransitRouting
