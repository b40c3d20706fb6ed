/-!
# Doubles as bit patterns

A double is a sign, an 11-bit exponent field and a 52-bit fraction field. Everything the library
must get exactly right about doubles (rounding an exact quantity, the class of a value) is
computed here from those fields with natural-number arithmetic, so the result is the one IEEE 754
prescribes and the definitions can be evaluated in the logic. The length of a vector is the one
exception: it is the usual square root with a correction step, built from the IEEE operations,
and is not always the nearest double.

## What this module delivers

- `Binary64.parts` / `Binary64.ofParts`: the three fields of a double and back.
- `Binary64.isNaN`, `isInfinite`, `isFinite`, `isZero`, read off the fields.
- `Binary64.round neg m e inexact`: the double nearest to `m · 2^e` (or to a quantity just above
  it), ties to the even significand, overflow to infinity, gradual underflow.
- `Binary64.ofRatio`, `Binary64.ofNat`, `Binary64.powerOfTen`: exact quantities rounded once.
- `Binary64.hypot`: the length `√(a² + b²)` by a square root with one correction step,
  infinite if either side is, else not-a-number if either side is.
-/

set_option autoImplicit false

namespace TransitRouting.Binary64

/-- The sign, the biased exponent field (below 2048) and the fraction field (below 2^52). -/
structure Parts where
  negative : Bool
  field : Nat
  fraction : Nat
deriving Repr, DecidableEq

/-- Split a double into its fields. -/
def parts (x : Float) : Parts :=
  let b := x.toBits.toNat
  { negative := b / Nat.pow 2 63 = 1, field := b / Nat.pow 2 52 % 2048,
    fraction := b % Nat.pow 2 52 }

/-- Assemble a double from its fields. -/
def ofParts (negative : Bool) (field fraction : Nat) : Float :=
  Float.ofBits
    (UInt64.ofNat ((if negative then Nat.pow 2 63 else 0) + field * Nat.pow 2 52 + fraction))

/-- The quiet not-a-number with a clear sign bit and no payload. -/
def nan : Float := ofParts false 2047 (Nat.pow 2 51)

/-- Infinity of the given sign. -/
def infinity (negative : Bool) : Float := ofParts negative 2047 0

/-- Zero of the given sign. -/
def zero (negative : Bool) : Float := ofParts negative 0 0

/-- Not a number: the exponent field is full and the fraction is not zero. -/
def isNaN (x : Float) : Bool := (parts x).field = 2047 && (parts x).fraction != 0

/-- An infinity of either sign. -/
def isInfinite (x : Float) : Bool := (parts x).field = 2047 && (parts x).fraction = 0

/-- Neither an infinity nor not-a-number. -/
def isFinite (x : Float) : Bool := (parts x).field != 2047

/-- Zero of either sign. -/
def isZero (x : Float) : Bool := (parts x).field = 0 && (parts x).fraction = 0

/-- The sign bit. -/
def isNegative (x : Float) : Bool := (parts x).negative

/-- The integer significand of a finite double: the fraction with the hidden bit when normal. -/
def Parts.significand (p : Parts) : Nat :=
  if p.field = 0 then p.fraction else p.fraction + Nat.pow 2 52

/-- The power of two the significand is scaled by. -/
def Parts.exponent (p : Parts) : Int :=
  (if p.field = 0 then (1 : Int) else (p.field : Int)) - 1075

/-- The significand after dropping `s` low bits, rounded to nearest with ties to even; a
discarded quantity below the lowest bit of `m` (flagged by `inexact`) breaks a tie upwards. -/
def roundShift (m s : Nat) (inexact : Bool) : Nat :=
  if s = 0 then m
  else
    let kept := m / Nat.pow 2 s
    let rest := m % Nat.pow 2 s
    let half := Nat.pow 2 (s - 1)
    if rest > half || (rest == half && (inexact || kept % 2 == 1)) then kept + 1 else kept

/-- The double nearest to `m · 2^e`, or to a quantity a little above it when `inexact` is set
(callers then give `m` at least two bits below the last kept one). Ties go to the even
significand, magnitudes beyond the largest double become infinite and tiny ones subnormal. -/
def round (negative : Bool) (m : Nat) (e : Int) (inexact : Bool) : Float :=
  if m = 0 then zero negative
  else
    let top : Int := (Nat.log2 m : Int) + e
    let quantum : Int := max (top - 52) (-1074)
    let shift : Int := quantum - e
    let q : Nat :=
      if shift ≤ 0 then m * Nat.pow 2 (-shift).toNat else roundShift m shift.toNat inexact
    let q' := if q ≥ Nat.pow 2 53 then q / 2 else q
    let quantum' := if q ≥ Nat.pow 2 53 then quantum + 1 else quantum
    if q' ≥ Nat.pow 2 52 then
      let field := quantum' + 1075
      if field ≥ 2047 then infinity negative
      else ofParts negative field.toNat (q' - Nat.pow 2 52)
    else ofParts negative 0 q'

/-- The double nearest to `num / den` (zero when either is zero). -/
def ofRatio (negative : Bool) (num den : Nat) : Float :=
  if num = 0 || den = 0 then zero negative
  else
    let s := (64 + Nat.log2 den) - Nat.log2 num
    let scaled := num * Nat.pow 2 s
    round negative (scaled / den) (-(s : Int)) (scaled % den != 0)

/-- The double nearest to a natural number. -/
def ofNat (n : Nat) : Float := round false n 0 false

/-- The double nearest to `10^k`. -/
def powerOfTen (k : Nat) : Float := ofRatio false (Nat.pow 10 k) 1

/-- The double `2^e`. -/
def twoPow (e : Int) : Float := round false 1 e false

/-- The length `√(x² + y²)` for `x ≥ y ≥ 0`, with the squares neither overflowing nor
underflowing: the square root of the rounded sum of squares, then one correction step that
takes out most of the error of the two roundings under the root. The correction estimates
`(h² - x² - y²) / 2h` from `h - x` (or `h - y` when `y` is more than half of `h`), where the
products lose nothing that matters. The result is within one unit in the last place, and
almost always the nearest double. -/
def lengthStep (x y : Float) : Float :=
  let h := Float.sqrt (x * x + y * y)
  let (t1, t2) :=
    if h ≤ 2 * y then
      let delta := h - y
      (x * (2 * delta - x), (delta - 2 * (x - y)) * delta)
    else
      let delta := h - x
      (2 * delta * (x - 2 * y), (4 * delta - y) * y + delta * delta)
  h - (t1 + t2) / (2 * h)

/-- The length `√(a² + b²)`: infinite when either side is infinite, else not-a-number when
either side is. When the shorter side is below `2^-54` of the longer one the length is their
sum (which rounds to the longer side); otherwise very long or very short sides are first
scaled by `2^∓600`, so the squares stay in range, and scaled back after `lengthStep`. -/
def hypot (a b : Float) : Float :=
  if isInfinite a || isInfinite b then infinity false
  else if isNaN a || isNaN b then nan
  else
    let x := a.abs
    let y := b.abs
    let long := if x < y then y else x
    let short := if x < y then x else y
    let scale := twoPow (-600)
    let negligible := twoPow (-54)
    if long > twoPow 511 then
      if short ≤ long * negligible then long + short
      else lengthStep (long * scale) (short * scale) / scale
    else if short < twoPow (-511) then
      if long ≥ short / negligible then long + short
      else lengthStep (long / scale) (short / scale) * scale
    else if short ≤ long * negligible then long + short
    else lengthStep long short

end TransitRouting.Binary64
