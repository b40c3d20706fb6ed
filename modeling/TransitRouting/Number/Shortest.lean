import TransitRouting.Number.Binary64

/-!
# The shortest decimal of a double

Every finite nonzero double `v = m · 2^q` owns the interval of reals that round to it: half a
gap to each neighbour, the ends included exactly when `m` is even. Its shortest decimal is found
by trying coarser decimal grids first: the first grid `10^E` with a point in the interval wins,
and of the points there the one nearest to `v` is taken. All comparisons are exact
natural-number arithmetic on the four-fold scaled interval.

## What this module delivers

- `Decimal`: a numeral `digits · 10^exponent`.
- `Decimal.gridPoint? lo v hi t E inclusive`: the grid point chosen on grid `10^E`, if any.
- `Decimal.ofFloat x`: the shortest decimal of a finite nonzero double, nearest on ties of
  length.
-/

set_option autoImplicit false

namespace TransitRouting

/-- A decimal numeral `digits · 10^exponent`. -/
structure Decimal where
  digits : Nat
  exponent : Int
deriving Repr, DecidableEq

namespace Decimal

/-- Multiplier and divisor that turn a quantity `X · 2^t` into units of `10^E`. -/
def gridScale (t E : Int) : Nat × Nat :=
  (Nat.pow 2 (max t 0).toNat * Nat.pow 10 (max (-E) 0).toNat,
    Nat.pow 2 (max (-t) 0).toNat * Nat.pow 10 (max E 0).toNat)

/-- On the grid `10^E`, the multiple nearest to `v · 2^t` among those in the interval from
`lo · 2^t` to `hi · 2^t` (ends included when `inclusive`), if the interval holds one. -/
def gridPoint? (lo v hi : Nat) (t E : Int) (inclusive : Bool) : Option Nat :=
  let (mul, den) := gridScale t E
  let nlo := lo * mul
  let nhi := hi * mul
  let nv := v * mul
  let first := if inclusive then (nlo + den - 1) / den else nlo / den + 1
  let last := if inclusive then nhi / den else (nhi + den - 1) / den - 1
  if first ≤ last && 1 ≤ last then
    let nearest := (2 * nv + den) / (2 * den)
    some (max first (min last nearest))
  else none

/-- Try the grids `10^E`, `10^(E-1)`, … in turn; the first with a point in the interval gives
the numeral. -/
def searchGrids (lo v hi : Nat) (t : Int) (inclusive : Bool) : Nat → Int → Decimal
  | 0, _ => ⟨0, 0⟩
  | fuel + 1, E =>
    match gridPoint? lo v hi t E inclusive with
    | some d => ⟨d, E⟩
    | none => searchGrids lo v hi t inclusive fuel (E - 1)

/-- The shortest decimal that reads back as the finite nonzero double `x` (sign ignored); of two
such numerals of one length the nearer to `x`. -/
def ofFloat (x : Float) : Decimal :=
  let p := Binary64.parts x
  let m := p.significand
  let below := if p.fraction = 0 && p.field > 1 then 1 else 2
  let lo := 4 * m - below
  let v := 4 * m
  let hi := 4 * m + 2
  let t := p.exponent - 2
  let bits : Int := ((Nat.log2 hi + 1 : Nat) : Int) + t
  let start : Int := bits * 30103 / 100000 + 1
  searchGrids lo v hi t (m % 2 == 0) 64 start

end Decimal

end TransitRouting
