import NativeBinding.Binary64

/-!
# The shortest decimal of a number

The reals that round to a positive number form an interval, closed when the significand is even.
The shortest decimal is a point of the coarsest grid of powers of ten that meets the interval.
Only the two grid points around the number matter; of two the nearer is taken, and the upper one
when both are equally near.
-/

set_option autoImplicit false

namespace NativeBinding.Binary64

/-- The reals that round to a positive number, over one denominator. -/
structure RoundingInterval where
  lower : Nat
  value : Nat
  upper : Nat
  denominator : Nat
  closed : Bool

/-- Neighbours lie one unit of the last place away; below a power of two they are twice as dense,
down to the least exponent. -/
def roundingInterval (x : Binary64) : RoundingInterval :=
  let value := 4 * x.significand
  let lower := if x.fraction = 0 ∧ 1 < x.scale then value - 1 else value - 2
  let closed := x.significand % 2 == 0
  if 1077 ≤ x.scale then
    let unit := 1 <<< (x.scale - 1077)
    ⟨lower * unit, value * unit, (value + 2) * unit, 1, closed⟩
  else ⟨lower, value, value + 2, 1 <<< (1077 - x.scale), closed⟩

/-- The number `digits * 10 ^ place`. -/
structure Scaled where
  digits : Nat
  place : Int
  deriving DecidableEq, Repr

/-- Numerator and denominator of the unit of a grid. -/
def gridUnit (place : Int) : Nat × Nat := (Nat.pow 10 place.toNat, Nat.pow 10 (-place).toNat)

namespace RoundingInterval

/-- Whether a multiple of a grid unit lies in the interval. -/
def contains (interval : RoundingInterval) (unit : Nat × Nat) (multiple : Nat) : Bool :=
  let point := multiple * unit.1 * interval.denominator
  if interval.closed then
    interval.lower * unit.2 ≤ point && point ≤ interval.upper * unit.2
  else interval.lower * unit.2 < point && point < interval.upper * unit.2

/-- The point of a grid to write, if one lies in the interval. -/
def onGrid? (interval : RoundingInterval) (place : Int) : Option Nat :=
  let unit := gridUnit place
  let value := interval.value * unit.2
  let step := unit.1 * interval.denominator
  let below := value / step
  match interval.contains unit below, interval.contains unit (below + 1) with
  | true, true => if 2 * (value % step) < step then some below else some (below + 1)
  | true, false => some below
  | false, true => some (below + 1)
  | false, false => none

/-- Looks at ever finer grids. -/
def firstOnGrid (interval : RoundingInterval) : Nat → Int → Scaled
  | 0, place => ⟨interval.value / interval.denominator, place⟩
  | steps + 1, place =>
      match interval.onGrid? place with
      | some digits => ⟨digits, place⟩
      | none => interval.firstOnGrid steps (place - 1)

end RoundingInterval

/-- No number reaches `10 ^ 309`, and grids of unit `10 ^ -324` are finer than the least one. -/
def shortest (x : Binary64) : Scaled := x.roundingInterval.firstOnGrid 650 309

end NativeBinding.Binary64
