/-!
# Binary floating point numbers of 64 bits

A number is its bits: sign, eleven bits of exponent, fifty-two of fraction. Its magnitude is
`significand * 2 ^ (scale - 1075)`. Comparing, converting to and from integers and printing are
exact integer arithmetic on these parts.
-/

set_option autoImplicit false

namespace NativeBinding

structure Binary64 where
  bits : UInt64
  deriving DecidableEq, Repr, Inhabited

namespace Binary64

def zero : Binary64 := ⟨0⟩

def isNegative (x : Binary64) : Bool := 1 <<< 63 ≤ x.bits.toNat

def exponentField (x : Binary64) : Nat := (x.bits.toNat >>> 52) % (1 <<< 11)

def fraction (x : Binary64) : Nat := x.bits.toNat % (1 <<< 52)

def isNaN (x : Binary64) : Bool := x.exponentField = 2047 ∧ x.fraction ≠ 0

def isInfinite (x : Binary64) : Bool := x.exponentField = 2047 ∧ x.fraction = 0

/-- Numbers with the least exponent have no implicit leading bit. -/
def significand (x : Binary64) : Nat :=
  if x.exponentField = 0 then x.fraction else (1 <<< 52) + x.fraction

def scale (x : Binary64) : Nat := max x.exponentField 1

def isZero (x : Binary64) : Bool := x.exponentField = 0 ∧ x.fraction = 0

/-- Equality of numbers: a NaN equals nothing, and the two zeros are equal. -/
def equals (x y : Binary64) : Bool :=
  !x.isNaN && !y.isNaN && (x == y || (x.isZero && y.isZero))

/-- The whole part of the magnitude. -/
def wholePart (x : Binary64) : Nat :=
  if 1075 ≤ x.scale then x.significand <<< (x.scale - 1075)
  else x.significand >>> (1075 - x.scale)

/-- Drops the fraction. What lies outside the signed 64-bit words goes to the nearest of them,
and a NaN to zero. -/
def truncate (x : Binary64) : Int64 :=
  if x.isNaN then 0
  else if x.isNegative then Int64.ofInt (max (-(x.wholePart : Int)) Int64.minValue.toInt)
  else Int64.ofInt (min (x.wholePart : Int) Int64.maxValue.toInt)

/-- `n / 2 ^ shift`, a half going to the even neighbour. -/
def shiftRounded (n shift : Nat) : Nat :=
  let unit := 1 <<< shift
  let quotient := n / unit
  let remainder := n % unit
  if 2 * remainder > unit ∨ (2 * remainder = unit ∧ quotient % 2 = 1) then quotient + 1
  else quotient

/-- The bits of a positive whole number below `2 ^ 1023`. Rounding up to the next power of two
carries from the fraction into the exponent, which is the right result. -/
def magnitudeBits (n : Nat) : Nat :=
  let top := n.log2
  let significand := if top ≤ 52 then n <<< (52 - top) else shiftRounded n (top - 52)
  ((1023 + top) <<< 52) + (significand - (1 <<< 52))

/-- The nearest number; of two the one with an even significand. -/
def ofInt64 (n : Int64) : Binary64 :=
  let magnitude := n.toInt.natAbs
  if magnitude = 0 then zero
  else ⟨UInt64.ofNat (magnitudeBits magnitude + if n.toInt < 0 then 1 <<< 63 else 0)⟩

end Binary64

end NativeBinding
