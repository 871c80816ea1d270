import NativeBinding.Binary64.Shortest
import NativeBinding.Text.Decimal

/-!
# Number texts

Both formats write the shortest scaled. The plain one never uses an exponent and shows whole
numbers without a point; the dumped one keeps a digit behind the point and changes to an exponent
when the first digit stands outside the places `-4` to `15`.
-/

set_option autoImplicit false

namespace NativeBinding.Binary64

structure NumberFormat where
  /-- Where the first digit of a positional text may stand; `none` for anywhere. -/
  positional : Option (Int × Int)
  /-- Whether whole numbers end in `.0`. -/
  keepsPoint : Bool

def NumberFormat.plain : NumberFormat := ⟨none, false⟩

def NumberFormat.dumped : NumberFormat := ⟨some (-4, 15), true⟩

namespace Scaled

def chars (scaled : Scaled) : List Char := Decimal.natChars scaled.digits

/-- The power of ten of the first digit. -/
def leading (scaled : Scaled) : Int := scaled.place + scaled.chars.length - 1

def positionalChars (keepsPoint : Bool) (scaled : Scaled) : List Char :=
  let digits := scaled.chars
  if 0 ≤ scaled.place then
    digits ++ List.replicate scaled.place.toNat '0' ++ if keepsPoint then ['.', '0'] else []
  else
    let behind := (-scaled.place).toNat
    let padded := List.replicate (behind + 1 - digits.length) '0' ++ digits
    padded.take (padded.length - behind) ++ '.' :: padded.drop (padded.length - behind)

def exponentChars (scaled : Scaled) : List Char :=
  let mantissa := match scaled.chars with
    | first :: second :: rest => first :: '.' :: second :: rest
    | digits => digits
  mantissa ++ 'e' :: Decimal.intChars scaled.leading

end Scaled

def magnitudeChars (format : NumberFormat) (scaled : Scaled) : List Char :=
  match format.positional with
  | some (first, last) =>
      if first ≤ scaled.leading ∧ scaled.leading ≤ last then
        scaled.positionalChars format.keepsPoint
      else scaled.exponentChars
  | none => scaled.positionalChars format.keepsPoint

def chars (format : NumberFormat) (x : Binary64) : List Char :=
  if x.isNaN then ['N', 'a', 'N']
  else
    let sign := if x.isNegative then ['-'] else []
    let magnitude :=
      if x.isInfinite then ['i', 'n', 'f']
      else if x.isZero then magnitudeChars format ⟨0, 0⟩
      else magnitudeChars format x.shortest
    sign ++ magnitude

/-- Positional, for documents. -/
def text (x : Binary64) : String := String.ofList (chars .plain x)

/-- Told apart from whole numbers by its point or exponent. -/
def dump (x : Binary64) : String := String.ofList (chars .dumped x)

end NativeBinding.Binary64
