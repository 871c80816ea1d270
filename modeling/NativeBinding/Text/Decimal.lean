/-!
# Decimal integers

Writing uses the fewest digits and a minus sign for negative numbers. Reading accepts one optional
sign and then decimal digits only, at least one, with any number of leading zeros. The number is
read digit by digit, behind a minus sign downwards, and refused where it leaves the signed words of
64 bits.
-/

set_option autoImplicit false

namespace NativeBinding.Decimal

def natChars (n : Nat) : List Char := Nat.toDigits 10 n

def intChars : Int → List Char
  | .ofNat n => natChars n
  | .negSucc n => '-' :: natChars (n + 1)

def ofInt (n : Int) : String := String.ofList (intChars n)

/-- The word for a number, if 64 bits with a sign hold it. -/
def word? (n : Int) : Option Int64 :=
  if Int64.minValue.toInt ≤ n ∧ n ≤ Int64.maxValue.toInt then some (Int64.ofInt n) else none

def digit? (c : Char) : Option Nat :=
  if c.isDigit then some (c.toNat - '0'.toNat) else none

/-- One more digit: the word times ten, and then the digit is added or, in a negative number, taken
off. Neither step may leave the words. -/
def append? (negative : Bool) (word : Int64) (c : Char) : Option Int64 := do
  let digit ← digit? c
  let tens ← word? (word.toInt * 10)
  word? (if negative then tens.toInt - digit else tens.toInt + digit)

def readDigits? (negative : Bool) (digits : List Char) : Option Int64 :=
  if digits = [] then none else digits.foldlM (append? negative) 0

def readChars? : List Char → Option Int64
  | '-' :: digits => readDigits? true digits
  | '+' :: digits => readDigits? false digits
  | digits => readDigits? false digits

def read? (text : String) : Option Int64 := readChars? text.toList

end NativeBinding.Decimal
