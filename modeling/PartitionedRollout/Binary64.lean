/-
# PartitionedRollout.Binary64 -- 64-bit binary floating point on exact fractions

A floating-point number is kept as its 64 bits, and arithmetic is done on exact nonnegative
fractions of natural numbers: `nearest` replaces a fraction by the nearest one with a
significand of 53 bits, a tie going to the even neighbour. A result above the range of finite
numbers is not cut to infinity; it stays a large fraction, which every use here refuses for
its size anyway.
-/

namespace PartitionedRollout

/-- A nonnegative fraction `num / den`; `den` is never zero. -/
structure Fraction where
  /-- The numerator. -/
  num : Nat
  /-- The denominator. -/
  den : Nat
  deriving DecidableEq, Repr

namespace Fraction

/-- The quotient of two natural numbers rounded to the nearest one, a tie going to the even
neighbour. -/
def roundHalfEven (num den : Nat) : Nat :=
  let q := num / den
  let r := num % den
  if den < 2 * r || (2 * r == den && q % 2 == 1) then q + 1 else q

/-- Two to a power. -/
def powerOfTwo (n : Nat) : Nat :=
  1 <<< n

/-- The bits behind the leading one of a significand. -/
def fractionBits : Nat := 52

/-- The nearest fraction with a significand of 53 bits. The power of two that brings the quotient
between 2^52 and 2^53 is found from the binary lengths of numerator and denominator, which fix it
up to one. -/
def nearest (x : Fraction) : Fraction :=
  if x.num = 0 then ⟨0, 1⟩
  else
    let guess : Int := Int.ofNat (fractionBits + x.den.log2) - Int.ofNat x.num.log2
    let small :=
      (x.num * powerOfTwo guess.toNat) / (x.den * powerOfTwo (-guess).toNat) <
        powerOfTwo fractionBits
    let shift := if small then guess + 1 else guess
    let up := powerOfTwo shift.toNat
    let down := powerOfTwo (-shift).toNat
    ⟨roundHalfEven (x.num * up) (x.den * down) * down, up⟩

/-- The sum, rounded to the nearest representable fraction. -/
def add (x y : Fraction) : Fraction :=
  nearest ⟨x.num * y.den + y.num * x.den, x.den * y.den⟩

/-- The product, rounded to the nearest representable fraction. -/
def mul (x y : Fraction) : Fraction :=
  nearest ⟨x.num * y.num, x.den * y.den⟩

end Fraction

/-- A floating-point number in its interchange format: sign, 11 bits of exponent, 52 bits of
fraction. -/
structure Binary64 where
  /-- The 64 bits, the sign first. -/
  bits : UInt64
  deriving DecidableEq, Repr

namespace Binary64

open Fraction

/-- The bits of the biased exponent. -/
def exponentBits : Nat := 11

/-- The exponent field of numbers from one up to two. -/
def bias : Nat := powerOfTwo (exponentBits - 1) - 1

/-- The exponent field of infinity and of what is not a number. -/
def topField : Nat := powerOfTwo exponentBits - 1

/-- The least natural number that is nearer to infinity than to any finite number. -/
def overflowBound : Nat :=
  powerOfTwo (bias + 1) - powerOfTwo (bias - (fractionBits + 1))

/-- The sign bit is set. -/
def isNegative (x : Binary64) : Bool :=
  x.bits.toNat / powerOfTwo (fractionBits + exponentBits) == 1

/-- The eleven bits of the biased exponent. -/
def exponentField (x : Binary64) : Nat :=
  x.bits.toNat / powerOfTwo fractionBits % powerOfTwo exponentBits

/-- The 52 bits after the leading one. -/
def fractionField (x : Binary64) : Nat :=
  x.bits.toNat % powerOfTwo fractionBits

/-- Not a number. -/
def isNaN (x : Binary64) : Bool :=
  x.exponentField == topField && x.fractionField != 0

/-- Greater than zero, infinity included. -/
def isPositive (x : Binary64) : Bool :=
  !x.isNaN && !x.isNegative && (x.exponentField != 0 || x.fractionField != 0)

/-- The larger of the number and one, where one also stands in for what is not a number. Infinity
has no fraction. -/
def atLeastOne? (x : Binary64) : Option Fraction :=
  if x.isNaN || x.isNegative || x.exponentField < bias then some ⟨1, 1⟩
  else if x.exponentField = topField then none
  else
    let significand := powerOfTwo fractionBits + x.fractionField
    let e := x.exponentField - bias
    some (
      if fractionBits ≤ e then ⟨significand * powerOfTwo (e - fractionBits), 1⟩
      else ⟨significand, powerOfTwo (fractionBits - e)⟩)

/-- The number zero. -/
def zero : Binary64 :=
  ⟨0⟩

/-- One half. -/
def half : Binary64 :=
  ⟨0x3FE0000000000000⟩

/-- One and a half. -/
def threeHalves : Binary64 :=
  ⟨0x3FF8000000000000⟩

end Binary64

end PartitionedRollout
