namespace SchemaBindings
namespace Decimal

/-!
Binary floating-point numbers of 64 bits, without their sign.

A number is a significand below 2 ^ 53 times a power of two.  Ratios of natural
numbers are rounded to the nearest such number, of two equally near ones to that
with an even significand.  All of it is exact arithmetic on natural numbers and
integers.
-/

/-- The number `significand * 2 ^ exponent`. -/
structure Binary where
  significand : Nat
  exponent : Int
  deriving DecidableEq

namespace Binary

def leastExponent : Int := -1074

def greatestExponent : Int := 971

def zero : Binary := ⟨0, leastExponent⟩

def ratio (number : Binary) : Nat × Nat :=
  if number.exponent < 0 then (number.significand, Nat.pow 2 (-number.exponent).toNat)
  else (number.significand * Nat.pow 2 number.exponent.toNat, 1)

/-- The natural number nearest to a ratio, of two equally near ones the even
one. -/
def roundDiv (numerator denominator : Nat) : Nat :=
  let quotient := numerator / denominator
  let twice := 2 * (numerator % denominator)
  if twice < denominator then quotient
  else if denominator < twice then quotient + 1
  else if quotient % 2 = 0 then quotient else quotient + 1

/-- The nearest multiple of `2 ^ exponent` to a ratio, as a significand. -/
def significandAt (exponent : Int) (numerator denominator : Nat) : Nat :=
  if exponent < 0 then roundDiv (numerator * Nat.pow 2 (-exponent).toNat) denominator
  else roundDiv numerator (denominator * Nat.pow 2 exponent.toNat)

def reaches (power : Int) (numerator denominator : Nat) : Bool :=
  if power < 0 then denominator ≤ numerator * Nat.pow 2 (-power).toNat
  else denominator * Nat.pow 2 power.toNat ≤ numerator

/-- The number nearest to a ratio; `none` if it is too large.  The exponent is
chosen so that the significand has 53 bits, or is the least one. -/
def nearest? (numerator denominator : Nat) : Option Binary :=
  if numerator = 0 then some zero
  else
    let guess : Int := (numerator.log2 : Int) - denominator.log2
    let power := if reaches guess numerator denominator then guess else guess - 1
    let exponent := max (power - 52) leastExponent
    let significand := significandAt exponent numerator denominator
    let rounded : Binary :=
      if significand = Nat.pow 2 53 then ⟨Nat.pow 2 52, exponent + 1⟩ else ⟨significand, exponent⟩
    if greatestExponent < rounded.exponent then none else some rounded

def mul? (left right : Binary) : Option Binary :=
  nearest? (left.ratio.1 * right.ratio.1) (left.ratio.2 * right.ratio.2)

/-- The nearest number to a quotient by a number that is not zero. -/
def div? (left right : Binary) : Option Binary :=
  nearest? (left.ratio.1 * right.ratio.2) (left.ratio.2 * right.ratio.1)

end Binary

end Decimal
end SchemaBindings
