import SchemaBindings.Decimal.Binary

namespace SchemaBindings
namespace Decimal

/-!
The shortest decimal that reads back as a given number.

The real numbers that round to a number form an interval around it, which holds
its ends if the significand is even.  For each count of digits in turn the two
decimals next to the number are held against the interval; the first count with a
decimal inside is the shortest, and of two decimals inside the nearer is taken.
-/

/-- The number `digits * 10 ^ exponent`. -/
structure Numeral where
  digits : Nat
  exponent : Int
  deriving DecidableEq

/-- The ratios that round to a number, over a common denominator. -/
structure Interval where
  low : Nat
  value : Nat
  high : Nat
  denominator : Nat
  closed : Bool

/-- The interval of a number.  Below a power of two the numbers lie twice as
close, so that the interval is shorter at its lower end. -/
def Interval.of (number : Binary) : Interval :=
  let (numerator, denominator) := number.ratio
  let unit := if number.exponent < 0 then 1 else Nat.pow 2 number.exponent.toNat
  let isPower := number.significand = Nat.pow 2 52 && number.exponent != Binary.leastExponent
  { low := 4 * numerator - (if isPower then unit else 2 * unit)
    value := 4 * numerator
    high := 4 * numerator + 2 * unit
    denominator := 4 * denominator
    closed := number.significand % 2 = 0 }

def powerOfTen (exponent : Int) : Nat × Nat :=
  if exponent < 0 then (1, Nat.pow 10 (-exponent).toNat) else (Nat.pow 10 exponent.toNat, 1)

namespace Interval

def contains (interval : Interval) (numeral : Numeral) : Bool :=
  let (scale, divisor) := powerOfTen numeral.exponent
  let point := numeral.digits * scale * interval.denominator
  if interval.closed then interval.low * divisor ≤ point && point ≤ interval.high * divisor
  else interval.low * divisor < point && point < interval.high * divisor

/-- The decimal of the given exponent that lies in an interval, the nearer one if
two neighbours do, and the even one if both are equally near. -/
def decimalAt? (interval : Interval) (exponent : Int) : Option Numeral :=
  let (scale, divisor) := powerOfTen exponent
  let step := scale * interval.denominator
  let value := interval.value * divisor
  let below : Numeral := ⟨value / step, exponent⟩
  let above : Numeral := ⟨value / step + 1, exponent⟩
  match interval.contains below, interval.contains above with
  | true, true =>
      let twice := 2 * (value % step)
      if twice < step || (twice = step && below.digits % 2 = 0) then some below else some above
  | true, false => some below
  | false, true => some above
  | false, false => none

end Interval

/-- The first decimal found when the exponent goes down step by step. -/
def descend (interval : Interval) (exponent : Int) : Nat -> Option Numeral
  | 0 => none
  | steps + 1 =>
      match interval.decimalAt? exponent with
      | some numeral => some numeral
      | none => descend interval (exponent - 1) steps

/-- A numeral without zeros at the end of its digits. -/
def Numeral.trim (numeral : Numeral) : Nat -> Numeral
  | 0 => numeral
  | steps + 1 =>
      if numeral.digits != 0 && numeral.digits % 10 = 0 then
        Numeral.trim ⟨numeral.digits / 10, numeral.exponent + 1⟩ steps
      else numeral

/-- The shortest decimal that reads back as a number.  No number has its first
digit above the place of `10 ^ 308`, and 17 digits always suffice. -/
def shortest (number : Binary) : Numeral :=
  if number.significand = 0 then ⟨0, 0⟩
  else
    let found := descend (Interval.of number) 309 (309 + 325)
    (found.getD ⟨0, 0⟩).trim 20

end Decimal
end SchemaBindings
