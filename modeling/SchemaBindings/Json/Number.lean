import SchemaBindings.Decimal.Positional

namespace SchemaBindings
namespace Json

/-!
Numbers as JSON text writes them, and the values that they are read as.

A number without a fraction and an exponent is an integer if it fits into 64 bits,
with the sign counted where there is one.  Any other number is a binary
floating-point number.  The digits that no longer fit into 64 bits only count for
the size of such a number.
-/

open Decimal

/-- The parts of a number after its sign. -/
structure NumberText where
  whole : List Char
  fraction : Option (List Char)
  /-- Whether the exponent is negative, and its digits. -/
  exponent : Option (Bool × List Char)

inductive Number where
  | integer (value : Int)
  | floating (negative : Bool) (magnitude : Binary)
  deriving DecidableEq

def digitValue (c : Char) : Nat :=
  c.toNat - '0'.toNat

/-- Append digits to a significand up to the first with which it would no longer
fit into 64 bits; the digits from there on are left over. -/
def absorb (significand : Nat) : List Char -> Nat × List Char
  | [] => (significand, [])
  | c :: digits =>
      let next := 10 * significand + digitValue c
      if next < Nat.pow 2 64 then absorb next digits else (significand, c :: digits)

/-- A power of ten up to `10 ^ 308`. -/
def power (exponent : Nat) : Binary :=
  (Binary.nearest? (Nat.pow 10 exponent) 1).getD Binary.zero

/-- A number times a power of ten; `none` if it is too large.  An exponent below
-308 takes several divisions, each of them rounded; what is left after the given
number of them counts as nothing. -/
def scale? (number : Binary) (exponent : Int) : Nat -> Option Binary
  | 0 => some Binary.zero
  | divisions + 1 =>
      if number.significand = 0 then some Binary.zero
      else if 308 < exponent then none
      else if 0 ≤ exponent then number.mul? (power exponent.toNat)
      else if -308 ≤ exponent then number.div? (power (-exponent).toNat)
      else
        match number.div? (power 308) with
        | some smaller => scale? smaller (exponent + 308) divisions
        | none => none

/-- The value of a number; `none` if it is too large. -/
def NumberText.value? (negative : Bool) (text : NumberText) : Option Number :=
  let (whole, dropped) := absorb 0 text.whole
  if text.fraction.isNone && text.exponent.isNone && dropped.isEmpty
      && (!negative || (whole != 0 && whole ≤ Nat.pow 2 63)) then
    some (.integer (if negative then -(whole : Int) else whole))
  else
    let digits := text.fraction.getD []
    let (significand, ignored) := absorb whole digits
    let shift : Int := (dropped.length : Int) - (digits.length - ignored.length : Nat)
    let exponent : Int := match text.exponent with
      | none => 0
      | some (below, digits) =>
          let size : Int := digits.foldl (fun value c => 10 * value + digitValue c) 0
          if below then -size else size
    match Binary.nearest? significand 1 with
    | some number => (scale? number (shift + exponent) 3).map (.floating negative ·)
    | none => none

def Number.describe : Number -> String
  | integer value => "integer `" ++ toString value ++ "`"
  | floating negative magnitude => "floating point `" ++ magnitude.display negative ++ "`"

end Json
end SchemaBindings
