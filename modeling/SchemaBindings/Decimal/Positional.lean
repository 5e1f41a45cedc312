import SchemaBindings.Decimal.Shortest

namespace SchemaBindings
namespace Decimal

/-!
The text of a decimal numeral.

A numeral is written with all its digits in place where that takes at most 16
digits before the point or four zeros after it, else with an exponent, which
always has a sign.  A numeral with its digits in place always has a point.
-/

/-- A numeral in the notation that suits its size. -/
def Numeral.display (numeral : Numeral) : String :=
  let digits := Nat.toDigits 10 numeral.digits
  let point : Int := digits.length + numeral.exponent
  if numeral.digits = 0 then "0.0"
  else if 0 ≤ numeral.exponent && point ≤ 16 then
    String.ofList (digits ++ List.replicate numeral.exponent.toNat '0' ++ ['.', '0'])
  else if 0 < point && point ≤ 16 then
    String.ofList (digits.take point.toNat ++ '.' :: digits.drop point.toNat)
  else if -5 < point && point ≤ 0 then
    String.ofList ('0' :: '.' :: List.replicate (-point).toNat '0' ++ digits)
  else
    let fraction := match digits.tail with
      | [] => []
      | others => '.' :: others
    let sign := if 0 < point then "+" else ""
    String.ofList (digits.take 1 ++ fraction) ++ "e" ++ sign ++ toString (point - 1)

/-- A number with its sign, in the fewest digits that read back. -/
def Binary.display (negative : Bool) (number : Binary) : String :=
  (if negative then "-" else "") ++ (shortest number).display

end Decimal
end SchemaBindings
