namespace SchemaBindings
namespace Text

/-!
Numbers in hexadecimal.
-/

/-- The value of a hexadecimal digit, in capital or small form. -/
def hexDigit? (c : Char) : Option Nat :=
  if '0' ≤ c && c ≤ '9' then some (c.toNat - '0'.toNat)
  else if 'a' ≤ c && c ≤ 'f' then some (c.toNat - 'a'.toNat + 10)
  else if 'A' ≤ c && c ≤ 'F' then some (c.toNat - 'A'.toNat + 10)
  else none

/-- The number that some digits write, most significant digit first; `none` if
a character is no digit. -/
def hexValue? (digits : List Char) : Option Nat :=
  digits.foldlM (fun value c => (hexDigit? c).map (16 * value + ·)) 0

/-- A number in small hexadecimal digits, without zeros in front. -/
def hexDigits (value : Nat) : List Char :=
  Nat.toDigits 16 value

end Text
end SchemaBindings
