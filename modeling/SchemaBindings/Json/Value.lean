import SchemaBindings.Text.Hexadecimal

namespace SchemaBindings

/-!
JSON values and their compact text.
-/

namespace Json

/-- A number in decimal notation, with the digits in front of the point as a natural
number and those behind it one by one. -/
structure Numeral where
  negative : Bool
  whole : Nat
  fraction : List (Fin 10)
  exponent : Int

/-- The digits behind the point. -/
def Numeral.fractionDigits (numeral : Numeral) : List Char :=
  numeral.fraction.map fun digit => digit.val.digitChar

/-- The text of a number.  The point is left out if no digit stands behind it, and the
exponent if it is zero. -/
def Numeral.write (numeral : Numeral) : String :=
  (if numeral.negative then "-" else "") ++ toString numeral.whole
    ++ (if numeral.fraction.isEmpty then "" else "." ++ String.ofList numeral.fractionDigits)
    ++ if numeral.exponent = 0 then "" else "e" ++ toString numeral.exponent

end Json

/-- A JSON value.  An object keeps its members in order, repeated names included. -/
inductive Json where
  | null
  | bool (value : Bool)
  | number (numeral : Json.Numeral)
  | string (text : String)
  | list (items : List Json)
  | object (members : List (String × Json))

namespace Json

/-- How a character is written between quotes: a quote, a backslash and the
control characters are escaped, everything else stands for itself. -/
def quotedCharacter (c : Char) : List Char :=
  match c with
  | '"' => ['\\', '"']
  | '\\' => ['\\', '\\']
  | '\x08' => ['\\', 'b']
  | '\t' => ['\\', 't']
  | '\n' => ['\\', 'n']
  | '\x0c' => ['\\', 'f']
  | '\r' => ['\\', 'r']
  | c =>
      if c.toNat < 0x20 then
        ['\\', 'u', '0', '0', if c.toNat < 0x10 then '0' else '1'] ++ Text.hexDigits (c.toNat % 16)
      else [c]

def quoted (text : String) : String :=
  String.ofList ('"' :: text.toList.flatMap quotedCharacter ++ ['"'])

mutual

/-- The text of a value, without blanks. -/
def write : Json -> String
  | .null => "null"
  | .bool value => if value then "true" else "false"
  | .number numeral => numeral.write
  | .string text => quoted text
  | .list items => "[" ++ writeItems items ++ "]"
  | .object members => "\x7b" ++ writeMembers members ++ "\x7d"

def writeItems : List Json -> String
  | [] => ""
  | [item] => item.write
  | item :: items => item.write ++ "," ++ writeItems items

def writeMembers : List (String × Json) -> String
  | [] => ""
  | [(name, value)] => quoted name ++ ":" ++ value.write
  | (name, value) :: members => quoted name ++ ":" ++ value.write ++ "," ++ writeMembers members

end

end Json

end SchemaBindings
