import SchemaBindings.Text.Blank
import SchemaBindings.Text.Hexadecimal
import SchemaBindings.Text.Splitting

namespace SchemaBindings
namespace Graphql

/-!
Numbers and strings as schema and document text write them.
-/

open Text

/-! ## Numbers -/

def isDigit (c : Char) : Bool :=
  '0' ≤ c && c ≤ '9'

def isDigits (text : List Char) : Bool :=
  !text.isEmpty && text.all isDigit

/-- An integer: an optional sign and digits, of which only a lone zero may start
with a zero. -/
def isInteger (text : List Char) : Bool :=
  let digits := match text with
    | '-' :: rest => rest
    | _ => text
  isDigits digits && (digits.length == 1 || digits.head? != some '0')

def digitsValue (digits : List Char) : Nat :=
  digits.foldl (fun value c => 10 * value + (c.toNat - '0'.toNat)) 0

def fits64 (text : List Char) : Bool :=
  match text with
  | '-' :: digits => digitsValue digits ≤ Nat.pow 2 63
  | digits => digitsValue digits < Nat.pow 2 63

/-- The exponent of a number: digits with or without a sign.  Without a sign the
first digit must be one of 1 to 8. -/
def isExponent : List Char -> Bool
  | [] => false
  | c :: rest =>
      if c = '+' || c = '-' then isDigits rest
      else '1' ≤ c && c ≤ '8' && rest.all isDigit

/-- An integer that fits into 64 bits, or an integer of any size with a
fraction, an exponent or both. -/
def isNumber (text : List Char) : Bool :=
  let isMark (c : Char) : Bool := c = 'e' || c = 'E'
  let mantissa := text.takeWhile fun c => !isMark c
  let whole := mantissa.takeWhile (· != '.')
  isInteger whole &&
    match mantissa.dropWhile (· != '.'), text.dropWhile fun c => !isMark c with
    | [], [] => fits64 text
    | [], _ :: exponent => isExponent exponent
    | _ :: fraction, [] => isDigits fraction
    | _ :: fraction, _ :: exponent => isDigits fraction && isExponent exponent

/-! ## Quoted strings -/

/-- The character that a letter after a backslash stands for. -/
def escaped? (c : Char) : Option Char :=
  match c with
  | '"' => some '"'
  | '\\' => some '\\'
  | '/' => some '/'
  | 'b' => some '\x10'
  | 'f' => some '\x0c'
  | 'n' => some '\n'
  | 'r' => some '\r'
  | 't' => some '\t'
  | _ => none

/-- The character with a code written in four places: four hexadecimal digits,
or a plus sign and three.  A surrogate is no character. -/
def codeCharacter? (places : List Char) : Option Char := do
  let code ← hexValue? (if places.head? = some '+' then places.tail else places)
  if code.isValidChar then some (Char.ofNat code) else none

/-- The value of a string between its quotes; `none` if an escape is wrong. -/
def unescape? : List Char -> Option (List Char)
  | [] => some []
  | '\\' :: 'u' :: first :: second :: third :: fourth :: rest => do
      let c ← codeCharacter? [first, second, third, fourth]
      let others ← unescape? rest
      return c :: others
  | '\\' :: letter :: rest => do
      let c ← escaped? letter
      let others ← unescape? rest
      return c :: others
  | c :: rest => do
      let others ← unescape? rest
      return c :: others

/-! ## Block strings -/

/-- The bytes of white space that a line starts with. -/
def indent (line : List Char) : Nat :=
  byteCount (line.takeWhile isBlank)

/-- Drop characters worth a number of bytes from the front.  A character of which the
number covers only a part stays. -/
def dropBytes : Nat -> List Char -> List Char
  | _, [] => []
  | bytes, c :: rest => if c.utf8Size ≤ bytes then dropBytes (bytes - c.utf8Size) rest else c :: rest

/-- Take an indent away from a line that is long enough for it. -/
def unindent (bytes : Nat) (line : List Char) : List Char :=
  if bytes ≤ byteCount line then dropBytes bytes line else line

/-- Three quotes that a backslash keeps from ending a block stand for
themselves. -/
def unescapeQuotes : List Char -> List Char
  | '\\' :: '"' :: '"' :: '"' :: rest => '"' :: '"' :: '"' :: unescapeQuotes rest
  | c :: rest => c :: unescapeQuotes rest
  | [] => []

/-- The value of a block string between its quotes.  The least indent of the
lines that are not blank is taken away from every line, where the first line of
the text neither counts nor changes; blank lines at both ends are dropped. -/
def blockValue (body : List Char) : List Char :=
  let isBlankLine (line : List Char) : Bool := line.all isBlank
  let shifted := match lines body with
    | [] => []
    | first :: others =>
        match ((others.filter fun line => !isBlankLine line).map indent).min? with
        | some bytes => first :: others.map (unindent bytes)
        | none => first :: others
  let kept := ((shifted.dropWhile isBlankLine).reverse.dropWhile isBlankLine).reverse
  ['\n'].intercalate (kept.map unescapeQuotes)

end Graphql
end SchemaBindings
