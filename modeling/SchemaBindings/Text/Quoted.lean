import SchemaBindings.Text.Hexadecimal
import SchemaBindings.Text.Printable

namespace SchemaBindings
namespace Text

/-!
Texts in double quotes, for messages.
-/

/-- How a character is written between quotes: quotes, backslashes and the
common control characters after a backslash, other characters that do not show
by their code. -/
def quotedCharacter (c : Char) : List Char :=
  match c with
  | '"' => ['\\', '"']
  | '\\' => ['\\', '\\']
  | '\n' => ['\\', 'n']
  | '\r' => ['\\', 'r']
  | '\t' => ['\\', 't']
  | '\x00' => ['\\', '0']
  | c => if isPrintable c then [c] else ['\\', 'u', '\x7b'] ++ hexDigits c.toNat ++ ['\x7d']

def quoted (text : String) : String :=
  String.ofList ('"' :: text.toList.flatMap quotedCharacter ++ ['"'])

end Text
end SchemaBindings
