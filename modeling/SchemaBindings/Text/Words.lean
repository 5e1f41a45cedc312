import SchemaBindings.Text.Case
import SchemaBindings.Text.Splitting

namespace SchemaBindings
namespace Text

/-!
Words of an identifier, and identifiers in camel case.

Characters that are neither letters nor numbers separate words.  Between them a
word also ends where a small letter is followed by a capital one, and before the
last of several capitals if a small letter follows it: `parseXMLText` has the
words `parse`, `XML` and `Text`.
-/

/-- The letter case that the scan of a word has met last. -/
inductive Mode where
  | boundary
  | small
  | capital
  deriving DecidableEq

/-- The mode after a character that ends no word: a character without case
leaves the mode as it was. -/
def Mode.after (mode : Mode) (c : Char) : Mode :=
  if isSmall c then .small else if isCapital c then .capital else mode

/-- The words of a text without separators.  A first word that is empty says
that a word ended before the first character. -/
def wordsFrom (mode : Mode) : List Char -> List (List Char)
  | [] => []
  | [c] => [[c]]
  | c :: next :: rest =>
      if mode.after c = .small && isCapital next then
        [c] :: wordsFrom .boundary (next :: rest)
      else if mode = .capital && isCapital c && isSmall next then
        [] :: extendFirst c (wordsFrom .boundary (next :: rest))
      else
        extendFirst c (wordsFrom (mode.after c) (next :: rest))

def words (text : String) : List (List Char) :=
  (stretches isAlphanumeric text.toList).flatMap (wordsFrom .boundary)

/-! ## Camel case -/

/-- A word in small letters.  A capital sigma at the end takes its final
form. -/
def lowered : List Char -> List Char
  | [] => []
  | [c] => if c = 'Σ' then ['ς'] else small c
  | c :: rest => small c ++ lowered rest

/-- A word with its first letter capital and the others small. -/
def capitalized : List Char -> List Char
  | [] => []
  | c :: rest => capital c ++ lowered rest

/-- The words of a text without a gap, each but the first capitalized. -/
def lowerCamel (text : String) : String :=
  match words text with
  | [] => ""
  | first :: rest => String.ofList (lowered first ++ rest.flatMap capitalized)

/-- The words of a text without a gap, each capitalized. -/
def upperCamel (text : String) : String :=
  String.ofList ((words text).flatMap capitalized)

/-- A text with its first character capital and every other one small, whatever
words it has. -/
def capitalizedText (text : String) : String :=
  match text.toList with
  | [] => ""
  | c :: rest => String.ofList (capital c ++ rest.flatMap small)

end Text
end SchemaBindings
