import SchemaBindings.Graphql.Token

namespace SchemaBindings
namespace Graphql

/-!
Readers of token lists.

A reader takes tokens from the front of a list, deciding by one token of
lookahead and never going back.  If it fails, it says which tokens were left at
the place of the fault, so that places can be found after the fact and the
grammar does not deal with them.
-/

/-- A reader of tokens; a failure holds the tokens from the fault on. -/
abbrev Reader (Result : Type) := StateT (List Lexeme) (Except (List Lexeme)) Result

namespace Reader

def fail : Reader Result := fun left => .error left

/-- Fail at an earlier place, given the tokens from there on. -/
def failAt (place : List Lexeme) : Reader Result := fun _ => .error place

/-- The next token, which is not taken. -/
def peek : Reader (Option Lexeme) := fun left => .ok (left.head?, left)

/-- Take the next token, whatever it is. -/
def skip : Reader Unit := fun left => .ok ((), left.tail)

/-- Take a given token or fail. -/
def expect (lexeme : Lexeme) : Reader Unit
  | [] => .error []
  | head :: left => if head = lexeme then .ok ((), left) else .error (head :: left)

def name : Reader String
  | .name text :: left => .ok (text, left)
  | left => .error left

def nextIs (test : Lexeme -> Bool) : Reader Bool := fun left => .ok (left.head?.any test, left)

/-- Take a given token if it is next, and say whether it was. -/
def takeIf (lexeme : Lexeme) : Reader Bool
  | [] => .ok (false, [])
  | head :: left => if head = lexeme then .ok (true, left) else .ok (false, head :: left)

/-- Read items as long as the next token starts one, at most as many as a list has
tokens. -/
def upTo (starts : Lexeme -> Bool) (item : Reader Result) : List Lexeme -> Reader (List Result)
  | [] => pure []
  | _ :: bound => do
      if ← nextIs starts then
        let first ← item
        let others ← upTo starts item bound
        return first :: others
      else
        return []

/-- Read items as long as the next token starts one.  An item takes at least one
token, so there are no more items than tokens left. -/
def many (starts : Lexeme -> Bool) (item : Reader Result) : Reader (List Result) :=
  fun left => upTo starts item left left

def oneOrMore (starts : Lexeme -> Bool) (item : Reader Result) : Reader (List Result) := do
  let first ← item
  let others ← many starts item
  return first :: others

/-- Read items behind a separator each, as long as the separator is next. -/
def behindEach (separator : Lexeme) (item : Reader Result) : Reader (List Result) :=
  many (· = separator) do
    expect separator
    item

/-- Read one item or more with a separator between them; the first may have one
in front. -/
def separated (separator : Lexeme) (item : Reader Result) : Reader (List Result) := do
  let _ ← takeIf separator
  let first ← item
  let others ← behindEach separator item
  return first :: others

/-- Read one item or more between brackets, or nothing if the opening bracket is
not next. -/
def block (opening closing : Char) (starts : Lexeme -> Bool) (item : Reader Result) :
    Reader (List Result) := do
  if ← takeIf (.mark opening) then
    let items ← oneOrMore starts item
    expect (.mark closing)
    return items
  else
    return []

/-- Read a whole text, which must end where the reader ends.  A fault is
reported at its place. -/
def run (reader : Reader Result) (text : String) : Except Text.Position Result :=
  let tokens := Tokens.ofText text
  match reader tokens.lexemes with
  | .ok (result, []) => if tokens.complete then .ok result else .error tokens.finish
  | .ok (_, left) => .error (tokens.positionBefore left.length)
  | .error left => .error (tokens.positionBefore left.length)

end Reader

/-! ## Tests of single tokens -/

namespace Lexeme

def isName : Lexeme -> Bool
  | .name _ => true
  | _ => false

def isString : Lexeme -> Bool
  | .string _ => true
  | _ => false

end Lexeme

end Graphql
end SchemaBindings
