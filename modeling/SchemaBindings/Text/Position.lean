namespace SchemaBindings
namespace Text

/-!
Places in a text, for people: lines and columns counted from one.
-/

/-- A line and a column, both counted from one. -/
structure Position where
  line : Nat
  column : Nat
  deriving DecidableEq

namespace Position

def start : Position := ⟨1, 1⟩

def nextLine (position : Position) : Position :=
  ⟨position.line + 1, 1⟩

/-- Some columns further on the same line. -/
def right (position : Position) (columns : Nat) : Position :=
  { position with column := position.column + columns }

/-- The position after some characters of which each takes one column and only
a line feed ends the line. -/
def after (position : Position) (characters : List Char) : Position :=
  characters.foldl
    (fun position c => if c = '\n' then position.nextLine else position.right 1) position

def display (position : Position) : String :=
  toString position.line ++ ":" ++ toString position.column

end Position

end Text
end SchemaBindings
