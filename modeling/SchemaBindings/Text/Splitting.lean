namespace SchemaBindings
namespace Text

/-!
Cutting a text into pieces.
-/

/-- Put a character in front of the first piece. -/
def extendFirst (c : Char) : List (List Char) -> List (List Char)
  | [] => [[c]]
  | piece :: pieces => (c :: piece) :: pieces

/-- The lines of a text.  A line ends with a line feed or with a carriage return
and a line feed; a carriage return alone ends none, and no empty line follows
the last line end. -/
def lines : List Char -> List (List Char)
  | [] => []
  | '\r' :: '\n' :: rest => [] :: lines rest
  | c :: rest => if c = '\n' then [] :: lines rest else extendFirst c (lines rest)

/-- The pieces of a text between single characters that fail a test. -/
def stretches (inside : Char -> Bool) : List Char -> List (List Char)
  | [] => [[]]
  | c :: rest =>
      if inside c then extendFirst c (stretches inside rest) else [] :: stretches inside rest

end Text
end SchemaBindings
