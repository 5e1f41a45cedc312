import SchemaBindings.Sources

namespace SchemaBindings
namespace Synthetic

/-!
Schemas and documents of any size, for measurements.

The object types form a ring, and so do the input objects.  Every fourth input
object also refers back to the first, so that the rings have chords.
-/

def next (count index : Nat) : Nat :=
  (index + 1) % max count 1

def objectLine (count index : Nat) : String :=
  "type Object" ++ toString index
    ++ " \x7b id: ID!, name: String, tags: [String!]!, status: Status, next: [Object"
    ++ toString (next count index) ++ "] \x7d\n"

def inputLine (count index : Nat) : String :=
  "input Input" ++ toString index
    ++ " \x7b value: Int!, at: DateTime, statuses: [Status!], next: Input"
    ++ toString (next count index)
    ++ (if index % 4 = 3 then ", root: Input0" else "") ++ " \x7d\n"

/-- The text of a schema with a number of object types and as many input
objects. -/
def schemaText (count : Nat) : String :=
  "enum Status \x7b ACTIVE INACTIVE \x7d\nscalar DateTime\n"
    ++ String.join ((List.range count).map (objectLine count))
    ++ String.join ((List.range count).map (inputLine count))

/-- A query with an input object as its variable. -/
def queryLine (index : Nat) : String :=
  let number := toString index
  "query Q" ++ number ++ "($input: Input" ++ number ++ "!) \x7b object" ++ number
    ++ "(input: $input) \x7b id \x7d \x7d\n"

/-- The input objects that get a query: the first and each that lies a multiple of
the stride behind it. -/
def queryIndices (count stride : Nat) : List Nat :=
  (List.range count).filter fun index => index % max stride 1 = 0

/-- The text of a document with one query for each stride of input objects. -/
def documentText (count stride : Nat) : String :=
  String.join ((queryIndices count stride).map queryLine)

/-- The documents of a run over the text: none if the text is empty, since an empty
text is no document. -/
def documentTexts (count stride : Nat) : List String :=
  let text := documentText count stride
  if text.isEmpty then [] else [text]

end Synthetic
end SchemaBindings
