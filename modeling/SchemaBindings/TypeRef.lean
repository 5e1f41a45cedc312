namespace SchemaBindings

/-!
Type references as a schema or a variable definition writes them.

Nullability wraps the thing that it modifies: a type is nullable unless a
non-null marker stands directly around it, so `[String!]` is a nullable list
whose items must be present.
-/

/-- A named type under any number of list and non-null wrappers. -/
inductive TypeRef where
  | named (name : String)
  | list (inner : TypeRef)
  | nonNull (inner : TypeRef)
  deriving DecidableEq

namespace TypeRef

/-- The name in the middle of the wrappers. -/
def typeName : TypeRef -> String
  | named name => name
  | list inner => inner.typeName
  | nonNull inner => inner.typeName

/-- The reference as it is written in schema text: brackets around the item
type of a list, a bang after a type that must be present. -/
def display : TypeRef -> String
  | named name => name
  | list inner => "[" ++ inner.display ++ "]"
  | nonNull inner => inner.display ++ "!"

end TypeRef

end SchemaBindings
