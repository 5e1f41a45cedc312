import SchemaBindings.Text.Words

namespace SchemaBindings
namespace Identifier

/-!
Identifiers of the generated bindings, made from the names of a schema.
-/

open Text

/-- The keywords that a field name in camel case can collide with. -/
def reservedWords : List String := ["type", "and", "or", "class", "end"]

/-- The name of a type that is no enum. -/
def typeName (name : String) : String :=
  lowerCamel name

/-- The name of an enum type.  An enum may share its name with another type, so
its type name has an ending that camel case never produces. -/
def enumTypeName (name : String) : String :=
  lowerCamel name ++ "_enum"

/-- The name of a field or an argument; a keyword gets an underscore. -/
def fieldName (name : String) : String :=
  let camel := lowerCamel name
  if reservedWords.contains camel then camel ++ "_" else camel

/-- The name of an operation's module; empty for an anonymous operation. -/
def moduleName : Option String -> String
  | some name => upperCamel name
  | none => ""

end Identifier
end SchemaBindings
