namespace SchemaBindings
namespace Graphql

/-!
The syntax trees of schemas and documents.

A tree has whatever its text declares, bindings or not.  Values are read only to find
their end, and so is what operations and fragments select; neither is part of a tree.
-/

/-- A type as it is written. -/
inductive WrittenType where
  | named (name : String)
  | list (inner : WrittenType)
  | nonNull (inner : WrittenType)
  deriving DecidableEq

/-! ## Schemas -/

/-- An argument of a field or a directive, or a field of an input object. -/
structure InputValue where
  description : Option String
  name : String
  type : WrittenType
  directives : List String
  deriving DecidableEq

/-- A field of an object type or an interface. -/
structure FieldDeclaration where
  description : Option String
  name : String
  arguments : List InputValue
  type : WrittenType
  directives : List String
  deriving DecidableEq

/-- A value of an enum. -/
structure ValueDeclaration where
  description : Option String
  name : String
  directives : List String
  deriving DecidableEq

structure ScalarDeclaration where
  description : Option String
  name : String
  directives : List String
  deriving DecidableEq

structure ObjectDeclaration where
  description : Option String
  name : String
  interfaces : List String
  directives : List String
  fields : List FieldDeclaration
  deriving DecidableEq

structure InterfaceDeclaration where
  description : Option String
  name : String
  interfaces : List String
  directives : List String
  fields : List FieldDeclaration
  deriving DecidableEq

structure UnionDeclaration where
  description : Option String
  name : String
  directives : List String
  members : List String
  deriving DecidableEq

structure EnumDeclaration where
  description : Option String
  name : String
  directives : List String
  values : List ValueDeclaration
  deriving DecidableEq

structure InputDeclaration where
  description : Option String
  name : String
  directives : List String
  fields : List InputValue
  deriving DecidableEq

inductive TypeDeclaration where
  | scalar (declared : ScalarDeclaration)
  | object (declared : ObjectDeclaration)
  | interface (declared : InterfaceDeclaration)
  | union (declared : UnionDeclaration)
  | enum (declared : EnumDeclaration)
  | input (declared : InputDeclaration)
  deriving DecidableEq

/-- Whether nothing but a name is declared.  The interfaces of an interface alone do not
count. -/
def TypeDeclaration.isEmpty : TypeDeclaration -> Bool
  | scalar declared => declared.directives.isEmpty
  | object declared =>
      declared.interfaces.isEmpty && declared.directives.isEmpty && declared.fields.isEmpty
  | interface declared => declared.directives.isEmpty && declared.fields.isEmpty
  | union declared => declared.directives.isEmpty && declared.members.isEmpty
  | enum declared => declared.directives.isEmpty && declared.values.isEmpty
  | input declared => declared.directives.isEmpty && declared.fields.isEmpty

/-- The choice of root types: kinds of operation, each with its type. -/
structure RootsDeclaration where
  directives : List String
  roots : List (String × String)
  deriving DecidableEq

structure DirectiveDeclaration where
  description : Option String
  name : String
  arguments : List InputValue
  isRepeatable : Bool
  locations : List String
  deriving DecidableEq

/-- A declaration of a schema.  The extension of a type has the form of a type
declaration. -/
inductive Declaration where
  | roots (declared : RootsDeclaration)
  | type (declared : TypeDeclaration)
  | extension (added : TypeDeclaration)
  | directive (declared : DirectiveDeclaration)
  deriving DecidableEq

/-! ## Documents -/

structure VariableDeclaration where
  name : String
  type : WrittenType
  deriving DecidableEq

/-- What stands behind the word for the kind of an operation. -/
structure OperationHead where
  name : Option String
  parameters : List VariableDeclaration
  directives : List String
  deriving DecidableEq

/-- An operation: bare selections, or the word for a kind and what stands behind it. -/
inductive OperationDeclaration where
  | selections
  | query (head : OperationHead)
  | mutation (head : OperationHead)
  | subscription (head : OperationHead)
  deriving DecidableEq

structure FragmentDeclaration where
  name : String
  condition : String
  directives : List String
  deriving DecidableEq

/-- An item of a document. -/
inductive Executable where
  | operation (declared : OperationDeclaration)
  | fragment (declared : FragmentDeclaration)
  deriving DecidableEq

end Graphql
end SchemaBindings
