import SchemaBindings.TypeRef

namespace SchemaBindings

/-!
The definitions of a schema, before any field has been resolved.

A schema keeps its definitions in the order of the text.  Nothing forbids two
definitions of one name; a lookup answers with the first.
-/

/-- A named list of fields.  Object types and input objects have this form
both as they are declared and, with other fields, after resolution. -/
structure Record (Field : Type) where
  name : String
  description : Option String
  fields : List Field
  deriving DecidableEq

/-- A field of an object type or an input object with its declared type. -/
structure FieldDef where
  name : String
  type : TypeRef
  description : Option String
  deriving DecidableEq

structure ScalarDef where
  name : String
  description : Option String
  deriving DecidableEq

structure EnumValue where
  name : String
  description : Option String
  deriving DecidableEq

/-- An enum with its values in declaration order. -/
structure EnumDef where
  name : String
  description : Option String
  values : List EnumValue
  deriving DecidableEq

/-- The four kinds of definition that bindings are made from. -/
inductive Definition where
  | scalar (declared : ScalarDef)
  | object (declared : Record FieldDef)
  | enum (declared : EnumDef)
  | input (declared : Record FieldDef)
  deriving DecidableEq

inductive DefinitionKind where
  | scalar
  | object
  | enum
  | input
  deriving DecidableEq

namespace Definition

def name : Definition -> String
  | scalar declared => declared.name
  | object declared => declared.name
  | enum declared => declared.name
  | input declared => declared.name

def kind : Definition -> DefinitionKind
  | scalar _ => .scalar
  | object _ => .object
  | enum _ => .enum
  | input _ => .input

end Definition

/-- A schema: its definitions in source order. -/
structure Schema where
  definitions : List Definition
  deriving DecidableEq

def Schema.definition? (schema : Schema) (name : String) : Option Definition :=
  schema.definitions.find? fun definition => definition.name == name

/-! ## Walking a schema -/

/-- What to do with each kind of definition.  A kind without a handler of its
own leaves the state alone. -/
structure Handlers (State : Type u) where
  scalar : ScalarDef -> State -> State := fun _ state => state
  object : Record FieldDef -> State -> State := fun _ state => state
  enum : EnumDef -> State -> State := fun _ state => state
  input : Record FieldDef -> State -> State := fun _ state => state

namespace Handlers

/-- Hand one definition to the handler of its kind. -/
def visit (handlers : Handlers State) (state : State) : Definition -> State
  | .scalar declared => handlers.scalar declared state
  | .object declared => handlers.object declared state
  | .enum declared => handlers.enum declared state
  | .input declared => handlers.input declared state

/-- Visit the definitions of a schema in source order. -/
def walk (handlers : Handlers State) (state : State) (schema : Schema) : State :=
  schema.definitions.foldl handlers.visit state

end Handlers

end SchemaBindings
