import SchemaBindings.Schema
import SchemaBindings.Document
import SchemaBindings.ScalarMap
import SchemaBindings.Descriptor

namespace SchemaBindings

/-!
Resolution of type references to descriptors.

The shape of a reference is read from its wrappers alone, the class from its
name alone.  A shape has room for one list: of lists inside lists the innermost
is recorded.
-/

/-- What the wrappers of a reference say about it. -/
structure Shape where
  typeName : String
  isList : Bool
  isNullableList : Bool
  isNullable : Bool
  deriving DecidableEq

/-- The shape of a reference that stands in a place where `nullable` says
whether a value may be absent.  A non-null marker takes that freedom away from
what it wraps; a list gives it back to its items. -/
def TypeRef.shapeWithin (nullable : Bool) : TypeRef -> Shape
  | named name => ⟨name, false, false, nullable⟩
  | list inner =>
      let item := inner.shapeWithin true
      if item.isList then item else { item with isList := true, isNullableList := nullable }
  | nonNull inner => inner.shapeWithin false

/-- The shape of a whole reference: outside all wrappers a value may be absent. -/
def TypeRef.shape (type : TypeRef) : Shape :=
  type.shapeWithin true

/-- The names that decide the class of a type. -/
structure Resolver where
  scalars : ScalarMap
  enums : List String

namespace Resolver

/-- The descriptor of a named thing of the given type.  A name that is both an
enum and a mapped scalar is an enum. -/
def resolve (resolver : Resolver) (name : String) (type : TypeRef) : Descriptor :=
  let shape := type.shape
  let isEnum := resolver.enums.contains shape.typeName
  { name
    typeName := shape.typeName
    isList := shape.isList
    isNullableList := shape.isNullableList
    isNullable := shape.isNullable
    isEnum
    scalar := if isEnum then none else resolver.scalars.find? shape.typeName }

def resolveField (resolver : Resolver) (field : FieldDef) : Descriptor :=
  resolver.resolve field.name field.type

def resolveVariable (resolver : Resolver) (declared : VariableDef) : Descriptor :=
  resolver.resolve declared.name declared.type

def resolveRecord (resolver : Resolver) (record : Record FieldDef) : Record Descriptor :=
  ⟨record.name, record.description, record.fields.map resolver.resolveField⟩

def resolveOperation (resolver : Resolver) (operation : Operation VariableDef) :
    Operation Descriptor :=
  ⟨operation.name, operation.kind, operation.parameters.map resolver.resolveVariable⟩

end Resolver

end SchemaBindings
