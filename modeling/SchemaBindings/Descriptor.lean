namespace SchemaBindings

/-!
Descriptors of fields and variables.

A descriptor is what remains of a type reference once its wrappers have been
read: the name in the middle, three flags for the wrappers around it, and the
class of the name.  The flags and the class may be combined freely, so the
functions here answer for every combination and not only for those that
resolution produces.
-/

structure Descriptor where
  name : String
  typeName : String
  isList : Bool
  isNullableList : Bool
  isNullable : Bool
  isEnum : Bool
  /-- The target type expression, if the type is a mapped scalar. -/
  scalar : Option String
  deriving DecidableEq

inductive TypeClass where
  | scalar (target : String)
  | enum
  | object
  deriving DecidableEq

namespace Descriptor

/-- The innermost type is neither an enum nor a mapped scalar.  Object types,
input objects and names that nothing defines all count. -/
def isObject (field : Descriptor) : Bool :=
  !field.isEnum && field.scalar.isNone

def isScalar (field : Descriptor) : Bool :=
  field.scalar.isSome

/-- A value may be absent at some layer. -/
def isOptional (field : Descriptor) : Bool :=
  field.isNullable || (field.isList && field.isNullableList)

/-- The text that rendering starts from: the target of a scalar, else the name
of the type. -/
def base (field : Descriptor) : String :=
  field.scalar.getD field.typeName

/-- The class of the innermost type; a scalar target comes before an enum. -/
def typeClass (field : Descriptor) : TypeClass :=
  match field.scalar with
  | some target => .scalar target
  | none => if field.isEnum then .enum else .object

end Descriptor

end SchemaBindings
