import SchemaBindings.Rendering.Identifier
import SchemaBindings.Rendering.Pipeline

namespace SchemaBindings

/-!
The type expressions of a descriptor in the places where a type is written.

The accessor of an object's field has options.  The field of an input object is
what the other side of the call sees: it has nullable values instead of options
and strings instead of enums.  An argument is an accessor type that is marked if
the argument may be left out.
-/

/-- The list of a descriptor may itself be absent. -/
def Descriptor.hasNullableList (field : Descriptor) : Bool :=
  field.isList && field.isNullableList

/-- The type of an enum where it is passed as a string, whatever its name. -/
def stringTypeName (_name : String) : String :=
  "string"

def accessorSteps : List Step :=
  [⟨Descriptor.isEnum, Identifier.enumTypeName⟩,
    ⟨Descriptor.isObject, Identifier.typeName⟩,
    Wrapper.option.step Descriptor.isNullable,
    Wrapper.array.step Descriptor.isList,
    Wrapper.option.step Descriptor.hasNullableList]

def inputFieldSteps : List Step :=
  [⟨Descriptor.isEnum, stringTypeName⟩,
    ⟨Descriptor.isObject, Identifier.typeName⟩,
    Wrapper.nullable.step Descriptor.isNullable,
    Wrapper.array.step Descriptor.isList,
    Wrapper.nullable.step Descriptor.hasNullableList]

def argumentSteps : List Step :=
  accessorSteps ++ [Wrapper.optionalArgument.step Descriptor.isOptional]

namespace Descriptor

def accessorType (field : Descriptor) : String :=
  render accessorSteps field

def inputFieldType (field : Descriptor) : String :=
  render inputFieldSteps field

def argumentType (field : Descriptor) : String :=
  render argumentSteps field

def labeledArgument (field : Descriptor) : String :=
  "~" ++ Identifier.fieldName field.name ++ ": " ++ field.argumentType

/-- The name of the function that decodes a value: for a list by whether the
list may be absent, for another type by its class and whether the value may be
absent. -/
def getterName (field : Descriptor) : String :=
  if field.isList then
    if field.isNullableList then "getNullableArray" else "getArray"
  else
    let method := match field.typeClass with
      | .scalar target => Text.capitalizedText target
      | .enum => "Enum"
      | .object => "Field"
    if field.isNullable then "getNullable" ++ method else "get" ++ method

end Descriptor

end SchemaBindings
