import SchemaBindings.Resolution

namespace SchemaBindings

/-!
A schema with every field resolved, its definitions sorted by kind.
-/

/-- The definitions of one run, each kind in source order, and the scalar map
that their fields were resolved against. -/
structure ResolvedSchema where
  scalars : List ScalarDef
  enums : List EnumDef
  objects : List (Record Descriptor)
  inputs : List (Record Descriptor)
  scalarMap : ScalarMap
  deriving DecidableEq

namespace ResolvedSchema

/-- The names of the enums in source order, a repeated name as often as it is
defined. -/
def enumNames (schema : ResolvedSchema) : List String :=
  schema.enums.map EnumDef.name

/-- The resolver that the fields of the schema were resolved with. -/
def resolver (schema : ResolvedSchema) : Resolver :=
  ⟨schema.scalarMap, schema.enumNames⟩

def object? (schema : ResolvedSchema) (name : String) : Option (Record Descriptor) :=
  schema.objects.find? fun object => object.name == name

def input? (schema : ResolvedSchema) (name : String) : Option (Record Descriptor) :=
  schema.inputs.find? fun input => input.name == name

end ResolvedSchema

end SchemaBindings
