import SchemaBindings.ResolvedSchema

namespace SchemaBindings

/-!
References to types that nothing defines.

Resolution takes every name that is neither an enum nor a mapped scalar for an
object type.  Here such names are held against the object types and the input
objects of the schema.  A scalar that is declared but not mapped is therefore
unresolved too.
-/

/-- A field or variable whose type nothing defines, with the object, input
object or operation that it belongs to. -/
structure UnresolvedReference where
  owner : String
  field : String
  typeName : String
  deriving DecidableEq

def UnresolvedReference.message (reference : UnresolvedReference) : String :=
  "unknown type '" ++ reference.typeName ++ "' referenced by '" ++ reference.owner ++ "."
    ++ reference.field ++ "'"

namespace ResolvedSchema

/-- Whether a name is the name of an object type or of an input object. -/
def knows (schema : ResolvedSchema) (name : String) : Bool :=
  (schema.objects.map Record.name).contains name || (schema.inputs.map Record.name).contains name

/-- The unresolved references among the fields of one owner. -/
def unresolvedAmong (schema : ResolvedSchema) (owner : String) (fields : List Descriptor) :
    List UnresolvedReference :=
  (fields.filter fun field => field.isObject && !schema.knows field.typeName).map fun field =>
    ⟨owner, field.name, field.typeName⟩

/-- The unresolved references of the objects, then of the input objects, then
of the operations. -/
def unresolvedReferences (schema : ResolvedSchema) (operations : List (Operation Descriptor)) :
    List UnresolvedReference :=
  (schema.objects.flatMap fun object => schema.unresolvedAmong object.name object.fields)
    ++ (schema.inputs.flatMap fun input => schema.unresolvedAmong input.name input.fields)
    ++ operations.flatMap fun operation =>
        schema.unresolvedAmong operation.label operation.parameters

/-- Succeeds if every reference is resolved, else fails with the first that is
not. -/
def validate (schema : ResolvedSchema) (operations : List (Operation Descriptor)) :
    Except UnresolvedReference Unit :=
  match schema.unresolvedReferences operations with
  | [] => .ok ()
  | reference :: _ => .error reference

end ResolvedSchema

end SchemaBindings
