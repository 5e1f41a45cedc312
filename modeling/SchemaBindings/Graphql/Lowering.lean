import SchemaBindings.Document
import SchemaBindings.Event
import SchemaBindings.Graphql.Tree
import SchemaBindings.Schema
import SchemaBindings.Text.Quoted

namespace SchemaBindings
namespace Graphql

/-!
What is kept of syntax trees.

Of a schema the scalars, the object types, the enums and the input objects are kept, each
with what bindings need of it.  The other declarations are passed over, each with an event.
Of a document only the operations are kept.
-/

def WrittenType.toTypeRef : WrittenType -> TypeRef
  | named name => .named name
  | list inner => .list inner.toTypeRef
  | nonNull inner => .nonNull inner.toTypeRef

/-! ## Schemas -/

def InputValue.toField (value : InputValue) : FieldDef :=
  ⟨value.name, value.type.toTypeRef, value.description⟩

def FieldDeclaration.toField (field : FieldDeclaration) : FieldDef :=
  ⟨field.name, field.type.toTypeRef, field.description⟩

def ValueDeclaration.toEnumValue (value : ValueDeclaration) : EnumValue :=
  ⟨value.name, value.description⟩

/-- The definition that is kept of a type declaration, or what passing it over
reports. -/
def TypeDeclaration.lower : TypeDeclaration -> Definition ⊕ Event
  | scalar declared => .inl (.scalar ⟨declared.name, declared.description⟩)
  | object declared =>
      .inl (.object ⟨declared.name, declared.description,
        declared.fields.map FieldDeclaration.toField⟩)
  | enum declared =>
      .inl (.enum ⟨declared.name, declared.description,
        declared.values.map ValueDeclaration.toEnumValue⟩)
  | input declared =>
      .inl (.input ⟨declared.name, declared.description,
        declared.fields.map InputValue.toField⟩)
  | interface declared => .inr ⟨.trace, "Skipping interface definition " ++ declared.name⟩
  | union declared => .inr ⟨.trace, "Skipping union definition " ++ declared.name⟩

/-- The name of a kind of declaration in messages. -/
def Declaration.label : Declaration -> String
  | roots _ => "schema"
  | type _ => "type"
  | extension _ => "extension"
  | directive _ => "directive"

def Declaration.lower : Declaration -> Definition ⊕ Event
  | type declared => declared.lower
  | other => .inr ⟨.trace, "Skipping non-type definition " ++ Text.quoted other.label⟩

def schemaOf (declarations : List Declaration) : Schema :=
  ⟨declarations.filterMap fun declaration => declaration.lower.getLeft?⟩

/-- One event for each declaration that the schema leaves out. -/
def skipEvents (declarations : List Declaration) : List Event :=
  declarations.filterMap fun declaration => declaration.lower.getRight?

/-! ## Documents -/

def VariableDeclaration.toVariable (declared : VariableDeclaration) : VariableDef :=
  ⟨declared.name, declared.type.toTypeRef⟩

def OperationHead.toOperation (head : OperationHead) (kind : OperationKind) :
    Operation VariableDef :=
  ⟨head.name, kind, head.parameters.map VariableDeclaration.toVariable⟩

/-- Bare selections are an anonymous query without variables. -/
def OperationDeclaration.toOperation : OperationDeclaration -> Operation VariableDef
  | selections => ⟨none, .query, []⟩
  | query head => head.toOperation .query
  | mutation head => head.toOperation .mutation
  | subscription head => head.toOperation .subscription

/-- The operation that an item contributes to the document. -/
def Executable.operation? : Executable -> Option (Operation VariableDef)
  | operation declared => some declared.toOperation
  | fragment _ => none

def documentOf (items : List Executable) : Document :=
  ⟨items.filterMap Executable.operation?⟩

end Graphql
end SchemaBindings
