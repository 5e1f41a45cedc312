import Mathlib.Data.List.Basic
import SchemaBindings.Graphql.Lowering

namespace SchemaBindings

/-!
# Trees that are kept whole

A definition or an operation has a tree that declares it and nothing else: no directives, no
arguments, no interfaces.  Lowering gives back what the tree is made from, so a text that is read
as such trees is a text of the definitions or operations themselves.  For types there is no other
tree: a written type and the reference that is kept of it determine each other.
-/

open Graphql

/-! ## Types -/

namespace TypeRef

/-- The type as a text writes it. -/
def tree : TypeRef -> WrittenType
  | named name => .named name
  | list inner => .list inner.tree
  | nonNull inner => .nonNull inner.tree

theorem toTypeRef_tree (type : TypeRef) : type.tree.toTypeRef = type := by
  induction type with
  | named name => rfl
  | list inner inductionHypothesis => exact congrArg list inductionHypothesis
  | nonNull inner inductionHypothesis => exact congrArg nonNull inductionHypothesis

end TypeRef

theorem Graphql.WrittenType.tree_toTypeRef (type : WrittenType) :
    type.toTypeRef.tree = type := by
  induction type with
  | named name => rfl
  | list inner inductionHypothesis => exact congrArg list inductionHypothesis
  | nonNull inner inductionHypothesis => exact congrArg nonNull inductionHypothesis

/-! ## Definitions -/

namespace FieldDef

/-- A field of an object type. -/
def tree (field : FieldDef) : FieldDeclaration :=
  ⟨field.description, field.name, [], field.type.tree, []⟩

/-- A field of an input object. -/
def inputTree (field : FieldDef) : InputValue :=
  ⟨field.description, field.name, field.type.tree, []⟩

theorem toField_tree (field : FieldDef) : field.tree.toField = field := by
  unfold tree FieldDeclaration.toField
  rw [TypeRef.toTypeRef_tree]

theorem toField_inputTree (field : FieldDef) : field.inputTree.toField = field := by
  unfold inputTree InputValue.toField
  rw [TypeRef.toTypeRef_tree]

end FieldDef

def EnumValue.tree (value : EnumValue) : ValueDeclaration :=
  ⟨value.description, value.name, []⟩

namespace Definition

def tree : Definition -> TypeDeclaration
  | scalar declared => .scalar ⟨declared.description, declared.name, []⟩
  | object declared =>
      .object ⟨declared.description, declared.name, [], [], declared.fields.map FieldDef.tree⟩
  | enum declared =>
      .enum ⟨declared.description, declared.name, [], declared.values.map EnumValue.tree⟩
  | input declared =>
      .input ⟨declared.description, declared.name, [], declared.fields.map FieldDef.inputTree⟩

theorem lower_tree (definition : Definition) :
    definition.tree.lower = .inl definition := by
  cases definition with
  | scalar declared => rfl
  | object declared =>
      have fields := Function.LeftInverse.list_map FieldDef.toField_tree declared.fields
      exact congrArg (fun fields => Sum.inl (object { declared with fields })) fields
  | enum declared =>
      have values : Function.LeftInverse ValueDeclaration.toEnumValue EnumValue.tree :=
        fun _ => rfl
      exact congrArg (fun values => Sum.inl (enum { declared with values }))
        (values.list_map declared.values)
  | input declared =>
      have fields := Function.LeftInverse.list_map FieldDef.toField_inputTree declared.fields
      exact congrArg (fun fields => Sum.inl (input { declared with fields })) fields

end Definition

namespace Graphql

theorem schemaOf_trees (definitions : List Definition) :
    schemaOf (definitions.map fun definition => .type definition.tree) = ⟨definitions⟩ := by
  have kept (definition : Definition) :
      (Declaration.type definition.tree).lower.getLeft? = some definition :=
    congrArg Sum.getLeft? definition.lower_tree
  unfold schemaOf
  rw [List.filterMap_map]
  exact congrArg Schema.mk ((List.filterMap_congr fun definition _ => kept definition).trans
    List.filterMap_some)

theorem skipEvents_trees (definitions : List Definition) :
    skipEvents (definitions.map fun definition => .type definition.tree) = [] := by
  have silent (definition : Definition) :
      (Declaration.type definition.tree).lower.getRight? = none :=
    congrArg Sum.getRight? definition.lower_tree
  unfold skipEvents
  rw [List.filterMap_map]
  exact List.filterMap_eq_nil_iff.mpr fun definition _ => silent definition

end Graphql

/-! ## Operations -/

def VariableDef.tree (declared : VariableDef) : VariableDeclaration :=
  ⟨declared.name, declared.type.tree⟩

theorem VariableDef.toVariable_tree (declared : VariableDef) :
    declared.tree.toVariable = declared := by
  unfold VariableDef.tree VariableDeclaration.toVariable
  rw [TypeRef.toTypeRef_tree]

/-- The operation behind the word for a kind. -/
def OperationKind.declaration : OperationKind -> OperationHead -> OperationDeclaration
  | query => .query
  | mutation => .mutation
  | subscription => .subscription

namespace Operation

def tree (operation : Operation VariableDef) : OperationDeclaration :=
  operation.kind.declaration
    ⟨operation.name, operation.parameters.map VariableDef.tree, []⟩

theorem toOperation_tree (operation : Operation VariableDef) :
    operation.tree.toOperation = operation := by
  have parameters :=
    Function.LeftInverse.list_map VariableDef.toVariable_tree operation.parameters
  have chosen (head : OperationHead) :
      (operation.kind.declaration head).toOperation = head.toOperation operation.kind := by
    cases operation.kind <;> rfl
  rw [tree, chosen]
  exact congrArg (fun parameters => { operation with parameters }) parameters

end Operation

theorem Graphql.documentOf_trees (operations : List (Operation VariableDef)) :
    documentOf (operations.map fun operation => .operation operation.tree) =
      ⟨operations⟩ := by
  have kept (operation : Operation VariableDef) :
      (Executable.operation operation.tree).operation? = some operation :=
    congrArg some operation.toOperation_tree
  unfold documentOf
  rw [List.filterMap_map]
  exact congrArg Document.mk ((List.filterMap_congr fun operation _ => kept operation).trans
    List.filterMap_some)

end SchemaBindings
