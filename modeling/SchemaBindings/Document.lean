import SchemaBindings.TypeRef

namespace SchemaBindings

/-!
Executable documents.  Only the operations of a document matter here, and of
an operation its name, its kind and its variables.
-/

inductive OperationKind where
  | query
  | mutation
  | subscription
  deriving DecidableEq

/-- The word that introduces an operation of the kind. -/
def OperationKind.keyword : OperationKind -> String
  | query => "query"
  | mutation => "mutation"
  | subscription => "subscription"

/-- An operation, with variables as they are declared or, after resolution, as
descriptors.  An anonymous operation has no name. -/
structure Operation (Variable : Type) where
  name : Option String
  kind : OperationKind
  parameters : List Variable
  deriving DecidableEq

/-- The name by which messages refer to an operation: an anonymous one goes by
the keyword of its kind. -/
def Operation.label (operation : Operation Variable) : String :=
  operation.name.getD operation.kind.keyword

structure VariableDef where
  name : String
  type : TypeRef
  deriving DecidableEq

structure Document where
  operations : List (Operation VariableDef)
  deriving DecidableEq

end SchemaBindings
