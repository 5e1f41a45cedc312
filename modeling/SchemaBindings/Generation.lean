import SchemaBindings.Closure
import SchemaBindings.Collection
import SchemaBindings.Config.Basic
import SchemaBindings.Failure

namespace SchemaBindings

/-!
Generation: from a schema and its documents to everything that bindings are
printed from.
-/

structure Output where
  schema : ResolvedSchema
  /-- The operations of all documents in document order. -/
  operations : List (Operation Descriptor)
  /-- The input objects that bindings are made for. -/
  inputs : List (Record Descriptor)
  /-- The scalars that the configuration maps, the built-in ones not counted unless
  it maps them itself. -/
  customScalars : ScalarMap
  deriving DecidableEq

/-- Collect and resolve the definitions, then the operations, and filter the input
objects if the configuration asks for it. -/
def generate (config : Config) (schema : Schema) (documents : List Document) : Output :=
  let resolved := (Collected.ofSchema schema).finish config.scalarMap
  let operations := resolved.resolver.resolveDocuments documents
  { schema := resolved
    operations
    inputs := if config.filterInputs then filterInputs resolved.inputs operations
      else resolved.inputs
    customScalars := config.scalars }

/-- What a run reports besides its result. -/
def generateEvents (config : Config) (schema : Schema) (documents : List Document) : List Event :=
  let output := generate config schema documents
  [output.schema.collectionEvent, operationsEvent output.operations]
    ++ (if config.filterInputs then filterEvents output.schema.inputs output.operations else [])
    ++ [⟨.debug, "Generated " ++ toString output.schema.objects.length ++ " objects, "
      ++ toString output.inputs.length ++ " input objects, "
      ++ toString output.operations.length ++ " operations"⟩]

namespace Output

def operationsOf (output : Output) (kind : OperationKind) : List (Operation Descriptor) :=
  output.operations.filter fun operation => operation.kind = kind

def queries (output : Output) : List (Operation Descriptor) :=
  output.operationsOf .query

def mutations (output : Output) : List (Operation Descriptor) :=
  output.operationsOf .mutation

def subscriptions (output : Output) : List (Operation Descriptor) :=
  output.operationsOf .subscription

def unresolvedReferences (output : Output) : List UnresolvedReference :=
  output.schema.unresolvedReferences output.operations

/-- Succeeds if every reference is resolved, else fails with the first that is
not. -/
def validate (output : Output) : Except Failure Unit :=
  (output.schema.validate output.operations).mapError fun reference =>
    .schema (.unresolved reference)

end Output

end SchemaBindings
