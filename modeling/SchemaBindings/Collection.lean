import SchemaBindings.ResolvedSchema
import SchemaBindings.Event

namespace SchemaBindings

/-!
Collection of definitions and operations.

Definitions are sorted by kind first and resolved only when all of them have
been seen, so a field may refer to an enum that is declared after it.
Operations are resolved one by one, since by then the schema is complete.
-/

/-- The definitions seen so far, each kind in the order of encounter. -/
structure Collected where
  scalars : List ScalarDef := []
  objects : List (Record FieldDef) := []
  enums : List EnumDef := []
  inputs : List (Record FieldDef) := []
  deriving DecidableEq

namespace Collected

/-- Each definition goes to the end of the list of its kind. -/
def handlers : Handlers Collected where
  scalar declared seen := { seen with scalars := seen.scalars ++ [declared] }
  object declared seen := { seen with objects := seen.objects ++ [declared] }
  enum declared seen := { seen with enums := seen.enums ++ [declared] }
  input declared seen := { seen with inputs := seen.inputs ++ [declared] }

def visit (seen : Collected) (definition : Definition) : Collected :=
  handlers.visit seen definition

def walk (seen : Collected) (schema : Schema) : Collected :=
  handlers.walk seen schema

def ofSchema (schema : Schema) : Collected :=
  walk {} schema

/-- Resolve every field against all the enums seen. -/
def finish (seen : Collected) (scalarMap : ScalarMap) : ResolvedSchema :=
  let resolver : Resolver := ⟨scalarMap, seen.enums.map EnumDef.name⟩
  { scalars := seen.scalars
    enums := seen.enums
    objects := seen.objects.map resolver.resolveRecord
    inputs := seen.inputs.map resolver.resolveRecord
    scalarMap }

end Collected

/-- What finishing a collection reports: how many definitions of each kind it
holds. -/
def ResolvedSchema.collectionEvent (schema : ResolvedSchema) : Event :=
  ⟨.debug, "Collected " ++ toString schema.scalars.length ++ " scalars, "
    ++ toString schema.enums.length ++ " enums, "
    ++ toString schema.objects.length ++ " objects, "
    ++ toString schema.inputs.length ++ " input objects"⟩

/-! ## Operations -/

namespace Resolver

/-- Add one operation to those resolved before it. -/
def visitOperation (resolver : Resolver) (seen : List (Operation Descriptor))
    (operation : Operation VariableDef) : List (Operation Descriptor) :=
  seen ++ [resolver.resolveOperation operation]

def visitDocument (resolver : Resolver) (seen : List (Operation Descriptor))
    (document : Document) : List (Operation Descriptor) :=
  document.operations.foldl resolver.visitOperation seen

/-- The operations of all documents, in document order and then in source
order. -/
def resolveDocuments (resolver : Resolver) (documents : List Document) :
    List (Operation Descriptor) :=
  documents.foldl resolver.visitDocument []

end Resolver

/-- What collecting operations reports: how many there are. -/
def operationsEvent (operations : List (Operation Descriptor)) : Event :=
  ⟨.debug, "Collected " ++ toString operations.length ++ " operations"⟩

end SchemaBindings
