import SchemaBindings.Generation

namespace SchemaBindings

/-!
# What a run collects

A run visits the definitions of a schema one after the other and the operations of
its documents one after the other.  The statements here say what these walks amount
to: the definitions of each kind in source order, and all operations in document
order.  With them, a generated output is described by the schema, the documents and
one resolver, and no later proof has to look at a walk.
-/

namespace Definition

/-- The content of a scalar definition. -/
def scalar? : Definition -> Option ScalarDef
  | scalar declared => some declared
  | _ => none

/-- The content of an object type definition. -/
def object? : Definition -> Option (Record FieldDef)
  | object declared => some declared
  | _ => none

/-- The content of an enum definition. -/
def enum? : Definition -> Option EnumDef
  | enum declared => some declared
  | _ => none

/-- The content of an input object definition. -/
def input? : Definition -> Option (Record FieldDef)
  | input declared => some declared
  | _ => none

variable {definition : Definition}

theorem scalar?_eq_none (other : definition.kind ≠ .scalar) : definition.scalar? = none := by
  cases definition with
  | scalar declared => exact absurd rfl other
  | _ => rfl

theorem object?_eq_none (other : definition.kind ≠ .object) : definition.object? = none := by
  cases definition with
  | object declared => exact absurd rfl other
  | _ => rfl

theorem enum?_eq_none (other : definition.kind ≠ .enum) : definition.enum? = none := by
  cases definition with
  | enum declared => exact absurd rfl other
  | _ => rfl

theorem input?_eq_none (other : definition.kind ≠ .input) : definition.input? = none := by
  cases definition with
  | input declared => exact absurd rfl other
  | _ => rfl

end Definition

namespace Schema

/-- The scalars in source order. -/
def scalars (schema : Schema) : List ScalarDef :=
  schema.definitions.filterMap Definition.scalar?

/-- The object types in source order. -/
def objects (schema : Schema) : List (Record FieldDef) :=
  schema.definitions.filterMap Definition.object?

/-- The enums in source order. -/
def enums (schema : Schema) : List EnumDef :=
  schema.definitions.filterMap Definition.enum?

/-- The input objects in source order. -/
def inputs (schema : Schema) : List (Record FieldDef) :=
  schema.definitions.filterMap Definition.input?

/-- The names of the enums in source order. -/
def enumNames (schema : Schema) : List String :=
  schema.enums.map EnumDef.name

theorem mem_inputs {schema : Schema} {declared : Record FieldDef} :
    declared ∈ schema.inputs ↔ .input declared ∈ schema.definitions := by
  unfold inputs
  rw [List.mem_filterMap]
  constructor
  · rintro ⟨definition, member, found⟩
    cases definition with
    | input other => exact Option.some.inj found ▸ member
    | _ => cases found
  · exact fun member => ⟨.input declared, member, rfl⟩

/-- The resolver of a run: the scalars that its configuration maps and all the enums
of its schema. -/
def resolver (schema : Schema) (config : Config) : Resolver :=
  ⟨config.scalarMap, schema.enumNames⟩

end Schema

/-! ## Fields and variables -/

/-- A record with every field changed in the same way. -/
def Record.mapFields {Field Other : Type} (change : Field -> Other) (record : Record Field) :
    Record Other :=
  ⟨record.name, record.description, record.fields.map change⟩

/-- An operation with every variable changed in the same way. -/
def Operation.mapParameters {Variable Other : Type} (change : Variable -> Other)
    (operation : Operation Variable) : Operation Other :=
  ⟨operation.name, operation.kind, operation.parameters.map change⟩

/-- Changing the fields of records keeps their names. -/
theorem map_name_mapFields {Field Other : Type} (change : Field -> Other)
    (records : List (Record Field)) :
    (records.map (Record.mapFields change)).map Record.name = records.map Record.name := by
  rw [List.map_map]
  rfl

/-! ## The walks -/

/-- Visiting definitions adds to the list of each kind those of that kind. -/
theorem Collected.foldl_visit (definitions : List Definition) (seen : Collected) :
    definitions.foldl handlers.visit seen =
      { scalars := seen.scalars ++ definitions.filterMap Definition.scalar?
        objects := seen.objects ++ definitions.filterMap Definition.object?
        enums := seen.enums ++ definitions.filterMap Definition.enum?
        inputs := seen.inputs ++ definitions.filterMap Definition.input? } := by
  induction definitions generalizing seen with
  | nil => simp only [List.foldl_nil, List.filterMap_nil, List.append_nil]
  | cons definition definitions inductionHypothesis =>
      rw [List.foldl_cons, inductionHypothesis]
      cases definition <;>
        simp [handlers, Handlers.visit, List.filterMap_cons, Definition.scalar?,
          Definition.object?, Definition.enum?, Definition.input?]

theorem Collected.ofSchema_eq (schema : Schema) :
    ofSchema schema = ⟨schema.scalars, schema.objects, schema.enums, schema.inputs⟩ :=
  foldl_visit schema.definitions {}

namespace Resolver

theorem visitDocument_eq (resolver : Resolver) (seen : List (Operation Descriptor))
    (document : Document) : resolver.visitDocument seen document =
      seen ++ document.operations.map resolver.resolveOperation := by
  unfold visitDocument
  induction document.operations generalizing seen with
  | nil => rw [List.foldl_nil, List.map_nil, List.append_nil]
  | cons operation operations inductionHypothesis =>
      rw [List.foldl_cons, inductionHypothesis, visitOperation, List.append_assoc]
      rfl

theorem resolveDocuments_eq (resolver : Resolver) (documents : List Document) :
    resolver.resolveDocuments documents =
      (documents.flatMap Document.operations).map resolver.resolveOperation := by
  have walk (seen : List (Operation Descriptor)) : documents.foldl resolver.visitDocument seen =
      seen ++ (documents.flatMap Document.operations).map resolver.resolveOperation := by
    induction documents generalizing seen with
    | nil => rw [List.foldl_nil, List.flatMap_nil, List.map_nil, List.append_nil]
    | cons document documents inductionHypothesis =>
        rw [List.foldl_cons, inductionHypothesis, visitDocument_eq, List.flatMap_cons,
          List.map_append, List.append_assoc]
  exact walk []

end Resolver

/-! ## The parts of an output -/

section

variable (config : Config) (schema : Schema) (documents : List Document)

theorem generate_schema : (generate config schema documents).schema =
    { scalars := schema.scalars
      enums := schema.enums
      objects := schema.objects.map (schema.resolver config).resolveRecord
      inputs := schema.inputs.map (schema.resolver config).resolveRecord
      scalarMap := config.scalarMap } := by
  unfold generate
  rw [Collected.ofSchema_eq]
  rfl

theorem generate_schema_objects : (generate config schema documents).schema.objects =
    schema.objects.map (schema.resolver config).resolveRecord := by
  rw [generate_schema]

theorem generate_schema_inputs : (generate config schema documents).schema.inputs =
    schema.inputs.map (schema.resolver config).resolveRecord := by
  rw [generate_schema]

theorem generate_operations : (generate config schema documents).operations =
    (documents.flatMap Document.operations).map (schema.resolver config).resolveOperation := by
  change
    ((Collected.ofSchema schema).finish config.scalarMap).resolver.resolveDocuments documents = _
  rw [Resolver.resolveDocuments_eq, Collected.ofSchema_eq]
  rfl

theorem generate_inputs : (generate config schema documents).inputs =
    if config.filterInputs then
      filterInputs (generate config schema documents).schema.inputs
        (generate config schema documents).operations
    else (generate config schema documents).schema.inputs :=
  rfl

/-- Whether or not filtering is on, emission keeps order and number. -/
theorem generate_inputs_sublist : (generate config schema documents).inputs.Sublist
    (generate config schema documents).schema.inputs := by
  rw [generate_inputs]
  split
  · exact List.filter_sublist
  · exact List.Sublist.refl _

/-- Resolution keeps the names of the input objects. -/
theorem generate_inputNames :
    (generate config schema documents).schema.inputs.map Record.name =
      schema.inputs.map Record.name := by
  rw [generate_schema, List.map_map]
  rfl

end

end SchemaBindings
