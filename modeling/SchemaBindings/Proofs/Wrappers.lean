import SchemaBindings.Proofs.Locality
import SchemaBindings.Proofs.UnresolvedReferences

namespace SchemaBindings

/-!
# Wrappers

List and non-null wrappers decide three flags of a descriptor and nothing else.  A run
never looks at these flags, they are for the rendering of its output.  So wrappers have
no part in which class a type has, which input objects are kept, what a run reports,
and which references stay unresolved.

Two sources that differ in wrappers alone are compared through what both become when
all wrappers are taken off.  Resolution commutes with taking them off, which on a
descriptor resets the flags.  Every later stage gives the same for descriptors whose
flags have been reset, and the walk of the closure does so step by step, since it marks
and expands the same names in the same order.
-/

/-! ## Taking wrappers off -/

/-- The reference to the name in the middle, without its wrappers. -/
def TypeRef.unwrapped (type : TypeRef) : TypeRef :=
  .named type.typeName

def FieldDef.unwrapped (field : FieldDef) : FieldDef :=
  { field with type := field.type.unwrapped }

def VariableDef.unwrapped (declared : VariableDef) : VariableDef :=
  { declared with type := declared.type.unwrapped }

/-- The definition with the wrappers of all its fields taken off. -/
def Definition.unwrapped : Definition -> Definition
  | scalar declared => scalar declared
  | object declared => object (declared.mapFields FieldDef.unwrapped)
  | enum declared => enum declared
  | input declared => input (declared.mapFields FieldDef.unwrapped)

def Schema.unwrapped (schema : Schema) : Schema :=
  ⟨schema.definitions.map Definition.unwrapped⟩

/-- The document with the wrappers of all its variables taken off. -/
def Document.unwrapped (document : Document) : Document :=
  ⟨document.operations.map (Operation.mapParameters VariableDef.unwrapped)⟩

/-- The descriptor of the same name and type with the flags of a reference without
wrappers.  Name, type name and class are kept. -/
def Descriptor.unwrapped (field : Descriptor) : Descriptor :=
  { field with isList := false, isNullableList := false, isNullable := true }

def ResolvedSchema.unwrapped (schema : ResolvedSchema) : ResolvedSchema :=
  { schema with
    objects := schema.objects.map (Record.mapFields Descriptor.unwrapped)
    inputs := schema.inputs.map (Record.mapFields Descriptor.unwrapped) }

/-- The output with the flags of all descriptors reset.  Outputs that are equal after
this have the same definitions, operations and emitted input objects, of which
corresponding descriptors agree in name, type name, enum mark and scalar target. -/
def Output.unwrapped (output : Output) : Output :=
  { output with
    schema := output.schema.unwrapped
    operations := output.operations.map (Operation.mapParameters Descriptor.unwrapped)
    inputs := output.inputs.map (Record.mapFields Descriptor.unwrapped) }

/-! ## Resolution -/

namespace Resolver

variable (resolver : Resolver)

theorem resolve_unwrapped (label : String) (type : TypeRef) :
    resolver.resolve label type.unwrapped = (resolver.resolve label type).unwrapped := by
  have named : type.unwrapped.shape.typeName = type.shape.typeName :=
    type.unwrapped.shape_typeName.trans type.shape_typeName.symm
  unfold resolve Descriptor.unwrapped
  dsimp only
  rw [named]
  rfl

theorem resolveRecord_unwrapped (record : Record FieldDef) :
    resolver.resolveRecord (record.mapFields FieldDef.unwrapped) =
      (resolver.resolveRecord record).mapFields Descriptor.unwrapped := by
  unfold resolveRecord Record.mapFields
  rw [List.map_map, List.map_map]
  exact congrArg _ (List.map_congr_left fun field _ =>
    resolver.resolve_unwrapped field.name field.type)

theorem resolveOperation_unwrapped (operation : Operation VariableDef) :
    resolver.resolveOperation (operation.mapParameters VariableDef.unwrapped) =
      (resolver.resolveOperation operation).mapParameters Descriptor.unwrapped := by
  unfold resolveOperation Operation.mapParameters
  rw [List.map_map, List.map_map]
  exact congrArg _ (List.map_congr_left fun declared _ =>
    resolver.resolve_unwrapped declared.name declared.type)

end Resolver

namespace Schema

/-- Taking wrappers off changes the contents of a kind and neither their kind nor their
order. -/
theorem filterMap_unwrapped {Content : Type} {content? : Definition -> Option Content}
    {change : Content -> Content}
    (unwraps : ∀ definition, content? definition.unwrapped = (content? definition).map change)
    (definitions : List Definition) :
    (definitions.map Definition.unwrapped).filterMap content? =
      (definitions.filterMap content?).map change := by
  rw [List.filterMap_map, List.map_filterMap]
  exact List.filterMap_congr fun definition _ => unwraps definition

variable (schema : Schema)

theorem scalars_unwrapped : schema.unwrapped.scalars = schema.scalars :=
  (filterMap_unwrapped (fun definition => by cases definition <;> rfl) schema.definitions).trans
    (List.map_id schema.scalars)

theorem objects_unwrapped :
    schema.unwrapped.objects = schema.objects.map (Record.mapFields FieldDef.unwrapped) :=
  filterMap_unwrapped (fun definition => by cases definition <;> rfl) schema.definitions

theorem enums_unwrapped : schema.unwrapped.enums = schema.enums :=
  (filterMap_unwrapped (fun definition => by cases definition <;> rfl) schema.definitions).trans
    (List.map_id schema.enums)

theorem inputs_unwrapped :
    schema.unwrapped.inputs = schema.inputs.map (Record.mapFields FieldDef.unwrapped) :=
  filterMap_unwrapped (fun definition => by cases definition <;> rfl) schema.definitions

theorem resolver_unwrapped (config : Config) :
    schema.unwrapped.resolver config = schema.resolver config := by
  unfold resolver enumNames
  rw [enums_unwrapped]

end Schema

/-! ## Walks over the same references -/

/-- Two indexes that a walk cannot tell apart: every name refers to the same names in the same
order, and has a definition in both or in neither. -/
structure SameReferences (index other : Index) : Prop where
  references_eq : ∀ name, references index name = references other name
  undefined_eq : ∀ name, (index.definition? name).isNone = (other.definition? name).isNone

namespace SameReferences

section

variable {index other : Index} (same : SameReferences index other)
include same

/-- Both walks have marked the same names so far, so they find the same new ones. -/
theorem walkPending_eq (trail : Trail) (pending : List String) :
    walkPending index trail pending = walkPending other trail pending := by
  induction trail, pending using walkPending.induct index with
  | case1 trail => rw [walkPending, walkPending]
  | case2 trail name pending found inductionHypothesis =>
      rw [walkPending, walkPending, ← same.references_eq name]
      exact inductionHypothesis

/-- From equal trails a visit leads to equal trails. -/
theorem visit (trail : Trail) (name : String) :
    ∃ later, (Closure.mk index trail).visit name = ⟨index, later⟩ ∧
      (Closure.mk other trail).visit name = ⟨other, later⟩ := by
  by_cases marked : name ∈ trail.visited
  · exact ⟨trail, Closure.visit_of_mem marked, Closure.visit_of_mem marked⟩
  · refine ⟨_, Closure.visit_of_not_mem marked, ?_⟩
    rw [Closure.visit_of_not_mem marked, same.walkPending_eq]

theorem visitAll (trail : Trail) (names : List String) :
    ∃ later, (Closure.mk index trail).visitAll names = ⟨index, later⟩ ∧
      (Closure.mk other trail).visitAll names = ⟨other, later⟩ := by
  induction names generalizing trail with
  | nil => exact ⟨trail, rfl, rfl⟩
  | cons name names inductionHypothesis =>
      rcases same.visit trail name with ⟨next, first, second⟩
      rcases inductionHypothesis next with ⟨later, firstRest, secondRest⟩
      refine ⟨later, ?_, ?_⟩
      · rw [Closure.visitAll, List.foldl_cons, first]
        exact firstRest
      · rw [Closure.visitAll, List.foldl_cons, second]
        exact secondRest

end

variable {inputs others : List (Record Descriptor)}
  (same : SameReferences (.ofInputs inputs) (.ofInputs others))
include same

theorem trail_eq (seeds : List String) :
    (Closure.ofSeeds inputs seeds).trail = (Closure.ofSeeds others seeds).trail := by
  rcases same.visitAll ⟨[], []⟩ seeds with ⟨later, first, second⟩
  exact (congrArg Closure.trail first).trans (congrArg Closure.trail second).symm

theorem contains_eq (seeds : List String) (name : String) :
    (Closure.ofSeeds inputs seeds).contains name =
      (Closure.ofSeeds others seeds).contains name := by
  unfold Closure.contains
  rw [same.trail_eq]

theorem warnings_eq (seeds : List String) :
    (Closure.ofSeeds inputs seeds).warnings = (Closure.ofSeeds others seeds).warnings := by
  unfold Closure.warnings Closure.undefinedNames
  rw [(Closure.settled_ofSeeds inputs seeds).index_eq,
    (Closure.settled_ofSeeds others seeds).index_eq, same.trail_eq]
  exact congrArg _ (List.filter_congr fun name _ => same.undefined_eq name)

end SameReferences

/-! ## Descriptors without flags -/

theorem objectNames_unwrapped (fields : List Descriptor) :
    objectNames (fields.map Descriptor.unwrapped) = objectNames fields := by
  unfold objectNames
  rw [List.filter_map, List.map_map]
  rfl

theorem definitionIn_unwrapped (inputs : List (Record Descriptor)) (name : String) :
    definitionIn (inputs.map (Record.mapFields Descriptor.unwrapped)) name =
      (definitionIn inputs name).map (Record.mapFields Descriptor.unwrapped) :=
  List.find?_map ..

theorem sameReferences_unwrapped (inputs : List (Record Descriptor)) :
    SameReferences (.ofInputs (inputs.map (Record.mapFields Descriptor.unwrapped)))
      (.ofInputs inputs) where
  references_eq name := by
    rw [references_ofInputs, references_ofInputs, definitionIn_unwrapped, Option.map_map]
    exact congrArg (Option.getD · []) (congrArg (Option.map · _)
      (funext fun input => objectNames_unwrapped input.fields))
  undefined_eq name := by
    rw [Index.definition?_ofInputs, Index.definition?_ofInputs, definitionIn_unwrapped,
      Option.isNone_map]

theorem seedNames_unwrapped (operations : List (Operation Descriptor)) :
    seedNames (operations.map (Operation.mapParameters Descriptor.unwrapped)) =
      seedNames operations := by
  unfold seedNames
  rw [List.flatMap_map]
  exact congrArg (unseen []) (List.flatMap_congr fun operation _ =>
    objectNames_unwrapped operation.parameters)

theorem filterInputs_unwrapped (inputs : List (Record Descriptor))
    (operations : List (Operation Descriptor)) :
    filterInputs (inputs.map (Record.mapFields Descriptor.unwrapped))
        (operations.map (Operation.mapParameters Descriptor.unwrapped)) =
      (filterInputs inputs operations).map (Record.mapFields Descriptor.unwrapped) := by
  rw [filterInputs, List.filter_map]
  refine congrArg _ (List.filter_congr fun input _ => ?_)
  unfold Closure.ofOperations
  rw [seedNames_unwrapped]
  exact (sameReferences_unwrapped inputs).contains_eq (seedNames operations) input.name

theorem ofOperations_warnings_unwrapped (inputs : List (Record Descriptor))
    (operations : List (Operation Descriptor)) :
    (Closure.ofOperations (inputs.map (Record.mapFields Descriptor.unwrapped))
        (operations.map (Operation.mapParameters Descriptor.unwrapped))).warnings =
      (Closure.ofOperations inputs operations).warnings := by
  unfold Closure.ofOperations
  rw [seedNames_unwrapped]
  exact (sameReferences_unwrapped inputs).warnings_eq (seedNames operations)

theorem filterEvents_unwrapped (inputs : List (Record Descriptor))
    (operations : List (Operation Descriptor)) :
    filterEvents (inputs.map (Record.mapFields Descriptor.unwrapped))
        (operations.map (Operation.mapParameters Descriptor.unwrapped)) =
      filterEvents inputs operations := by
  unfold filterEvents
  rw [ofOperations_warnings_unwrapped, filterInputs_unwrapped, List.length_map, List.length_map]

namespace ResolvedSchema

variable (schema : ResolvedSchema)

theorem knows_unwrapped (name : String) : schema.unwrapped.knows name = schema.knows name := by
  unfold knows unwrapped
  rw [map_name_mapFields, map_name_mapFields]

theorem unresolvedAmong_unwrapped (owner : String) (fields : List Descriptor) :
    schema.unwrapped.unresolvedAmong owner (fields.map Descriptor.unwrapped) =
      schema.unresolvedAmong owner fields := by
  unfold unresolvedAmong
  rw [List.filter_map, List.map_map]
  have same : fields.filter ((fun field => field.isObject &&
        !schema.unwrapped.knows field.typeName) ∘ Descriptor.unwrapped) =
      fields.filter fun field => field.isObject && !schema.knows field.typeName := by
    refine List.filter_congr fun field _ => ?_
    rw [Function.comp_apply, knows_unwrapped]
    rfl
  rw [same]
  rfl

end ResolvedSchema

/-! ## Outputs -/

namespace Output

variable (output : Output)

theorem unresolvedReferences_unwrapped :
    output.unwrapped.unresolvedReferences = output.unresolvedReferences := by
  unfold unresolvedReferences ResolvedSchema.unresolvedReferences
  have ofRecords (records : List (Record Descriptor)) :
      ((records.map (Record.mapFields Descriptor.unwrapped)).flatMap fun record =>
          output.schema.unwrapped.unresolvedAmong record.name record.fields) =
        records.flatMap fun record => output.schema.unresolvedAmong record.name record.fields := by
    rw [List.flatMap_map]
    exact List.flatMap_congr fun record _ =>
      output.schema.unresolvedAmong_unwrapped record.name record.fields
  have ofOperations :
      (output.unwrapped.operations.flatMap fun operation =>
          output.schema.unwrapped.unresolvedAmong operation.label operation.parameters) =
        output.operations.flatMap fun operation =>
          output.schema.unresolvedAmong operation.label operation.parameters := by
    unfold unwrapped
    rw [List.flatMap_map]
    exact List.flatMap_congr fun operation _ =>
      output.schema.unresolvedAmong_unwrapped operation.label operation.parameters
  exact congrArg₂ (· ++ ·)
    (congrArg₂ (· ++ ·) (ofRecords output.schema.objects) (ofRecords output.schema.inputs))
    ofOperations

theorem validate_unwrapped : output.unwrapped.validate = output.validate := by
  rw [validate_eq, validate_eq, unresolvedReferences_unwrapped]

end Output

section

variable (config : Config) (schema : Schema) (documents : List Document)

theorem generate_unwrapped_schema :
    (generate config schema.unwrapped (documents.map Document.unwrapped)).schema =
      (generate config schema documents).schema.unwrapped := by
  have resolved (records : List (Record FieldDef)) :
      (records.map (Record.mapFields FieldDef.unwrapped)).map
          (schema.resolver config).resolveRecord =
        (records.map (schema.resolver config).resolveRecord).map
          (Record.mapFields Descriptor.unwrapped) := by
    rw [List.map_map, List.map_map]
    exact List.map_congr_left fun record _ =>
      (schema.resolver config).resolveRecord_unwrapped record
  rw [generate_schema, generate_schema, schema.scalars_unwrapped, schema.enums_unwrapped,
    schema.objects_unwrapped, schema.inputs_unwrapped, schema.resolver_unwrapped, resolved,
    resolved]
  rfl

theorem generate_unwrapped_operations :
    (generate config schema.unwrapped (documents.map Document.unwrapped)).operations =
      (generate config schema documents).operations.map
        (Operation.mapParameters Descriptor.unwrapped) := by
  have declared : (documents.map Document.unwrapped).flatMap Document.operations =
      (documents.flatMap Document.operations).map
        (Operation.mapParameters VariableDef.unwrapped) := by
    rw [List.flatMap_map, List.map_flatMap]
    rfl
  rw [generate_operations, generate_operations, declared, schema.resolver_unwrapped, List.map_map,
    List.map_map]
  exact List.map_congr_left fun operation _ =>
    (schema.resolver config).resolveOperation_unwrapped operation

/-- A run over sources without wrappers gives the output without flags. -/
theorem generate_unwrapped :
    generate config schema.unwrapped (documents.map Document.unwrapped) =
      (generate config schema documents).unwrapped := by
  have resolved := generate_unwrapped_schema config schema documents
  have operations := generate_unwrapped_operations config schema documents
  have inputs : (generate config schema.unwrapped (documents.map Document.unwrapped)).inputs =
      (generate config schema documents).inputs.map (Record.mapFields Descriptor.unwrapped) := by
    rw [generate_inputs, generate_inputs, resolved, operations]
    by_cases filtering : config.filterInputs
    · rw [if_pos filtering, if_pos filtering]
      exact filterInputs_unwrapped _ _
    · rw [if_neg filtering, if_neg filtering]
      rfl
  unfold Output.unwrapped
  rw [← resolved, ← operations, ← inputs]
  rfl

theorem generateEvents_unwrapped :
    generateEvents config schema.unwrapped (documents.map Document.unwrapped) =
      generateEvents config schema documents := by
  unfold generateEvents
  rw [generate_unwrapped]
  unfold Output.unwrapped ResolvedSchema.unwrapped ResolvedSchema.collectionEvent operationsEvent
  simp only [List.length_map, filterEvents_unwrapped]

end

/-- Two runs over sources that differ in wrappers alone give outputs that differ in the
flags of their descriptors alone.  They emit input objects of the same names, start
from the same seeds, meet the same names without a definition, report the same events,
and leave the same references unresolved. -/
theorem generate_ignores_wrappers (config : Config) (schema other : Schema)
    (documents others : List Document) (sameSchema : schema.unwrapped = other.unwrapped)
    (sameDocuments : documents.map Document.unwrapped = others.map Document.unwrapped) :
    let first := generate config schema documents
    let second := generate config other others
    first.unwrapped = second.unwrapped ∧
    first.inputs.map Record.name = second.inputs.map Record.name ∧
    seedNames first.operations = seedNames second.operations ∧
    (Closure.ofOperations first.schema.inputs first.operations).warnings =
      (Closure.ofOperations second.schema.inputs second.operations).warnings ∧
    generateEvents config schema documents = generateEvents config other others ∧
    first.unresolvedReferences = second.unresolvedReferences ∧
    first.validate = second.validate := by
  intro first second
  have same : first.unwrapped = second.unwrapped := by
    rw [← generate_unwrapped, ← generate_unwrapped, sameSchema, sameDocuments]
  have agree {Result : Type} (view : Output -> Result)
      (unchanged : ∀ output : Output, view output.unwrapped = view output) :
      view first = view second := by
    rw [← unchanged first, same, unchanged second]
  refine ⟨same, ?_, ?_, ?_, ?_, ?_, ?_⟩
  · exact agree (fun output => output.inputs.map Record.name) fun output =>
      map_name_mapFields Descriptor.unwrapped output.inputs
  · exact agree (fun output => seedNames output.operations) fun output =>
      seedNames_unwrapped output.operations
  · exact agree (fun output =>
      (Closure.ofOperations output.schema.inputs output.operations).warnings) fun output =>
        ofOperations_warnings_unwrapped output.schema.inputs output.operations
  · rw [← generateEvents_unwrapped, sameSchema, sameDocuments, generateEvents_unwrapped]
  · exact agree Output.unresolvedReferences Output.unresolvedReferences_unwrapped
  · exact agree Output.validate Output.validate_unwrapped

/-- Input objects that refer to each other through lists, and to a name that nothing
defines. -/
def nestedLists : Schema :=
  ⟨[.input ⟨"Spare", none, [⟨"filter", .named "Filter", none⟩]⟩,
    .input ⟨"Filter", none,
      [⟨"orders", .nonNull (.list (.nonNull (.named "Order"))), none⟩,
        ⟨"gone", .list (.list (.named "Gone")), none⟩]⟩,
    .input ⟨"Order", none, [⟨"filter", .nonNull (.nonNull (.named "Filter")), none⟩]⟩]⟩

theorem generate_ignores_wrappers_nestedLists :
    let config : Config := { filterInputs := true }
    let document : Document := ⟨[⟨none, .query, [⟨"orders", .list (.named "Order")⟩]⟩]⟩
    let first := generate config nestedLists [document]
    let second := generate config nestedLists.unwrapped [document.unwrapped]
    nestedLists.unwrapped = nestedLists.unwrapped.unwrapped ∧
      [document].map Document.unwrapped = [document.unwrapped].map Document.unwrapped ∧
      first.unwrapped = second.unwrapped ∧
      first.inputs.map Record.name = second.inputs.map Record.name ∧
      seedNames first.operations = seedNames second.operations ∧
      (Closure.ofOperations first.schema.inputs first.operations).warnings =
        (Closure.ofOperations second.schema.inputs second.operations).warnings ∧
      first.unresolvedReferences = second.unresolvedReferences ∧
      first.inputs.map Record.name = ["Filter", "Order"] ∧
      first.unresolvedReferences = [⟨"Filter", "gone", "Gone"⟩] ∧
      first ≠ second := by
  intro config document first second
  have sameSchema : nestedLists.unwrapped = nestedLists.unwrapped.unwrapped := rfl
  have sameDocuments : [document].map Document.unwrapped =
      [document.unwrapped].map Document.unwrapped := rfl
  obtain ⟨same, names, seeds, warnings, _, unresolved, _⟩ :=
    generate_ignores_wrappers config nestedLists nestedLists.unwrapped [document]
      [document.unwrapped] sameSchema sameDocuments
  exact ⟨sameSchema, sameDocuments, same, names, seeds, warnings, unresolved,
    by decide +kernel, by decide +kernel, by decide +kernel⟩

end SchemaBindings
