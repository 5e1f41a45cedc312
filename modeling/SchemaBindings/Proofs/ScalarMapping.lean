import Mathlib.Data.List.Basic
import SchemaBindings.Proofs.Collecting
import SchemaBindings.Proofs.Locality
import SchemaBindings.Proofs.ScalarLookup

namespace SchemaBindings

/-!
# Mapping one more scalar

Two runs are compared whose configurations differ in the target of one name.  The
target reaches the descriptors of that name and nothing else, and it reaches none of
them if the schema has an enum of that name.  All further differences follow.  A name
that has become a scalar is no reference any more, so it is neither unresolved nor
followed.  The second run therefore keeps what the first would have reached without
passing through that name.
-/

/-- What mapping a name to a target makes of a descriptor.  Only a descriptor of that
type name changes, only if the name is no enum, and only in its target. -/
def Descriptor.mapScalar (enums : List String) (name target : String) (field : Descriptor) :
    Descriptor :=
  if field.typeName = name ∧ name ∉ enums then { field with scalar := some target } else field

/-- A chain of references leads from a seed to a name, and the avoided name is nowhere
on it, neither as the seed nor later. -/
def ReachedAvoiding (inputs : List (Record Descriptor)) (seeds : List String)
    (avoided name : String) : Prop :=
  Reached (fun owner next => RefersTo inputs owner next ∧ next ≠ avoided)
    (seeds.filter fun seed => seed != avoided) name

variable {enums : List String} {name target : String}

/-! ## Descriptors -/

/-- A descriptor is marked as an enum just if its type is one. -/
def EnumsMarked (enums : List String) (fields : List Descriptor) : Prop :=
  ∀ field ∈ fields, field.isEnum = enums.contains field.typeName

@[simp] theorem Descriptor.mapScalar_name (field : Descriptor) :
    (field.mapScalar enums name target).name = field.name := by
  unfold mapScalar
  split <;> rfl

@[simp] theorem Descriptor.mapScalar_typeName (field : Descriptor) :
    (field.mapScalar enums name target).typeName = field.typeName := by
  unfold mapScalar
  split <;> rfl

/-- A reference stays one unless it is to the mapped name.  If that name is an enum,
there was no reference to it before. -/
theorem Descriptor.isObject_mapScalar {field : Descriptor}
    (marked : field.isEnum = enums.contains field.typeName) :
    (field.mapScalar enums name target).isObject = (field.isObject && field.typeName != name) := by
  unfold mapScalar
  by_cases same : field.typeName = name
  · subst same
    rw [bne_self_eq_false, Bool.and_false]
    by_cases listed : field.typeName ∈ enums
    · rw [if_neg (fun both => both.2 listed), isObject, marked, List.contains_iff_mem.mpr listed]
      rfl
    · rw [if_pos ⟨rfl, listed⟩]
      exact Bool.and_false _
  · rw [if_neg (fun both => same both.1), bne_iff_ne.mpr same, Bool.and_true]

theorem objectNames_mapScalar {fields : List Descriptor} (marked : EnumsMarked enums fields) :
    objectNames (fields.map (Descriptor.mapScalar enums name target)) =
      (objectNames fields).filter fun typeName => typeName != name := by
  calc
    objectNames (fields.map (Descriptor.mapScalar enums name target)) =
        (fields.filter fun field => (field.mapScalar enums name target).isObject).map
          Descriptor.typeName := by
      unfold objectNames
      rw [List.filter_map, List.map_map]
      exact List.map_congr_left fun field _ => field.mapScalar_typeName
    _ = (fields.filter fun field => field.typeName != name && field.isObject).map
          Descriptor.typeName := by
      refine congrArg _ (List.filter_congr fun field member => ?_)
      rw [Descriptor.isObject_mapScalar (marked field member), Bool.and_comm]
    _ = (objectNames fields).filter fun typeName => typeName != name := by
      unfold objectNames
      rw [List.filter_map, List.filter_filter]
      rfl

/-! ## Resolution -/

/-- Two resolvers of which the second maps one more name. -/
structure MapsOneMore (before after : Resolver) (name target : String) : Prop where
  enums : after.enums = before.enums
  scalars : ∀ other, after.scalars.find? other =
    if other = name then some target else before.scalars.find? other

namespace MapsOneMore

variable {before after : Resolver}

theorem resolve (mapped : MapsOneMore before after name target) (label : String)
    (type : TypeRef) : after.resolve label type =
      (before.resolve label type).mapScalar before.enums name target := by
  unfold Resolver.resolve Descriptor.mapScalar
  dsimp only
  rw [mapped.enums, mapped.scalars]
  by_cases listed : type.shape.typeName ∈ before.enums
  · rw [if_pos (List.contains_iff_mem.mpr listed), if_pos (List.contains_iff_mem.mpr listed),
      if_neg (fun both => both.2 (both.1 ▸ listed))]
  · rw [if_neg (mt List.contains_iff_mem.mp listed), if_neg (mt List.contains_iff_mem.mp listed)]
    by_cases same : type.shape.typeName = name
    · rw [if_pos same, if_pos ⟨same, same ▸ listed⟩]
    · rw [if_neg same, if_neg (fun both => same both.1)]

theorem resolveRecord (mapped : MapsOneMore before after name target) (record : Record FieldDef) :
    after.resolveRecord record =
      (before.resolveRecord record).mapFields (Descriptor.mapScalar before.enums name target) := by
  unfold Resolver.resolveRecord Record.mapFields
  rw [List.map_map]
  exact congrArg _ (List.map_congr_left fun field _ => mapped.resolve field.name field.type)

theorem resolveOperation (mapped : MapsOneMore before after name target)
    (operation : Operation VariableDef) : after.resolveOperation operation =
      (before.resolveOperation operation).mapParameters
        (Descriptor.mapScalar before.enums name target) := by
  unfold Resolver.resolveOperation Operation.mapParameters
  rw [List.map_map]
  exact congrArg _ (List.map_congr_left fun declared _ =>
    mapped.resolve declared.name declared.type)

end MapsOneMore

theorem mapsOneMore_withScalar (config : Config) (schema : Schema) (name target : String) :
    MapsOneMore (schema.resolver config) (schema.resolver (config.withScalar name target))
      name target :=
  ⟨rfl, config.find?_scalarMap_withScalar name target⟩

theorem enumsMarked_map_resolve (resolver : Resolver) {Declared : Type}
    (label : Declared -> String) (type : Declared -> TypeRef) (declarations : List Declared) :
    EnumsMarked resolver.enums
      (declarations.map fun declared => resolver.resolve (label declared) (type declared)) := by
  intro field member
  rcases List.mem_map.mp member with ⟨declared, _, rfl⟩
  rfl

theorem enumsMarked_resolveRecords (resolver : Resolver) (records : List (Record FieldDef)) :
    ∀ record ∈ records.map resolver.resolveRecord, EnumsMarked resolver.enums record.fields := by
  intro record member
  rcases List.mem_map.mp member with ⟨declared, _, rfl⟩
  exact enumsMarked_map_resolve resolver FieldDef.name FieldDef.type declared.fields

theorem enumsMarked_resolveOperations (resolver : Resolver)
    (operations : List (Operation VariableDef)) :
    ∀ operation ∈ operations.map resolver.resolveOperation,
      EnumsMarked resolver.enums operation.parameters := by
  intro operation member
  rcases List.mem_map.mp member with ⟨declared, _, rfl⟩
  exact enumsMarked_map_resolve resolver VariableDef.name VariableDef.type declared.parameters

/-! ## References -/

variable {inputs : List (Record Descriptor)} {operations : List (Operation Descriptor)}

theorem references_mapScalar (marked : ∀ input ∈ inputs, EnumsMarked enums input.fields)
    (owner : String) :
    references (.ofInputs (inputs.map (Record.mapFields (Descriptor.mapScalar enums name target))))
        owner =
      (references (.ofInputs inputs) owner).filter fun typeName => typeName != name := by
  rw [references_ofInputs, references_ofInputs]
  unfold definitionIn
  rw [List.find?_map]
  change (Option.map _ (Option.map _ (inputs.find? fun input => input.name == owner))).getD [] = _
  cases found : inputs.find? fun input => input.name == owner with
  | none => rfl
  | some input =>
      exact objectNames_mapScalar (marked input (List.mem_of_find?_eq_some found))

/-- Mapping a name removes it from the ends of references. -/
theorem refersTo_mapScalar (marked : ∀ input ∈ inputs, EnumsMarked enums input.fields)
    (owner next : String) :
    RefersTo (inputs.map (Record.mapFields (Descriptor.mapScalar enums name target))) owner next ↔
      RefersTo inputs owner next ∧ next ≠ name := by
  rw [← mem_references, references_mapScalar marked, List.mem_filter, mem_references, bne_iff_ne]

/-- Mapping a name removes it from the seeds. -/
theorem mem_seedNames_mapScalar
    (marked : ∀ operation ∈ operations, EnumsMarked enums operation.parameters) (seed : String) :
    seed ∈ seedNames (operations.map
        (Operation.mapParameters (Descriptor.mapScalar enums name target))) ↔
      seed ∈ (seedNames operations).filter fun seed => seed != name := by
  unfold seedNames
  rw [mem_unseen, List.mem_filter, mem_unseen, List.flatMap_map, List.mem_flatMap,
    List.mem_flatMap]
  constructor
  · rintro ⟨⟨operation, member, found⟩, new⟩
    rw [Operation.mapParameters, objectNames_mapScalar (marked operation member),
      List.mem_filter] at found
    exact ⟨⟨⟨operation, member, found.1⟩, new⟩, found.2⟩
  · rintro ⟨⟨⟨operation, member, found⟩, new⟩, different⟩
    refine ⟨⟨operation, member, ?_⟩, new⟩
    rw [Operation.mapParameters, objectNames_mapScalar (marked operation member), List.mem_filter]
    exact ⟨found, different⟩

/-- What is reached after mapping a name was reached before without it. -/
theorem reached_mapScalar (inputsMarked : ∀ input ∈ inputs, EnumsMarked enums input.fields)
    (operationsMarked : ∀ operation ∈ operations, EnumsMarked enums operation.parameters)
    (other : String) :
    Reached
        (RefersTo (inputs.map (Record.mapFields (Descriptor.mapScalar enums name target))))
        (seedNames (operations.map
          (Operation.mapParameters (Descriptor.mapScalar enums name target)))) other ↔
      ReachedAvoiding inputs (seedNames operations) name other := by
  have cut : RefersTo (inputs.map (Record.mapFields (Descriptor.mapScalar enums name target))) =
      fun owner next => RefersTo inputs owner next ∧ next ≠ name := by
    funext owner next
    exact propext (refersTo_mapScalar inputsMarked owner next)
  rw [cut]
  exact reached_congr (mem_seedNames_mapScalar operationsMarked) other

theorem ReachedAvoiding.reached {seeds : List String} {avoided : String} {other : String}
    (reached : ReachedAvoiding inputs seeds avoided other) :
    Reached (RefersTo inputs) seeds other :=
  reached.mono (fun _ member => .of_mem (List.mem_of_mem_filter member)) fun _ _ link => link.1

open Classical in
theorem filterInputs_mapScalar (inputsMarked : ∀ input ∈ inputs, EnumsMarked enums input.fields)
    (operationsMarked : ∀ operation ∈ operations, EnumsMarked enums operation.parameters) :
    filterInputs (inputs.map (Record.mapFields (Descriptor.mapScalar enums name target)))
        (operations.map (Operation.mapParameters (Descriptor.mapScalar enums name target))) =
      (inputs.filter fun input =>
          decide (ReachedAvoiding inputs (seedNames operations) name input.name)).map
        (Record.mapFields (Descriptor.mapScalar enums name target)) := by
  rw [filterInputs, List.filter_map]
  refine congrArg _ (List.filter_congr fun input _ => ?_)
  rw [Bool.eq_iff_iff, decide_eq_true_iff, Function.comp_apply, Closure.contains_ofOperations]
  exact reached_mapScalar inputsMarked operationsMarked input.name

/-! ## Unresolved references -/

theorem unresolvedAmong_mapScalar {before after : ResolvedSchema}
    (known : ∀ typeName, after.knows typeName = before.knows typeName) (owner : String)
    {fields : List Descriptor} (marked : EnumsMarked enums fields) :
    after.unresolvedAmong owner (fields.map (Descriptor.mapScalar enums name target)) =
      (before.unresolvedAmong owner fields).filter fun reference => reference.typeName != name := by
  unfold ResolvedSchema.unresolvedAmong
  rw [List.filter_map, List.map_map, List.filter_map, List.filter_filter]
  have same : (fields.filter ((fun field => field.isObject && !after.knows field.typeName) ∘
        Descriptor.mapScalar enums name target)) =
      fields.filter fun field =>
        field.typeName != name && (field.isObject && !before.knows field.typeName) := by
    refine List.filter_congr fun field member => ?_
    rw [Function.comp_apply, Descriptor.isObject_mapScalar (marked field member),
      Descriptor.mapScalar_typeName, known]
    cases field.typeName != name <;> simp
  rw [same]
  refine List.map_congr_left fun field _ => ?_
  simp only [Function.comp_apply, Descriptor.mapScalar_name, Descriptor.mapScalar_typeName]

/-- The same for all owners of a kind, whatever their label and their fields are. -/
theorem flatMap_unresolvedAmong_mapScalar {Owner : Type} (name target : String)
    {before after : ResolvedSchema}
    (known : ∀ typeName, after.knows typeName = before.knows typeName) {label : Owner -> String}
    {fields : Owner -> List Descriptor} (change : Owner -> Owner)
    (labels : ∀ owner, label (change owner) = label owner)
    (changed : ∀ owner,
      fields (change owner) = (fields owner).map (Descriptor.mapScalar enums name target))
    {owners : List Owner} (marked : ∀ owner ∈ owners, EnumsMarked enums (fields owner)) :
    ((owners.map change).flatMap fun owner => after.unresolvedAmong (label owner) (fields owner)) =
      (owners.flatMap fun owner => before.unresolvedAmong (label owner) (fields owner)).filter
        fun reference => reference.typeName != name := by
  rw [List.flatMap_map, List.filter_flatMap]
  refine List.flatMap_congr fun owner member => ?_
  rw [labels, changed]
  exact unresolvedAmong_mapScalar known (label owner) (marked owner member)

theorem unresolvedReferences_mapScalar {before after : ResolvedSchema}
    (objects : after.objects =
      before.objects.map (Record.mapFields (Descriptor.mapScalar enums name target)))
    (inputs : after.inputs =
      before.inputs.map (Record.mapFields (Descriptor.mapScalar enums name target)))
    (objectsMarked : ∀ object ∈ before.objects, EnumsMarked enums object.fields)
    (inputsMarked : ∀ input ∈ before.inputs, EnumsMarked enums input.fields)
    (operationsMarked : ∀ operation ∈ operations, EnumsMarked enums operation.parameters) :
    after.unresolvedReferences
        (operations.map (Operation.mapParameters (Descriptor.mapScalar enums name target))) =
      (before.unresolvedReferences operations).filter
        fun reference => reference.typeName != name := by
  have known : ∀ typeName, after.knows typeName = before.knows typeName := by
    intro typeName
    unfold ResolvedSchema.knows
    rw [objects, inputs, map_name_mapFields, map_name_mapFields]
  unfold ResolvedSchema.unresolvedReferences
  rw [List.filter_append, List.filter_append, objects, inputs]
  congr 1
  · congr 1
    · exact flatMap_unresolvedAmong_mapScalar name target known (Record.mapFields _)
        (fun _ => rfl) (fun _ => rfl) objectsMarked
    · exact flatMap_unresolvedAmong_mapScalar name target known (Record.mapFields _)
        (fun _ => rfl) (fun _ => rfl) inputsMarked
  · exact flatMap_unresolvedAmong_mapScalar name target known (Operation.mapParameters _)
      (fun _ => rfl) (fun _ => rfl) operationsMarked

/-! ## Two runs -/

section

variable (config : Config) (schema : Schema) (documents : List Document)

theorem enumsMarked_generate :
    (∀ object ∈ (generate config schema documents).schema.objects,
      EnumsMarked schema.enumNames object.fields) ∧
    (∀ input ∈ (generate config schema documents).schema.inputs,
      EnumsMarked schema.enumNames input.fields) ∧
    ∀ operation ∈ (generate config schema documents).operations,
      EnumsMarked schema.enumNames operation.parameters := by
  rw [generate_schema, generate_operations]
  exact ⟨enumsMarked_resolveRecords (schema.resolver config) schema.objects,
    enumsMarked_resolveRecords (schema.resolver config) schema.inputs,
    enumsMarked_resolveOperations (schema.resolver config) _⟩

theorem generate_withScalar_schema (name target : String) :
    (generate (config.withScalar name target) schema documents).schema =
      { (generate config schema documents).schema with
        objects := (generate config schema documents).schema.objects.map
          (Record.mapFields (Descriptor.mapScalar schema.enumNames name target))
        inputs := (generate config schema documents).schema.inputs.map
          (Record.mapFields (Descriptor.mapScalar schema.enumNames name target))
        scalarMap := (config.withScalar name target).scalarMap } := by
  have mapped := mapsOneMore_withScalar config schema name target
  have resolved (records : List (Record FieldDef)) :
      records.map (schema.resolver (config.withScalar name target)).resolveRecord =
        (records.map (schema.resolver config).resolveRecord).map
          (Record.mapFields (Descriptor.mapScalar schema.enumNames name target)) := by
    rw [List.map_map]
    exact List.map_congr_left fun record _ => mapped.resolveRecord record
  rw [generate_schema, generate_schema, resolved, resolved]

theorem generate_withScalar_operations (name target : String) :
    (generate (config.withScalar name target) schema documents).operations =
      (generate config schema documents).operations.map
        (Operation.mapParameters (Descriptor.mapScalar schema.enumNames name target)) := by
  have mapped := mapsOneMore_withScalar config schema name target
  rw [generate_operations, generate_operations, List.map_map]
  exact List.map_congr_left fun operation _ => mapped.resolveOperation operation

end

open Classical in
/-- Two runs of which the second maps one more name differ in the descriptors of that
name and in what follows from them.  The references to it are no longer unresolved,
and filtering no longer passes through it. -/
theorem generate_withScalar (config : Config) (schema : Schema) (documents : List Document)
    (name target : String) :
    let before := generate config schema documents
    let after := generate (config.withScalar name target) schema documents
    let change := Descriptor.mapScalar schema.enumNames name target
    let kept := ReachedAvoiding before.schema.inputs (seedNames before.operations) name
    after.schema = { before.schema with
      objects := before.schema.objects.map (Record.mapFields change)
      inputs := before.schema.inputs.map (Record.mapFields change)
      scalarMap := (config.withScalar name target).scalarMap } ∧
    after.operations = before.operations.map (Operation.mapParameters change) ∧
    after.unresolvedReferences =
      before.unresolvedReferences.filter (fun reference => reference.typeName != name) ∧
    (config.filterInputs = false ->
      after.inputs = before.inputs.map (Record.mapFields change)) ∧
    (config.filterInputs = true ->
      after.inputs = (before.schema.inputs.filter fun input => decide (kept input.name)).map
        (Record.mapFields change) ∧
      after.inputs.map Record.name =
        (schema.inputs.map Record.name).filter (fun name => decide (kept name)) ∧
      (after.inputs.map Record.name).Sublist (before.inputs.map Record.name)) := by
  intro before after change kept
  have resolved := generate_withScalar_schema config schema documents name target
  have operations := generate_withScalar_operations config schema documents name target
  have inputs : after.schema.inputs = before.schema.inputs.map (Record.mapFields change) :=
    congrArg ResolvedSchema.inputs resolved
  obtain ⟨objectsMarked, inputsMarked, operationsMarked⟩ :=
    enumsMarked_generate config schema documents
  refine ⟨resolved, operations, ?_, ?_, ?_⟩
  · unfold Output.unresolvedReferences
    rw [operations]
    exact unresolvedReferences_mapScalar (congrArg ResolvedSchema.objects resolved) inputs
      objectsMarked inputsMarked operationsMarked
  · intro unfiltered
    have afterwards : after.inputs = after.schema.inputs :=
      (generate_inputs _ schema documents).trans (if_neg (ne_true_of_eq_false unfiltered))
    have former : before.inputs = before.schema.inputs :=
      (generate_inputs config schema documents).trans (if_neg (ne_true_of_eq_false unfiltered))
    rw [afterwards, former, inputs]
  · intro filtering
    have afterwards : after.inputs = filterInputs after.schema.inputs after.operations :=
      (generate_inputs _ schema documents).trans (if_pos filtering)
    have former : before.inputs = filterInputs before.schema.inputs before.operations :=
      (generate_inputs config schema documents).trans (if_pos filtering)
    have emitted : after.inputs =
        (before.schema.inputs.filter fun input => decide (kept input.name)).map
          (Record.mapFields change) := by
      rw [afterwards, inputs, operations]
      exact filterInputs_mapScalar inputsMarked operationsMarked
    refine ⟨emitted, ?_, ?_⟩
    · rw [emitted, map_name_mapFields, ← generate_inputNames config schema documents,
        List.filter_map]
      rfl
    · rw [emitted, map_name_mapFields, former, filterInputs]
      refine List.Sublist.map _ (List.monotone_filter_right _ fun input reached => ?_)
      exact Closure.contains_ofOperations.mpr (of_decide_eq_true reached).reached

/-- A name that is both declared as a scalar and defined as an input object, with an
input object that is needed only for its sake. -/
def ambiguousScalar : Schema :=
  ⟨[.scalar ⟨"Date", none⟩,
    .input ⟨"Event", none, [⟨"start", .nonNull (.named "Date"), none⟩]⟩,
    .input ⟨"Date", none, [⟨"zone", .named "Zone", none⟩]⟩,
    .input ⟨"Zone", none, [⟨"hours", .named "Int", none⟩]⟩]⟩

/-- A query about an event. -/
def eventDocument : Document :=
  ⟨[⟨some "Events", .query, [⟨"event", .named "Event"⟩]⟩]⟩

open Classical in
theorem generate_withScalar_ambiguous :
    let filtered : Config := { filterInputs := true }
    let before := generate filtered ambiguousScalar [eventDocument]
    let after := generate (filtered.withScalar "Date" "Js.Date.t") ambiguousScalar [eventDocument]
    let plain := generate {} ambiguousScalar [eventDocument]
    let mapped := generate (Config.withScalar {} "Date" "Js.Date.t") ambiguousScalar [eventDocument]
    filtered.filterInputs = true ∧
      after.inputs.map Record.name = ["Event", "Date", "Zone"].filter (fun name =>
        decide (ReachedAvoiding before.schema.inputs (seedNames before.operations) "Date" name)) ∧
      (after.inputs.map Record.name).Sublist (before.inputs.map Record.name) ∧
      before.inputs.map Record.name = ["Event", "Date", "Zone"] ∧
      after.inputs.map Record.name = ["Event"] ∧
      ({} : Config).filterInputs = false ∧
      mapped.inputs = plain.inputs.map (Record.mapFields
        (Descriptor.mapScalar ambiguousScalar.enumNames "Date" "Js.Date.t")) := by
  intro filtered before after plain mapped
  obtain ⟨_, _, _, _, narrowed⟩ :=
    generate_withScalar filtered ambiguousScalar [eventDocument] "Date" "Js.Date.t"
  obtain ⟨_, _, _, unfiltered, _⟩ :=
    generate_withScalar {} ambiguousScalar [eventDocument] "Date" "Js.Date.t"
  obtain ⟨_, names, fewer⟩ := narrowed rfl
  exact ⟨rfl, names, fewer, by decide +kernel, by decide +kernel, rfl, unfiltered rfl⟩

end SchemaBindings
