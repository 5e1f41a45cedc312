import Mathlib.Data.List.Basic
import SchemaBindings.Proofs.Collecting
import SchemaBindings.Proofs.ScalarLookup

namespace SchemaBindings

/-!
# Which references stay unresolved

A run looks for unresolved references among resolved descriptors, where the class of a
type has replaced its declaration.  Here the answer is read from the source instead.
Every field and every variable mentions one type, and its mention is unresolved just
if the schema has no enum, object type or input object of that name and the
configuration maps no scalar of that name.  A scalar definition does not count.

The list of unresolved references is the list of all mentions without those that are
resolved, so each mention accounts for at most one entry and the order is that of the
source.  Whether input objects are filtered is nowhere looked at.
-/

/-! ## Mentions -/

/-- The types that the fields of a record mention, under the name of the record. -/
def Record.mentions (record : Record FieldDef) : List UnresolvedReference :=
  record.fields.map fun field => ⟨record.name, field.name, field.type.typeName⟩

/-- The types that the variables of an operation mention.  An anonymous operation
goes by the keyword of its kind. -/
def Operation.mentions (operation : Operation VariableDef) : List UnresolvedReference :=
  operation.parameters.map fun declared =>
    ⟨operation.name.getD operation.kind.keyword, declared.name, declared.type.typeName⟩

namespace Schema

/-- All mentions of types, each as the reference that it is reported as if it stays
unresolved: those in object types, then those in input objects, then those in
operations. -/
def mentions (schema : Schema) (documents : List Document) : List UnresolvedReference :=
  schema.objects.flatMap Record.mentions ++ schema.inputs.flatMap Record.mentions
    ++ (documents.flatMap Document.operations).flatMap Operation.mentions

/-- Some enum, object type or input object of the schema has the name. -/
def Defines (schema : Schema) (name : String) : Prop :=
  ∃ definition ∈ schema.definitions, definition.kind ≠ .scalar ∧ definition.name = name

/-- A mention of the name is resolved: the schema defines it, or the configuration
maps it. -/
def Resolves (schema : Schema) (config : Config) (name : String) : Prop :=
  schema.Defines name ∨ name ∈ config.scalarMap.names

instance (schema : Schema) (name : String) : Decidable (schema.Defines name) :=
  inferInstanceAs (Decidable (∃ definition ∈ schema.definitions,
    definition.kind ≠ .scalar ∧ definition.name = name))

instance (schema : Schema) (config : Config) (name : String) :
    Decidable (schema.Resolves config name) :=
  inferInstanceAs (Decidable (schema.Defines name ∨ name ∈ config.scalarMap.names))

/-! ## Names of each kind -/

/-- The contents of one kind are named as the definitions of that kind are. -/
theorem mem_names_filterMap {Content : Type} {kind : DefinitionKind}
    {content? : Definition -> Option Content} {label : Content -> String}
    (named : ∀ definition, (content? definition).map label =
      if definition.kind = kind then some definition.name else none)
    {definitions : List Definition} {name : String} :
    name ∈ (definitions.filterMap content?).map label ↔
      ∃ definition ∈ definitions, definition.kind = kind ∧ definition.name = name := by
  rw [List.map_filterMap, List.mem_filterMap]
  refine exists_congr fun definition => and_congr_right fun _ => ?_
  rw [named definition]
  by_cases same : definition.kind = kind
  · rw [if_pos same, Option.some_inj]
    exact (and_iff_right same).symm
  · rw [if_neg same]
    exact ⟨fun found => absurd found (Option.some_ne_none name).symm,
      fun both => absurd both.1 same⟩

variable {schema : Schema} {name : String}

theorem mem_enumNames : name ∈ schema.enumNames ↔
    ∃ definition ∈ schema.definitions, definition.kind = .enum ∧ definition.name = name :=
  mem_names_filterMap fun definition => by cases definition <;> rfl

theorem mem_objectNames : name ∈ schema.objects.map Record.name ↔
    ∃ definition ∈ schema.definitions, definition.kind = .object ∧ definition.name = name :=
  mem_names_filterMap fun definition => by cases definition <;> rfl

theorem mem_inputNames : name ∈ schema.inputs.map Record.name ↔
    ∃ definition ∈ schema.definitions, definition.kind = .input ∧ definition.name = name :=
  mem_names_filterMap fun definition => by cases definition <;> rfl

/-- Each definition that is no scalar is of one of the other three kinds. -/
theorem defines_iff : schema.Defines name ↔
    name ∈ schema.enumNames ∨ name ∈ schema.objects.map Record.name ∨
      name ∈ schema.inputs.map Record.name := by
  rw [mem_enumNames, mem_objectNames, mem_inputNames]
  constructor
  · rintro ⟨definition, member, notScalar, named⟩
    cases definition with
    | scalar declared => exact absurd rfl notScalar
    | object declared => exact Or.inr (Or.inl ⟨_, member, rfl, named⟩)
    | enum declared => exact Or.inl ⟨_, member, rfl, named⟩
    | input declared => exact Or.inr (Or.inr ⟨_, member, rfl, named⟩)
  · have other {kind : DefinitionKind} (notScalar : kind ≠ .scalar) :
        (∃ definition ∈ schema.definitions, definition.kind = kind ∧ definition.name = name) ->
          schema.Defines name := by
      rintro ⟨definition, member, same, named⟩
      exact ⟨definition, member, same ▸ notScalar, named⟩
    rintro (listed | listed | listed)
    · exact other (by decide) listed
    · exact other (by decide) listed
    · exact other (by decide) listed

end Schema

/-! ## Descriptors -/

/-- The wrappers of a reference do not hide the name in the middle. -/
theorem TypeRef.shapeWithin_typeName (type : TypeRef) :
    ∀ nullable, (type.shapeWithin nullable).typeName = type.typeName := by
  induction type with
  | named name => exact fun _ => rfl
  | list inner inductionHypothesis =>
      intro nullable
      rw [typeName, ← inductionHypothesis true, shapeWithin]
      by_cases nested : (inner.shapeWithin true).isList
      · rw [if_pos nested]
      · rw [if_neg nested]
  | nonNull inner inductionHypothesis => exact fun _ => inductionHypothesis false

theorem TypeRef.shape_typeName (type : TypeRef) : type.shape.typeName = type.typeName :=
  type.shapeWithin_typeName true

namespace Resolver

@[simp] theorem resolve_name (resolver : Resolver) (label : String) (type : TypeRef) :
    (resolver.resolve label type).name = label :=
  rfl

@[simp] theorem resolve_typeName (resolver : Resolver) (label : String) (type : TypeRef) :
    (resolver.resolve label type).typeName = type.typeName :=
  type.shape_typeName

/-- A reference remains just if its name is neither an enum nor mapped. -/
theorem isObject_resolve {resolver : Resolver} {label : String} {type : TypeRef} :
    (resolver.resolve label type).isObject = true ↔
      type.typeName ∉ resolver.enums ∧ type.typeName ∉ resolver.scalars.names := by
  unfold Descriptor.isObject resolve
  dsimp only
  rw [type.shape_typeName, Bool.and_eq_true, Bool.not_eq_true', Option.isNone_iff_eq_none]
  by_cases listed : type.typeName ∈ resolver.enums
  · simp [listed]
  · simp [listed, ScalarMap.find?_eq_none_iff]

end Resolver

/-! ## Runs -/

section

variable (config : Config) (schema : Schema) (documents : List Document)

theorem knows_generate {name : String} :
    (generate config schema documents).schema.knows name = true ↔
      name ∈ schema.objects.map Record.name ∨ name ∈ schema.inputs.map Record.name := by
  unfold ResolvedSchema.knows
  rw [generate_schema, Bool.or_eq_true, List.contains_iff_mem, List.contains_iff_mem,
    List.map_map, List.map_map]
  rfl

/-- What is reported of a resolved field or variable is what its source says. -/
theorem isObject_and_not_knows {label : String} {type : TypeRef} :
    (((schema.resolver config).resolve label type).isObject &&
      !(generate config schema documents).schema.knows type.typeName) =
        decide (¬ schema.Resolves config type.typeName) := by
  rw [Bool.eq_iff_iff, decide_eq_true_iff, Bool.and_eq_true, Bool.not_eq_true',
    Resolver.isObject_resolve, ← Bool.not_eq_true, knows_generate, Schema.Resolves,
    Schema.defines_iff]
  rw [and_right_comm, ← not_or, ← not_or]
  rfl

theorem unresolvedAmong_generate {Declared : Type} (label : Declared -> String)
    (type : Declared -> TypeRef) (owner : String) (declarations : List Declared) :
    (generate config schema documents).schema.unresolvedAmong owner
        (declarations.map fun declared =>
          (schema.resolver config).resolve (label declared) (type declared)) =
      (declarations.map fun declared =>
          (⟨owner, label declared, (type declared).typeName⟩ : UnresolvedReference)).filter
        fun reference => decide (¬ schema.Resolves config reference.typeName) := by
  unfold ResolvedSchema.unresolvedAmong
  rw [List.filter_map, List.filter_map, List.map_map]
  have same : declarations.filter ((fun field => field.isObject &&
        !(generate config schema documents).schema.knows field.typeName) ∘
          fun declared => (schema.resolver config).resolve (label declared) (type declared)) =
      declarations.filter fun declared =>
        decide (¬ schema.Resolves config (type declared).typeName) := by
    refine List.filter_congr fun declared _ => ?_
    rw [Function.comp_apply, Resolver.resolve_typeName]
    exact isObject_and_not_knows config schema documents
  rw [same]
  refine List.map_congr_left fun declared _ => ?_
  rw [Function.comp_apply, Resolver.resolve_name, Resolver.resolve_typeName]

theorem generate_unresolvedReferences :
    (generate config schema documents).unresolvedReferences =
      (schema.mentions documents).filter fun reference =>
        decide (¬ schema.Resolves config reference.typeName) := by
  unfold Output.unresolvedReferences ResolvedSchema.unresolvedReferences Schema.mentions
  rw [List.filter_append, List.filter_append, List.filter_flatMap, List.filter_flatMap,
    List.filter_flatMap]
  have ofRecords (records : List (Record FieldDef)) :
      ((records.map (schema.resolver config).resolveRecord).flatMap fun record =>
          (generate config schema documents).schema.unresolvedAmong record.name record.fields) =
        records.flatMap fun record => record.mentions.filter fun reference =>
          decide (¬ schema.Resolves config reference.typeName) := by
    rw [List.flatMap_map]
    exact List.flatMap_congr fun record _ => unresolvedAmong_generate config schema documents
      FieldDef.name FieldDef.type record.name record.fields
  have ofOperations (operations : List (Operation VariableDef)) :
      ((operations.map (schema.resolver config).resolveOperation).flatMap fun operation =>
          (generate config schema documents).schema.unresolvedAmong operation.label
            operation.parameters) =
        operations.flatMap fun operation => operation.mentions.filter fun reference =>
          decide (¬ schema.Resolves config reference.typeName) := by
    rw [List.flatMap_map]
    exact List.flatMap_congr fun operation _ => unresolvedAmong_generate config schema documents
      VariableDef.name VariableDef.type operation.label operation.parameters
  rw [generate_schema_objects, generate_schema_inputs, generate_operations, ofRecords, ofRecords,
    ofOperations]

end

namespace Output

variable (output : Output)

theorem validate_eq : output.validate =
    match output.unresolvedReferences with
    | [] => .ok ()
    | first :: _ => .error (.schema (.unresolved first)) := by
  unfold validate ResolvedSchema.validate unresolvedReferences
  cases output.schema.unresolvedReferences output.operations with
  | nil => rfl
  | cons first rest => rfl

theorem validate_eq_ok_iff : output.validate = .ok () ↔ output.unresolvedReferences = [] := by
  rw [validate_eq]
  cases output.unresolvedReferences with
  | nil => exact ⟨fun _ => rfl, fun _ => rfl⟩
  | cons first rest => exact ⟨(nomatch ·), (nomatch ·)⟩

theorem validate_eq_error_iff (reference : UnresolvedReference) :
    output.validate = .error (.schema (.unresolved reference)) ↔
      output.unresolvedReferences.head? = some reference := by
  rw [validate_eq]
  cases output.unresolvedReferences with
  | nil => exact ⟨(nomatch ·), (nomatch ·)⟩
  | cons first rest =>
      rw [List.head?_cons, Except.error.injEq, Failure.schema.injEq,
        SchemaFailure.unresolved.injEq, Option.some_inj]

end Output

/-- The unresolved references are the mentions of types that neither the schema defines
nor the configuration maps, each of them once and in source order.  A run is valid just
if there are none, and otherwise the first is its failure.  Filtering changes neither. -/
theorem unresolved_references_are_exact (config : Config) (schema : Schema)
    (documents : List Document) :
    let output := generate config schema documents
    let unresolved := (schema.mentions documents).filter fun reference =>
      decide (¬ schema.Resolves config reference.typeName)
    output.unresolvedReferences = unresolved ∧
    (output.validate = .ok () ↔ unresolved = []) ∧
    (∀ reference, output.validate = .error (.schema (.unresolved reference)) ↔
      unresolved.head? = some reference) ∧
    ∀ enabled : Bool,
      let switched := generate (config.withFiltering enabled) schema documents
      switched.unresolvedReferences = unresolved ∧ switched.validate = output.validate := by
  intro output unresolved
  have exactly : output.unresolvedReferences = unresolved :=
    generate_unresolvedReferences config schema documents
  refine ⟨exactly, ?_, fun reference => ?_, fun enabled => ?_⟩
  · rw [← exactly]
    exact output.validate_eq_ok_iff
  · rw [← exactly]
    exact output.validate_eq_error_iff reference
  · exact ⟨generate_unresolvedReferences (config.withFiltering enabled) schema documents, rfl⟩

/-- A declared scalar is resolved only if it is mapped, and lists do not hide it. -/
example :
    let schema : Schema := ⟨[.scalar ⟨"Date", none⟩,
      .object ⟨"Post", none, [⟨"at", .list (.nonNull (.named "Date")), none⟩,
        ⟨"state", .named "State", none⟩]⟩, .enum ⟨"State", none, []⟩]⟩
    let document : Document := ⟨[⟨none, .mutation, [⟨"post", .named "PostInput"⟩]⟩]⟩
    (generate {} schema [document]).unresolvedReferences =
      [⟨"Post", "at", "Date"⟩, ⟨"mutation", "post", "PostInput"⟩] := by
  decide +kernel

end SchemaBindings
