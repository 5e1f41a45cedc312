import SchemaBindings.Proofs.UnresolvedReferences

namespace SchemaBindings

/-!
# Classes of types

A descriptor records the class of its type in two independent fields, which could
contradict each other and could differ between two descriptors of one type.  In the
output of a run they do neither.  All descriptors come from one resolver, which knows all
the enums of the schema and the whole scalar map before it resolves anything, and what a
resolver records depends on the type name alone.

So it does not matter where a descriptor stands, whether the enum is declared before or
after its use, or whether a scalar is mapped under the name of an enum.  Two descriptors
with one type name have one class, since both have the class of the name.
-/

namespace Resolver

variable (resolver : Resolver)

/-- The class of a name: an enum comes before a mapped scalar. -/
def classOf (name : String) : TypeClass :=
  if resolver.enums.contains name then .enum
  else ((resolver.scalars.find? name).map TypeClass.scalar).getD .object

@[simp] theorem resolve_isEnum (label : String) (type : TypeRef) :
    (resolver.resolve label type).isEnum = resolver.enums.contains type.typeName :=
  congrArg resolver.enums.contains type.shape_typeName

@[simp] theorem resolve_scalar (label : String) (type : TypeRef) :
    (resolver.resolve label type).scalar =
      if resolver.enums.contains type.typeName then none
      else resolver.scalars.find? type.typeName :=
  congrArg (fun name => if resolver.enums.contains name then none else resolver.scalars.find? name)
    type.shape_typeName

end Resolver

/-- The flag of a list that may be absent is set only together with the flag of a list. -/
theorem TypeRef.isList_of_isNullableList (type : TypeRef) :
    ∀ nullable, (type.shapeWithin nullable).isNullableList = true ->
      (type.shapeWithin nullable).isList = true := by
  induction type with
  | named name =>
      intro nullable flag
      exact absurd flag Bool.false_ne_true
  | list inner inductionHypothesis =>
      intro nullable flag
      rw [shapeWithin] at flag ⊢
      by_cases nested : (inner.shapeWithin true).isList
      · rw [if_pos nested]
        exact nested
      · rw [if_neg nested]
  | nonNull inner inductionHypothesis => exact fun _ => inductionHypothesis false

namespace Descriptor

variable {resolver : Resolver} {field other : Descriptor}

/-- What a descriptor records is what a resolver finds under its type name. -/
structure Coherent (resolver : Resolver) (field : Descriptor) : Prop where
  isEnum_iff : field.isEnum = true ↔ field.typeName ∈ resolver.enums
  scalar_eq : field.scalar =
    if field.isEnum then none else resolver.scalars.find? field.typeName
  isList_of_isNullableList : field.isNullableList = true -> field.isList = true

/-- The three tests for a class exclude each other, and the class is that of the test that
succeeds. -/
structure Classified (field : Descriptor) : Prop where
  isEnum_iff : field.isEnum = true ↔ field.typeClass = .enum
  scalar_iff : ∀ target, field.scalar = some target ↔ field.typeClass = .scalar target
  isScalar_iff : field.isScalar = true ↔ ∃ target, field.typeClass = .scalar target
  isObject_iff : field.isObject = true ↔ field.typeClass = .object
  exactly_one : [field.isEnum, field.isScalar, field.isObject].count true = 1

/-- A descriptor that is not both an enum and a scalar has one class. -/
theorem classified_of_exclusive (exclusive : field.isEnum = true -> field.scalar = none) :
    field.Classified := by
  cases isEnum : field.isEnum with
  | true =>
      have scalar := exclusive isEnum
      constructor <;> simp [isEnum, scalar, typeClass, isScalar, isObject]
  | false =>
      cases scalar : field.scalar with
      | none => constructor <;> simp [isEnum, scalar, typeClass, isScalar, isObject]
      | some target => constructor <;> simp [isEnum, scalar, typeClass, isScalar, isObject]

namespace Coherent

theorem scalar_eq_none (coherent : field.Coherent resolver) (isEnum : field.isEnum = true) :
    field.scalar = none := by
  rw [coherent.scalar_eq, if_pos isEnum]

theorem classified (coherent : field.Coherent resolver) : field.Classified :=
  classified_of_exclusive coherent.scalar_eq_none

/-- The class of a descriptor is the class of its type name. -/
theorem typeClass_eq (coherent : field.Coherent resolver) :
    field.typeClass = resolver.classOf field.typeName := by
  unfold Resolver.classOf typeClass
  cases isEnum : field.isEnum with
  | true =>
      have listed := List.contains_iff_mem.mpr (coherent.isEnum_iff.mp isEnum)
      rw [coherent.scalar_eq_none isEnum, if_pos listed]
      rfl
  | false =>
      have unlisted : ¬ resolver.enums.contains field.typeName = true := by
        intro listed
        have marked := coherent.isEnum_iff.mpr (List.contains_iff_mem.mp listed)
        exact Bool.false_ne_true (isEnum.symm.trans marked)
      rw [coherent.scalar_eq, isEnum, if_neg unlisted, if_neg Bool.false_ne_true]
      cases resolver.scalars.find? field.typeName with
      | none => rfl
      | some target => rfl

end Coherent

end Descriptor

/-- Whatever a resolver resolves records what the resolver finds. -/
theorem Resolver.coherent_resolve (resolver : Resolver) (label : String) (type : TypeRef) :
    (resolver.resolve label type).Coherent resolver where
  isEnum_iff := by
    rw [resolve_isEnum, resolve_typeName]
    exact List.contains_iff_mem
  scalar_eq := by
    rw [resolve_isEnum, resolve_scalar, resolve_typeName]
  isList_of_isNullableList := type.isList_of_isNullableList true

/-! ## Descriptors of an output -/

/-- All descriptors of an output: those of object types, of input objects, of emitted input
objects and of operations. -/
def Output.descriptors (output : Output) : List Descriptor :=
  output.schema.objects.flatMap Record.fields ++ output.schema.inputs.flatMap Record.fields
    ++ output.inputs.flatMap Record.fields
    ++ output.operations.flatMap Operation.parameters

section

variable (config : Config) (schema : Schema) (documents : List Document)

/-- Every descriptor of an output comes from the resolver of the run, and the filter
changes none. -/
theorem coherent_of_mem_descriptors :
    ∀ field ∈ (generate config schema documents).descriptors,
      field.Coherent (schema.resolver config) := by
  have ofRecords (records : List (Record FieldDef)) :
      ∀ record ∈ records.map (schema.resolver config).resolveRecord, ∀ field ∈ record.fields,
        field.Coherent (schema.resolver config) := by
    intro record member field listed
    rcases List.mem_map.mp member with ⟨declared, _, rfl⟩
    rcases List.mem_map.mp listed with ⟨source, _, rfl⟩
    exact (schema.resolver config).coherent_resolve source.name source.type
  intro field member
  unfold Output.descriptors at member
  rw [List.mem_append, List.mem_append, List.mem_append, List.mem_flatMap, List.mem_flatMap,
    List.mem_flatMap, List.mem_flatMap] at member
  rcases member with ((⟨object, among, listed⟩ | ⟨input, among, listed⟩) |
    ⟨input, emitted, listed⟩) | ⟨operation, among, listed⟩
  · rw [generate_schema_objects] at among
    exact ofRecords schema.objects object among field listed
  · rw [generate_schema_inputs] at among
    exact ofRecords schema.inputs input among field listed
  · have among := (generate_inputs_sublist config schema documents).mem emitted
    rw [generate_schema_inputs] at among
    exact ofRecords schema.inputs input among field listed
  · rw [generate_operations] at among
    rcases List.mem_map.mp among with ⟨declared, _, rfl⟩
    rcases List.mem_map.mp listed with ⟨source, _, rfl⟩
    exact (schema.resolver config).coherent_resolve source.name source.type

end

/-- Wherever a descriptor stands in an output, it is marked as an enum just if the schema
declares an enum of its type name anywhere, it has the scalar target that the run maps the
name to unless it is an enum, and it has one class, which all descriptors of that type name
share. -/
theorem classes_are_coherent (config : Config) (schema : Schema) (documents : List Document) :
    let output := generate config schema documents
    (∀ field ∈ output.descriptors,
      (field.isEnum = true ↔ ∃ definition ∈ schema.definitions,
        definition.kind = .enum ∧ definition.name = field.typeName) ∧
      field.scalar = (if field.isEnum then none else config.scalarMap.find? field.typeName) ∧
      (field.isNullableList = true -> field.isList = true) ∧
      field.Classified) ∧
    ∀ field ∈ output.descriptors, ∀ other ∈ output.descriptors,
      field.typeName = other.typeName -> field.typeClass = other.typeClass := by
  intro output
  have coherent := coherent_of_mem_descriptors config schema documents
  constructor
  · intro field member
    have recorded := coherent field member
    refine ⟨?_, recorded.scalar_eq, recorded.isList_of_isNullableList, recorded.classified⟩
    exact recorded.isEnum_iff.trans Schema.mem_enumNames
  · intro field member other otherMember same
    rw [(coherent field member).typeClass_eq, (coherent other otherMember).typeClass_eq, same]

/-- An enum that is declared after its uses and under whose name a scalar is mapped, next to
a built-in scalar that is mapped anew. -/
def claimedNames : Schema :=
  ⟨[.object ⟨"Post", none, [⟨"states", .nonNull (.list (.named "State")), none⟩]⟩,
    .input ⟨"PostFilter", none,
      [⟨"state", .nonNull (.named "State"), none⟩, ⟨"size", .list (.named "Int"), none⟩]⟩,
    .enum ⟨"State", none, []⟩]⟩

theorem classes_are_coherent_claimedNames :
    let config : Config := ⟨.ofPairs [("Int", "Int64.t"), ("State", "string")], true⟩
    let documents : List Document := [⟨[⟨none, .query, [⟨"filter", .named "PostFilter"⟩]⟩]⟩]
    let output := generate config claimedNames documents
    let states : Descriptor := ⟨"states", "State", true, false, true, true, none⟩
    let state : Descriptor := ⟨"state", "State", false, false, false, true, none⟩
    let size : Descriptor := ⟨"size", "Int", true, true, true, false, some "Int64.t"⟩
    output.inputs.flatMap Record.fields = [state, size] ∧
      states ∈ output.descriptors ∧ state ∈ output.descriptors ∧ size ∈ output.descriptors ∧
      (size.isEnum = true ↔ ∃ definition ∈ claimedNames.definitions,
        definition.kind = .enum ∧ definition.name = size.typeName) ∧
      size.scalar = (if size.isEnum then none else config.scalarMap.find? size.typeName) ∧
      size.isNullableList = true ∧ size.isList = true ∧ size.Classified ∧
      states.typeName = state.typeName ∧ states.typeClass = state.typeClass := by
  intro config documents output states state size
  have object : states ∈ output.descriptors := by decide +kernel
  have input : state ∈ output.descriptors := by decide +kernel
  have scalar : size ∈ output.descriptors := by decide +kernel
  obtain ⟨recorded, shared⟩ := classes_are_coherent config claimedNames documents
  have ⟨isEnum, target, isList, classified⟩ := recorded size scalar
  exact ⟨by decide +kernel, object, input, scalar, isEnum, target, rfl, isList rfl, classified, rfl,
    shared states object state input rfl⟩

end SchemaBindings
