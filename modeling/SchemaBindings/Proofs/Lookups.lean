import SchemaBindings.Proofs.Classes
import SchemaBindings.Proofs.SelfContained

namespace SchemaBindings

/-!
# Looking up names

A name can be looked up in a schema, among all its definitions, and in the resolved schema,
among the object types, among the input objects and among the names of the enums.  A lookup
answers with the first definition that it meets, so that what stands in front of a definition
decides whether it is found: for a schema a definition of any kind, for a list of one kind only
another one of the same kind.  The closure expands a name by the same rule, and thus by the
definition that is found among the input objects.

Where all definitions have different names, nothing stands in front of another of its name, and
the answers agree: a name belongs to one kind at most, the schema gives a definition of this
kind, and just the list of this kind has it.
-/

theorem Definition.object?_eq_some_iff {definition : Definition} {declared : Record FieldDef} :
    definition.object? = some declared ↔ definition = .object declared := by
  cases definition <;> simp [object?]

theorem Definition.input?_eq_some_iff {definition : Definition} {declared : Record FieldDef} :
    definition.input? = some declared ↔ definition = .input declared := by
  cases definition <;> simp [input?]

namespace Schema

/-- No other definition of the same kind and the same name stands in front of it. -/
def IsFirst (schema : Schema) (definition : Definition) : Prop :=
  ∃ before after, schema.definitions = before ++ definition :: after ∧
    ∀ earlier ∈ before, earlier.kind = definition.kind -> earlier.name ≠ definition.name

variable {schema : Schema} {name : String}

/-! ## Records of one kind -/

section

variable {content? : Definition -> Option (Record FieldDef)}
  {make : Record FieldDef -> Definition} {kind : DefinitionKind}
  (content : ∀ {definition declared}, content? definition = some declared ↔
    definition = make declared)
  (labelled : ∀ declared, (make declared).name = declared.name)
  (ofKind : ∀ definition, definition.kind = kind ↔ ∃ declared, definition = make declared)
include content labelled ofKind

/-- The first record of a name comes from the first definition of its kind and its name. -/
theorem find?_filterMap_eq_some_iff {declared : Record FieldDef} :
    ((schema.definitions.filterMap content?).find? fun record => record.name == name) =
        some declared ↔ declared.name = name ∧ schema.IsFirst (make declared) := by
  have own : (make declared).kind = kind := (ofKind _).mpr ⟨declared, rfl⟩
  have passes {definition : Definition} {name : String} :
      (content? definition).any (fun record => record.name == name) = true ↔
        definition.kind = kind ∧ definition.name = name := by
    rw [Option.any_eq_true, ofKind]
    constructor
    · rintro ⟨other, found, named⟩
      rw [content.mp found, labelled]
      exact ⟨⟨other, rfl⟩, beq_iff_eq.mp named⟩
    · rintro ⟨⟨other, rfl⟩, named⟩
      exact ⟨other, content.mpr rfl, beq_iff_eq.mpr (labelled other ▸ named)⟩
  rw [List.find?_filterMap, Option.bind_eq_some_iff]
  constructor
  · rintro ⟨definition, found, same⟩
    rw [content.mp same, List.find?_eq_some_iff_append] at found
    rcases found with ⟨test, before, after, split, missed⟩
    have named := labelled declared ▸ (passes.mp test).2
    refine ⟨named, before, after, split, fun earlier member alike same => ?_⟩
    have missed := missed earlier member
    rw [passes.mpr ⟨alike.trans own, same.trans (labelled declared ▸ named)⟩] at missed
    exact Bool.false_ne_true missed
  · rintro ⟨named, before, after, split, first⟩
    refine ⟨make declared, List.find?_eq_some_iff_append.mpr ⟨?_, before, after, split, ?_⟩,
      content.mpr rfl⟩
    · exact passes.mpr ⟨own, (labelled declared).trans named⟩
    · intro earlier member
      rw [Bool.not_eq_true', Bool.eq_false_iff]
      intro test
      have ⟨alike, same⟩ := passes.mp test
      exact first earlier member (alike.trans own.symm)
        (same.trans (named.symm.trans (labelled declared).symm))

/-- Resolution keeps names, so a resolved record is found where its declaration is. -/
theorem find?_resolved_eq_some_iff (resolver : Resolver) {resolved : Record Descriptor} :
    (((schema.definitions.filterMap content?).map resolver.resolveRecord).find?
        fun record => record.name == name) = some resolved ↔
      ∃ declared, declared.name = name ∧ schema.IsFirst (make declared) ∧
        resolver.resolveRecord declared = resolved := by
  rw [List.find?_map, Option.map_eq_some_iff]
  refine exists_congr fun declared => ?_
  rw [← and_assoc]
  exact and_congr_left fun _ => find?_filterMap_eq_some_iff content labelled ofKind

end

/-! ## Definitions of different names -/

section

variable (distinct : (schema.definitions.map Definition.name).Nodup)
include distinct

theorem definition?_eq_some_iff_of_nodup {definition : Definition} :
    schema.definition? name = some definition ↔
      definition ∈ schema.definitions ∧ definition.name = name := by
  constructor
  · intro found
    have test := List.find?_some found
    exact ⟨List.mem_of_find?_eq_some found, beq_iff_eq.mp test⟩
  · rintro ⟨member, rfl⟩
    exact find?_name_of_nodup distinct member

/-- The schema gives a definition of a kind just if it has one of this kind and name. -/
theorem kind_definition?_of_nodup {kind : DefinitionKind} :
    (schema.definition? name).map Definition.kind = some kind ↔
      ∃ definition ∈ schema.definitions, definition.kind = kind ∧ definition.name = name := by
  rw [Option.map_eq_some_iff]
  refine exists_congr fun definition => ?_
  rw [definition?_eq_some_iff_of_nodup distinct, and_assoc]
  exact and_congr_right fun _ => and_comm

end

end Schema

/-! ## Resolved schemas -/

theorem find?_name_isSome_iff {records : List (Record Descriptor)} {name : String} :
    (records.find? fun record => record.name == name).isSome = true ↔
      name ∈ records.map Record.name := by
  rw [List.find?_isSome, List.mem_map]
  exact exists_congr fun record => and_congr_right fun _ => beq_iff_eq

/-- The index of a closure answers as a lookup does. -/
theorem definition?_ofInputs_inputs (resolved : ResolvedSchema) (name : String) :
    (Index.ofInputs resolved.inputs).definition? name = resolved.input? name :=
  Index.definition?_ofInputs resolved.inputs

/-- The closure expands a name by the definition that a lookup finds: it marks the object-typed
names of its fields that are not marked yet, and goes on with the last of them. -/
theorem walkPending_input? (resolved : ResolvedSchema) (trail : Trail) (name : String)
    (pending : List String) :
    let index := Index.ofInputs resolved.inputs
    let found := unseen trail.visited
      ((resolved.input? name).elim [] fun input => objectNames input.fields)
    walkPending index trail (name :: pending) =
      walkPending index ⟨trail.visited ++ found, trail.expanded ++ [name]⟩
        (found.reverse ++ pending) := by
  intro index found
  have expanded : references index name =
      (resolved.input? name).elim [] fun input => objectNames input.fields := by
    unfold references
    rw [definition?_ofInputs_inputs]
    cases resolved.input? name with
    | none => rfl
    | some input => rfl
  rw [walkPending, expanded]

section

variable {schema : Schema} {scalars : ScalarMap} {name : String}

theorem finish_ofSchema : (Collected.ofSchema schema).finish scalars =
    { scalars := schema.scalars
      enums := schema.enums
      objects := schema.objects.map (Resolver.resolveRecord ⟨scalars, schema.enumNames⟩)
      inputs := schema.inputs.map (Resolver.resolveRecord ⟨scalars, schema.enumNames⟩)
      scalarMap := scalars } := by
  rw [Collected.ofSchema_eq]
  rfl

theorem object?_eq_some_iff {object : Record Descriptor} :
    ((Collected.ofSchema schema).finish scalars).object? name = some object ↔
      ∃ declared, declared.name = name ∧ schema.IsFirst (.object declared) ∧
        Resolver.resolveRecord ⟨scalars, schema.enumNames⟩ declared = object := by
  have ofKind (definition : Definition) :
      definition.kind = .object ↔ ∃ declared, definition = .object declared := by
    cases definition <;> simp [Definition.kind]
  rw [finish_ofSchema]
  exact Schema.find?_resolved_eq_some_iff Definition.object?_eq_some_iff (fun _ => rfl) ofKind _

theorem input?_eq_some_iff {input : Record Descriptor} :
    ((Collected.ofSchema schema).finish scalars).input? name = some input ↔
      ∃ declared, declared.name = name ∧ schema.IsFirst (.input declared) ∧
        Resolver.resolveRecord ⟨scalars, schema.enumNames⟩ declared = input := by
  have ofKind (definition : Definition) :
      definition.kind = .input ↔ ∃ declared, definition = .input declared := by
    cases definition <;> simp [Definition.kind]
  rw [finish_ofSchema]
  exact Schema.find?_resolved_eq_some_iff Definition.input?_eq_some_iff (fun _ => rfl) ofKind _

theorem object?_isSome_iff :
    (((Collected.ofSchema schema).finish scalars).object? name).isSome = true ↔
      ∃ definition ∈ schema.definitions, definition.kind = .object ∧ definition.name = name := by
  unfold ResolvedSchema.object?
  rw [finish_ofSchema, find?_name_isSome_iff, List.map_map]
  exact Schema.mem_objectNames

theorem input?_isSome_iff :
    (((Collected.ofSchema schema).finish scalars).input? name).isSome = true ↔
      ∃ definition ∈ schema.definitions, definition.kind = .input ∧ definition.name = name := by
  unfold ResolvedSchema.input?
  rw [finish_ofSchema, find?_name_isSome_iff, List.map_map]
  exact Schema.mem_inputNames

theorem mem_enumNames_finish : name ∈ ((Collected.ofSchema schema).finish scalars).enumNames ↔
    ∃ definition ∈ schema.definitions, definition.kind = .enum ∧ definition.name = name := by
  rw [finish_ofSchema]
  exact Schema.mem_enumNames

end

/-- In a resolved schema an object type or an input object is found by its name just if the
schema has one, and it is the first that the schema has, with its fields resolved; the index of
the closure has the same input object, and the closure expands the name by it.  If all definitions have different names, the kind
of the definition that the schema gives for a name says which of the resolved lists has the
name.  No two of them have it, and a field of this type is marked as an enum just if the third
has. -/
theorem lookups_agree (schema : Schema) (scalars : ScalarMap) (name : String) :
    let resolved := (Collected.ofSchema schema).finish scalars
    let index := Index.ofInputs resolved.inputs
    let resolver : Resolver := ⟨scalars, schema.enumNames⟩
    let kind := (schema.definition? name).map Definition.kind
    (∀ object, resolved.object? name = some object ↔ ∃ declared, declared.name = name ∧
      schema.IsFirst (.object declared) ∧ resolver.resolveRecord declared = object) ∧
    (resolved.object? name = none ↔
      ∀ definition ∈ schema.definitions, definition.kind = .object -> definition.name ≠ name) ∧
    (∀ input, resolved.input? name = some input ↔ ∃ declared, declared.name = name ∧
      schema.IsFirst (.input declared) ∧ resolver.resolveRecord declared = input) ∧
    (resolved.input? name = none ↔
      ∀ definition ∈ schema.definitions, definition.kind = .input -> definition.name ≠ name) ∧
    index.definition? name = resolved.input? name ∧
    (∀ trail pending,
      let found := unseen trail.visited
        ((resolved.input? name).elim [] fun input => objectNames input.fields)
      walkPending index trail (name :: pending) =
        walkPending index ⟨trail.visited ++ found, trail.expanded ++ [name]⟩
          (found.reverse ++ pending)) ∧
    ((schema.definitions.map Definition.name).Nodup ->
      (kind = some .object ↔ (resolved.object? name).isSome = true) ∧
      (kind = some .input ↔ (resolved.input? name).isSome = true) ∧
      (kind = some .enum ↔ name ∈ resolved.enumNames) ∧
      ¬ ((resolved.object? name).isSome = true ∧ (resolved.input? name).isSome = true) ∧
      ¬ ((resolved.object? name).isSome = true ∧ name ∈ resolved.enumNames) ∧
      ¬ ((resolved.input? name).isSome = true ∧ name ∈ resolved.enumNames) ∧
      ∀ label description,
        (resolver.resolveField ⟨label, .named name, description⟩).isEnum = true ↔
          kind = some .enum) := by
  intro resolved index resolver kind
  have missing {found : Option (Record Descriptor)} {wanted : DefinitionKind}
      (isSome : found.isSome = true ↔
        ∃ definition ∈ schema.definitions, definition.kind = wanted ∧ definition.name = name) :
      found = none ↔
        ∀ definition ∈ schema.definitions, definition.kind = wanted -> definition.name ≠ name := by
    rw [← Option.not_isSome_iff_eq_none, isSome]
    simp only [not_exists, not_and]
  refine ⟨fun _ => object?_eq_some_iff, missing object?_isSome_iff, fun _ => input?_eq_some_iff,
    missing input?_isSome_iff, definition?_ofInputs_inputs resolved name,
    fun trail pending => walkPending_input? resolved trail name pending, fun distinct => ?_⟩
  have ofKind (wanted : DefinitionKind) : kind = some wanted ↔
      ∃ definition ∈ schema.definitions, definition.kind = wanted ∧ definition.name = name :=
    Schema.kind_definition?_of_nodup distinct
  have object : kind = some .object ↔ (resolved.object? name).isSome = true :=
    (ofKind .object).trans object?_isSome_iff.symm
  have input : kind = some .input ↔ (resolved.input? name).isSome = true :=
    (ofKind .input).trans input?_isSome_iff.symm
  have enum : kind = some .enum ↔ name ∈ resolved.enumNames :=
    (ofKind .enum).trans mem_enumNames_finish.symm
  have apart {one other : DefinitionKind} (different : one ≠ other) :
      ¬ (kind = some one ∧ kind = some other) :=
    fun both => different (Option.some.inj (both.1.symm.trans both.2))
  rw [← object, ← input, ← enum]
  refine ⟨.rfl, .rfl, .rfl, apart (by decide), apart (by decide), apart (by decide), ?_⟩
  intro label description
  rw [ofKind .enum, ← Schema.mem_enumNames, ← List.contains_iff_mem]
  unfold Resolver.resolveField
  rw [Resolver.resolve_isEnum]
  rfl

/-- Definitions of all kinds with different names. -/
def differentNames : Schema :=
  ⟨[.object ⟨"User", none, [⟨"state", .named "State", none⟩]⟩, .scalar ⟨"Date", none⟩,
    .input ⟨"Filter", none, [⟨"since", .named "Date", none⟩, ⟨"next", .named "Filter", none⟩]⟩,
    .enum ⟨"State", none, [⟨"OPEN", none⟩]⟩]⟩

theorem lookups_agree_differentNames :
    let resolved := (Collected.ofSchema differentNames).finish .builtIn
    let resolver : Resolver := ⟨.builtIn, differentNames.enumNames⟩
    (differentNames.definitions.map Definition.name).Nodup ∧
      (differentNames.definition? "State").map Definition.kind = some .enum ∧
      "State" ∈ resolved.enumNames ∧
      (resolver.resolveField ⟨"state", .named "State", none⟩).isEnum = true ∧
      ¬ ((resolved.input? "State").isSome = true ∧ "State" ∈ resolved.enumNames) ∧
      (resolved.input? "Filter").isSome = true ∧
      (differentNames.definition? "Filter").map Definition.kind = some .input ∧
      (differentNames.definition? "Date").map Definition.kind = some .scalar := by
  intro resolved resolver
  have distinct : (differentNames.definitions.map Definition.name).Nodup := by decide +kernel
  have state : (differentNames.definition? "State").map Definition.kind = some .enum := by
    decide +kernel
  have filter : (resolved.input? "Filter").isSome = true := by decide +kernel
  obtain ⟨_, _, _, _, _, _, agree⟩ := lookups_agree differentNames .builtIn "State"
  obtain ⟨_, _, enum, _, _, apart, marked⟩ := agree distinct
  obtain ⟨_, _, _, _, _, _, agreeOnFilter⟩ := lookups_agree differentNames .builtIn "Filter"
  obtain ⟨_, input, _⟩ := agreeOnFilter distinct
  exact ⟨distinct, state, enum.mp state, (marked "state" none).mpr state, apart, filter,
    input.mpr filter, by decide +kernel⟩

/-- Definitions of one name that stand in front of others hide them from the schema, but from a
list only if they are of its kind. -/
example :
    let first : Record FieldDef := ⟨"Order", none, [⟨"state", .named "Order", none⟩]⟩
    let second : Record FieldDef := ⟨"Order", none, []⟩
    let schema : Schema :=
      ⟨[.object second, .input first, .enum ⟨"Order", none, []⟩, .input second]⟩
    let resolved := (Collected.ofSchema schema).finish .builtIn
    schema.definition? "Order" = some (.object second) ∧
      (resolved.input? "Order").map (fun input => input.fields.length) = some 1 ∧
      (resolved.object? "Order").isSome = true ∧ "Order" ∈ resolved.enumNames := by
  decide +kernel

end SchemaBindings
