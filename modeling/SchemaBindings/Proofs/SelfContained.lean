import SchemaBindings.Proofs.Collecting
import SchemaBindings.Proofs.Locality

namespace SchemaBindings

/-!
# References between emitted input objects

With filtering turned on, an emitted input object may refer to another input object
of the schema only if that one is emitted too; otherwise the bindings would name a
type that they do not contain.  This holds of the first definition of every emitted
name, and so of all definitions if no name is defined twice.

It does not hold of a later definition of the same name.  The closure expands the
first definition alone, whereas the filter keeps all definitions of a reached name.
What the later one refers to is kept just if its name is reached in another way.
-/

/-- Whatever the fields of an input object refer to is emitted, if the schema defines
it as an input object. -/
def ReferencesKept (schema : Schema) (output : Output) (input : Record Descriptor) : Prop :=
  ∀ field ∈ input.fields, field.isObject = true ->
    (∃ declared, Definition.input declared ∈ schema.definitions ∧
      declared.name = field.typeName) ->
    ∃ kept ∈ output.inputs, kept.name = field.typeName

variable {inputs : List (Record Descriptor)} {operations : List (Operation Descriptor)}

/-- A defined name is emitted just if it is reached. -/
theorem exists_mem_filterInputs {name : String} (defined : ∃ input ∈ inputs, input.name = name) :
    (∃ kept ∈ filterInputs inputs operations, kept.name = name) ↔
      Reached (RefersTo inputs) (seedNames operations) name := by
  constructor
  · rintro ⟨kept, member, named⟩
    exact named ▸ (mem_filterInputs.mp member).2
  · intro reached
    rcases defined with ⟨input, member, named⟩
    exact ⟨input, mem_filterInputs.mpr ⟨member, named.symm ▸ reached⟩, named⟩

/-- Where names are distinct, every item is the first of its name. -/
theorem find?_name_of_nodup {Item : Type} {label : Item -> String} {items : List Item}
    (distinct : (items.map label).Nodup) {item : Item} (member : item ∈ items) :
    (items.find? fun other => label other == label item) = some item := by
  cases found : items.find? fun other => label other == label item with
  | none =>
      have missing := List.find?_eq_none.mp found item member
      exact absurd (beq_self_eq_true (label item)) missing
  | some first =>
      have test := List.find?_some found
      have named : label first = label item := beq_iff_eq.mp test
      rw [List.inj_on_of_nodup_map distinct (List.mem_of_find?_eq_some found) member named]

/-- An output defines the input objects that its schema declares. -/
theorem exists_mem_schema_inputs {config : Config} {schema : Schema} {documents : List Document}
    {name : String}
    (defined : ∃ declared, Definition.input declared ∈ schema.definitions ∧ declared.name = name) :
    ∃ input ∈ (generate config schema documents).schema.inputs, input.name = name := by
  rcases defined with ⟨declared, member, named⟩
  rw [generate_schema]
  exact ⟨_, List.mem_map_of_mem (Schema.mem_inputs.mpr member), named⟩

/-- With filtering on, what the first definition of an emitted name refers to is emitted
too, and so it is for every definition if names are distinct.  What any emitted
definition refers to is emitted just if it is reached. -/
theorem emitted_references_are_kept (config : Config) (schema : Schema)
    (documents : List Document) (filtering : config.filterInputs = true) :
    let output := generate config schema documents
    (∀ input ∈ output.inputs, output.schema.input? input.name = some input ->
      ReferencesKept schema output input) ∧
    ((schema.inputs.map Record.name).Nodup ->
      ∀ input ∈ output.inputs, ReferencesKept schema output input) ∧
    ∀ input ∈ output.inputs, ∀ field ∈ input.fields, field.isObject = true ->
      (∃ declared, Definition.input declared ∈ schema.definitions ∧
        declared.name = field.typeName) ->
      ((∃ kept ∈ output.inputs, kept.name = field.typeName) ↔
        Reached (RefersTo output.schema.inputs) (seedNames output.operations) field.typeName) := by
  intro output
  have emitted : output.inputs = filterInputs output.schema.inputs output.operations :=
    (generate_inputs config schema documents).trans (if_pos filtering)
  have first : ∀ input ∈ output.inputs, output.schema.input? input.name = some input ->
      ReferencesKept schema output input := by
    intro input member first field listed object defined
    rw [emitted] at member ⊢
    apply (exists_mem_filterInputs (exists_mem_schema_inputs defined)).mpr
    exact (mem_filterInputs.mp member).2.next ⟨input, first, field, listed, object, rfl⟩
  refine ⟨first, ?_, ?_⟩
  · intro distinct input member
    have names := generate_inputNames config schema documents
    have listed := (mem_filterInputs.mp (emitted ▸ member)).1
    exact first input member (find?_name_of_nodup (names.symm ▸ distinct) listed)
  · intro input member field listed object defined
    rw [emitted]
    exact exists_mem_filterInputs (exists_mem_schema_inputs defined)

/-- Two input objects that refer to each other and one that no operation needs. -/
def crossReferring : Schema :=
  ⟨[.input ⟨"Left", none, [⟨"right", .nonNull (.named "Right"), none⟩]⟩,
    .input ⟨"Spare", none, [⟨"left", .named "Left", none⟩]⟩,
    .input ⟨"Right", none, [⟨"left", .list (.named "Left"), none⟩]⟩]⟩

/-- A document with one query that has one variable. -/
def documentUsing (typeName : String) : Document :=
  ⟨[⟨none, .query, [⟨"input", .named typeName⟩]⟩]⟩

theorem emitted_references_are_kept_crossReferring :
    let config : Config := { filterInputs := true }
    let output := generate config crossReferring [documentUsing "Left"]
    let field : Descriptor := ⟨"right", "Right", false, false, false, false, none⟩
    let input : Record Descriptor := ⟨"Left", none, [field]⟩
    config.filterInputs = true ∧ input ∈ output.inputs ∧
      output.schema.input? input.name = some input ∧
      (crossReferring.inputs.map Record.name).Nodup ∧ field ∈ input.fields ∧
      field.isObject = true ∧
      (∃ declared, Definition.input declared ∈ crossReferring.definitions ∧
        declared.name = field.typeName) ∧
      ReferencesKept crossReferring output input ∧
      (∃ kept ∈ output.inputs, kept.name = field.typeName) ∧
      Reached (RefersTo output.schema.inputs) (seedNames output.operations) field.typeName := by
  intro config output field input
  have member : input ∈ output.inputs := by decide +kernel
  have first : output.schema.input? input.name = some input := by decide +kernel
  have distinct : (crossReferring.inputs.map Record.name).Nodup := by decide +kernel
  have listed : field ∈ input.fields := List.mem_singleton.mpr rfl
  have defined : ∃ declared, Definition.input declared ∈ crossReferring.definitions ∧
      declared.name = field.typeName :=
    ⟨_, List.mem_cons_of_mem _ (List.mem_cons_of_mem _ (List.mem_singleton.mpr rfl)), rfl⟩
  obtain ⟨byFirst, byNames, exactly⟩ :=
    emitted_references_are_kept config crossReferring [documentUsing "Left"] rfl
  have kept := byNames distinct input member field listed rfl defined
  exact ⟨rfl, member, first, distinct, listed, rfl, defined, byFirst input member first, kept,
    (exactly input member field listed rfl defined).mp kept⟩

/-- A name with two definitions, of which only the second refers to anything. -/
def repeatedName : Schema :=
  ⟨[.input ⟨"Dup", none, [⟨"x", .named "Int", none⟩]⟩,
    .input ⟨"Dup", none, [⟨"x", .named "Second", none⟩]⟩,
    .input ⟨"Second", none, [⟨"y", .named "Int", none⟩]⟩]⟩

/-- The second definition of a repeated name is emitted although what it refers to is
not. -/
theorem emitted_reference_may_dangle :
    ¬ ∀ (config : Config) (schema : Schema) (documents : List Document),
      config.filterInputs = true ->
      ∀ input ∈ (generate config schema documents).inputs,
        ReferencesKept schema (generate config schema documents) input := by
  intro claim
  let config : Config := { filterInputs := true }
  let output := generate config repeatedName [documentUsing "Dup"]
  let field : Descriptor := ⟨"x", "Second", false, false, true, false, none⟩
  have emitted : ⟨"Dup", none, [field]⟩ ∈ output.inputs := by decide +kernel
  have defined : ∃ declared, Definition.input declared ∈ repeatedName.definitions ∧
      declared.name = "Second" :=
    ⟨_, List.mem_cons_of_mem _ (List.mem_cons_of_mem _ (List.mem_singleton.mpr rfl)), rfl⟩
  have kept := claim config repeatedName [documentUsing "Dup"] rfl _ emitted field
    (List.mem_singleton.mpr rfl) rfl defined
  have names : ∀ kept ∈ output.inputs, kept.name ≠ "Second" := by decide +kernel
  rcases kept with ⟨other, member, named⟩
  exact names other member named

end SchemaBindings
