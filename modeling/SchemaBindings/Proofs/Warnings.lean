import SchemaBindings.Proofs.SelfContained
import SchemaBindings.Proofs.UnresolvedReferences

namespace SchemaBindings

/-!
# Warnings and unresolved references

A run meets references to nothing in two ways.  The closure walks from the variables of
the operations and warns about a name that it has to expand and that no input object
defines.  Validation scans all fields and variables and reports those whose type is
neither an input object nor an object type.

Both look at the references that stand in input position, which are those of the
variables and of the first definitions that the closure expands.  There they agree,
except that the closure does not count object types as definitions: what is reported is
warned about, exactly once however many references share the name, and what is warned
about is reported unless it is an object type.  Elsewhere the closure does not look, so
that a field of an object type may be unresolved without a warning.
-/

variable {inputs : List (Record Descriptor)} {seeds : List String} {name : String}

/-! ## Names without a definition -/

theorem definitionIn_isNone_iff :
    (definitionIn inputs name).isNone = true ↔ name ∉ inputs.map Record.name := by
  unfold definitionIn
  rw [Option.isNone_iff_eq_none, List.find?_eq_none, List.mem_map]
  constructor
  · rintro missing ⟨input, member, named⟩
    exact missing input member (beq_iff_eq.mpr named)
  · intro missing input member same
    exact missing ⟨input, member, beq_iff_eq.mp same⟩

namespace Closure

/-- Nothing is left pending, so the expanded names are the marked ones in another order. -/
theorem expanded_ofSeeds_perm (inputs : List (Record Descriptor)) (seeds : List String) :
    (ofSeeds inputs seeds).trail.expanded.Perm (ofSeeds inputs seeds).names := by
  have accounted := (settled_ofSeeds inputs seeds).accounted
  rw [List.append_nil] at accounted
  exact accounted.symm

theorem undefinedNames_ofSeeds_nodup (inputs : List (Record Descriptor)) (seeds : List String) :
    (ofSeeds inputs seeds).undefinedNames.Nodup := by
  have distinct : (ofSeeds inputs seeds).trail.expanded.Nodup :=
    (expanded_ofSeeds_perm inputs seeds).nodup_iff.mpr (names_ofSeeds_nodup inputs seeds)
  exact distinct.filter _

theorem mem_undefinedNames_ofSeeds : name ∈ (ofSeeds inputs seeds).undefinedNames ↔
    Reached (RefersTo inputs) seeds name ∧ name ∉ inputs.map Record.name := by
  unfold undefinedNames
  rw [List.mem_filter, (expanded_ofSeeds_perm inputs seeds).mem_iff, mem_names_ofSeeds,
    (settled_ofSeeds inputs seeds).index_eq, Index.definition?_ofInputs, definitionIn_isNone_iff]

end Closure

/-! ## Warnings of a run -/

/-- What is reported of a name that is reached and has no definition. -/
def undefinedWarning (name : String) : Event :=
  ⟨.warn, "Input type '" ++ name ++ "' has no definition; not expanding it"⟩

theorem undefinedWarning_injective : Function.Injective undefinedWarning := by
  intro name other same
  have messages := (Event.mk.inj same).2
  rw [String.append_left_inj, String.append_right_inj] at messages
  exact messages

/-- The warnings among some events. -/
def warningsOf (events : List Event) : List Event :=
  events.filter fun event => event.level = .warn

theorem Closure.warningsOf_warnings (closure : Closure) :
    warningsOf closure.warnings = closure.undefinedNames.map undefinedWarning := by
  refine List.filter_eq_self.mpr fun event member => ?_
  rcases List.mem_map.mp member with ⟨name, _, same⟩
  exact same ▸ rfl

/-- Only the closure warns; every other report is a count. -/
theorem warningsOf_generateEvents (config : Config) (schema : Schema) (documents : List Document)
    (filtering : config.filterInputs = true) :
    let output := generate config schema documents
    warningsOf (generateEvents config schema documents) =
      (Closure.ofOperations output.schema.inputs output.operations).undefinedNames.map
        undefinedWarning := by
  intro output
  have filtered : warningsOf (filterEvents output.schema.inputs output.operations) =
      (Closure.ofOperations output.schema.inputs output.operations).undefinedNames.map
        undefinedWarning := by
    unfold filterEvents
    rw [warningsOf, List.filter_append]
    change warningsOf _ ++ [] = _
    rw [List.append_nil, Closure.warningsOf_warnings]
  unfold generateEvents
  dsimp only
  rw [if_pos filtering, warningsOf, List.filter_append, List.filter_append]
  change [] ++ warningsOf _ ++ [] = _
  rw [List.nil_append, List.append_nil]
  exact filtered

/-! ## References in input position -/

namespace ResolvedSchema

variable {schema : ResolvedSchema}

theorem exists_mem_unresolvedAmong {owner : String} {fields : List Descriptor} :
    (∃ reference ∈ schema.unresolvedAmong owner fields, reference.typeName = name) ↔
      (∃ field ∈ fields, field.isObject = true ∧ field.typeName = name) ∧
        schema.knows name = false := by
  unfold unresolvedAmong
  constructor
  · rintro ⟨reference, member, named⟩
    rcases List.mem_map.mp member with ⟨field, kept, same⟩
    have ⟨listed, test⟩ := List.mem_filter.mp kept
    have ⟨object, unknown⟩ := Bool.and_eq_true_iff.mp test
    have typed : field.typeName = name := by rw [← named, ← same]
    exact ⟨⟨field, listed, object, typed⟩, typed ▸ (Bool.not_eq_true' _).mp unknown⟩
  · rintro ⟨⟨field, listed, object, typed⟩, unknown⟩
    have test : (field.isObject && !schema.knows field.typeName) = true := by
      rw [object, typed, unknown]
      rfl
    exact ⟨_, List.mem_map_of_mem (List.mem_filter.mpr ⟨listed, test⟩), typed⟩

end ResolvedSchema

namespace Output

/-- The emitted input objects that are the first definition of their name. -/
def firstInputs (output : Output) : List (Record Descriptor) :=
  output.inputs.filter fun input => output.schema.input? input.name = some input

/-- The name stands in input position: some variable, or some field of the first
definition of an emitted input object, has it as its object type. -/
def UsesAsInput (output : Output) (name : String) : Prop :=
  UsedBy output.operations name ∨ ∃ input ∈ output.firstInputs, ∃ field ∈ input.fields,
    field.isObject = true ∧ field.typeName = name

/-- The unresolved references in input position. -/
def unresolvedInputReferences (output : Output) : List UnresolvedReference :=
  (output.firstInputs.flatMap fun input => output.schema.unresolvedAmong input.name input.fields)
    ++ output.operations.flatMap fun operation =>
        output.schema.unresolvedAmong operation.label operation.parameters

variable {output : Output}

/-- What is unresolved in input position is what stands there and is not known. -/
theorem exists_mem_unresolvedInputReferences :
    (∃ reference ∈ output.unresolvedInputReferences, reference.typeName = name) ↔
      output.UsesAsInput name ∧ output.schema.knows name = false := by
  constructor
  · rintro ⟨reference, member, named⟩
    rcases List.mem_append.mp member with inside | inside
    · rcases List.mem_flatMap.mp inside with ⟨input, first, among⟩
      have ⟨used, unknown⟩ :=
        ResolvedSchema.exists_mem_unresolvedAmong.mp ⟨reference, among, named⟩
      exact ⟨Or.inr ⟨input, first, used⟩, unknown⟩
    · rcases List.mem_flatMap.mp inside with ⟨operation, listed, among⟩
      have ⟨used, unknown⟩ :=
        ResolvedSchema.exists_mem_unresolvedAmong.mp ⟨reference, among, named⟩
      exact ⟨Or.inl ⟨operation, listed, used⟩, unknown⟩
  · rintro ⟨⟨operation, listed, used⟩ | ⟨input, first, used⟩, unknown⟩
    · rcases ResolvedSchema.exists_mem_unresolvedAmong.mpr ⟨used, unknown⟩ with
        ⟨reference, among, named⟩
      exact ⟨reference, List.mem_append_right _ (List.mem_flatMap.mpr ⟨operation, listed, among⟩),
        named⟩
    · rcases ResolvedSchema.exists_mem_unresolvedAmong.mpr ⟨used, unknown⟩ with
        ⟨reference, among, named⟩
      exact ⟨reference, List.mem_append_left _ (List.mem_flatMap.mpr ⟨input, first, among⟩),
        named⟩

/-- The references in input position are some of all references, in the same order. -/
theorem unresolvedInputReferences_sublist
    (emitted : output.inputs.Sublist output.schema.inputs) :
    output.unresolvedInputReferences.Sublist output.unresolvedReferences := by
  have first : output.firstInputs.Sublist output.schema.inputs :=
    List.filter_sublist.trans emitted
  refine List.Sublist.append ?_ (List.Sublist.refl _)
  exact (first.flatMap _).trans (List.sublist_append_right _ _)

end Output

section

variable (config : Config) (schema : Schema) (documents : List Document)

/-- With filtering on, the closure reaches just the names in input position. -/
theorem reached_iff_usesAsInput (filtering : config.filterInputs = true) :
    Reached (RefersTo (generate config schema documents).schema.inputs)
        (seedNames (generate config schema documents).operations) name ↔
      (generate config schema documents).UsesAsInput name := by
  let output := generate config schema documents
  have emitted : output.inputs = filterInputs output.schema.inputs output.operations :=
    (generate_inputs config schema documents).trans (if_pos filtering)
  constructor
  · intro reached
    rcases reached.seed_or_link with seed | ⟨owner, before, input, found, used⟩
    · exact Or.inl (mem_seedNames.mp seed)
    · have named : input.name = owner := by simpa using List.find?_some found
      have kept : input ∈ output.inputs := by
        rw [emitted]
        exact mem_filterInputs.mpr ⟨List.mem_of_find?_eq_some found, named ▸ before⟩
      have first : output.schema.input? input.name = some input := named ▸ found
      exact Or.inr ⟨input, List.mem_filter.mpr ⟨kept, decide_eq_true first⟩, used⟩
  · rintro (used | ⟨input, member, used⟩)
    · exact .of_mem (mem_seedNames.mpr used)
    · have ⟨kept, test⟩ := List.mem_filter.mp member
      have first : output.schema.input? input.name = some input := of_decide_eq_true test
      have reached := (mem_filterInputs.mp (emitted ▸ kept)).2
      exact reached.next ⟨input, first, used⟩

/-- A run warns about a name just if it stands in input position and no input object
has it. -/
theorem undefinedWarning_mem_generateEvents (filtering : config.filterInputs = true) :
    undefinedWarning name ∈ warningsOf (generateEvents config schema documents) ↔
      (generate config schema documents).UsesAsInput name ∧
        name ∉ schema.inputs.map Record.name := by
  rw [warningsOf_generateEvents config schema documents filtering,
    List.mem_map_of_injective undefinedWarning_injective, Closure.ofOperations,
    Closure.mem_undefinedNames_ofSeeds, generate_inputNames,
    reached_iff_usesAsInput config schema documents filtering]

end

/-- With filtering on, every name that an unresolved reference in input position has for
its type is warned about, and exactly once.  Nothing else is warned about but object
types that stand in input position. -/
theorem warnings_match_unresolved_references (config : Config) (schema : Schema)
    (documents : List Document) (filtering : config.filterInputs = true) :
    let output := generate config schema documents
    let warnings := warningsOf (generateEvents config schema documents)
    output.unresolvedInputReferences.Sublist output.unresolvedReferences ∧
    (∀ reference ∈ output.unresolvedInputReferences,
      warnings.count (undefinedWarning reference.typeName) = 1) ∧
    ∀ warning ∈ warnings, ∃ name, warning = undefinedWarning name ∧
      ((∃ reference ∈ output.unresolvedInputReferences, reference.typeName = name) ∨
        name ∈ schema.objects.map Record.name ∧ output.UsesAsInput name) := by
  intro output warnings
  have listed : warnings = (Closure.ofOperations output.schema.inputs
      output.operations).undefinedNames.map undefinedWarning :=
    warningsOf_generateEvents config schema documents filtering
  have distinct : warnings.Nodup := by
    rw [listed]
    exact (Closure.undefinedNames_ofSeeds_nodup _ _).map undefinedWarning_injective
  have warned (name : String) : undefinedWarning name ∈ warnings ↔
      output.UsesAsInput name ∧ name ∉ schema.inputs.map Record.name :=
    undefinedWarning_mem_generateEvents config schema documents filtering
  have known (name : String) : output.schema.knows name = true ↔
      name ∈ schema.objects.map Record.name ∨ name ∈ schema.inputs.map Record.name :=
    knows_generate config schema documents
  refine ⟨?_, ?_, ?_⟩
  · exact Output.unresolvedInputReferences_sublist (generate_inputs_sublist config schema documents)
  · intro reference member
    have ⟨used, unknown⟩ :=
      Output.exists_mem_unresolvedInputReferences.mp ⟨reference, member, rfl⟩
    have undefined : reference.typeName ∉ schema.inputs.map Record.name := by
      intro input
      exact Bool.false_ne_true (unknown.symm.trans ((known _).mpr (Or.inr input)))
    exact List.count_eq_one_of_mem distinct ((warned _).mpr ⟨used, undefined⟩)
  · intro warning member
    rcases List.mem_map.mp (listed ▸ member) with ⟨name, _, same⟩
    have ⟨used, undefined⟩ := (warned name).mp (same ▸ member)
    refine ⟨name, same.symm, ?_⟩
    cases test : output.schema.knows name with
    | false => exact Or.inl (Output.exists_mem_unresolvedInputReferences.mpr ⟨used, test⟩)
    | true =>
        have object := ((known name).mp test).resolve_right undefined
        exact Or.inr ⟨object, used⟩

/-- Two fields and a variable of one missing type, a missing type that only the second
definition of a name mentions, and an object type in input position. -/
def partlyDefined : Schema :=
  ⟨[.object ⟨"User", none, [⟨"home", .named "Nowhere", none⟩]⟩,
    .input ⟨"Filter", none, [⟨"user", .named "User", none⟩, ⟨"gone", .named "Gone", none⟩,
      ⟨"also", .nonNull (.named "Gone"), none⟩, ⟨"next", .list (.named "Filter"), none⟩]⟩,
    .input ⟨"Filter", none, [⟨"late", .named "Late", none⟩]⟩]⟩

theorem warnings_match_unresolved_references_partlyDefined :
    let config : Config := { filterInputs := true }
    let documents : List Document :=
      [⟨[⟨none, .query, [⟨"filter", .named "Filter"⟩, ⟨"gone", .named "Gone"⟩]⟩]⟩]
    let output := generate config partlyDefined documents
    let warnings := warningsOf (generateEvents config partlyDefined documents)
    let reference : UnresolvedReference := ⟨"Filter", "also", "Gone"⟩
    config.filterInputs = true ∧
      output.unresolvedReferences =
        [⟨"User", "home", "Nowhere"⟩, ⟨"Filter", "gone", "Gone"⟩, ⟨"Filter", "also", "Gone"⟩,
          ⟨"Filter", "late", "Late"⟩, ⟨"query", "gone", "Gone"⟩] ∧
      output.unresolvedInputReferences =
        [⟨"Filter", "gone", "Gone"⟩, ⟨"Filter", "also", "Gone"⟩, ⟨"query", "gone", "Gone"⟩] ∧
      warnings = [undefinedWarning "Gone", undefinedWarning "User"] ∧
      reference ∈ output.unresolvedInputReferences ∧
      warnings.count (undefinedWarning reference.typeName) = 1 ∧
      undefinedWarning "User" ∈ warnings ∧
      ∃ name, undefinedWarning "User" = undefinedWarning name ∧
        ((∃ reference ∈ output.unresolvedInputReferences, reference.typeName = name) ∨
          name ∈ partlyDefined.objects.map Record.name ∧ output.UsesAsInput name) := by
  intro config documents output warnings reference
  have references : output.unresolvedInputReferences =
      [⟨"Filter", "gone", "Gone"⟩, ⟨"Filter", "also", "Gone"⟩, ⟨"query", "gone", "Gone"⟩] := by
    decide +kernel
  have undefined : (Closure.ofOperations output.schema.inputs output.operations).undefinedNames =
      ["Gone", "User"] := by decide +kernel
  have warned : warnings = [undefinedWarning "Gone", undefinedWarning "User"] := by
    change warningsOf (generateEvents config partlyDefined documents) = _
    rw [warningsOf_generateEvents config partlyDefined documents rfl, undefined]
    rfl
  obtain ⟨_, once, accounted⟩ :=
    warnings_match_unresolved_references config partlyDefined documents rfl
  have reported : reference ∈ output.unresolvedInputReferences := by
    rw [references]
    exact List.mem_cons_of_mem _ List.mem_cons_self
  have user : undefinedWarning "User" ∈ warnings := by
    rw [warned]
    exact List.mem_cons_of_mem _ List.mem_cons_self
  exact ⟨rfl, by decide +kernel, references, warned, reported, once reference reported, user,
    accounted _ user⟩

end SchemaBindings
