import SchemaBindings.Proofs.DeclarationOrder
import SchemaBindings.Proofs.Loading
import SchemaBindings.Proofs.SyntheticTexts
import SchemaBindings.Proofs.Warnings

namespace SchemaBindings
namespace Synthetic

/-!
# Runs over the synthetic texts

The input objects form a ring, and the first of them is the variable of a query however large
the stride is.  So the closure goes all the way round and keeps every input object.  The chords
add references to the first input object and thus nothing that is not reached anyway.

`DateTime` is declared as a scalar and has no mapping among the built-in ones.  So every input
object has one reference that is not resolved, and the closure, which takes the name for an input
object, warns about it.  It meets the name in every input object but expands it only once.
-/

/-! ## The definitions of each kind -/

section

variable {Content : Type} {content? : Definition -> Option Content} {make : Nat -> Definition}

theorem filterMap_map_eq_nil (other : ∀ index, content? (make index) = none)
    (indices : List Nat) : (indices.map make).filterMap content? = [] := by
  rw [List.filterMap_map]
  exact List.filterMap_eq_nil_iff.mpr fun index _ => other index

theorem filterMap_map_eq_map {content : Nat -> Content}
    (same : ∀ index, content? (make index) = some (content index)) (indices : List Nat) :
    (indices.map make).filterMap content? = indices.map content := by
  rw [List.filterMap_map, ← List.filterMap_eq_map']
  exact List.filterMap_congr fun index _ => same index

end

section

variable (count : Nat)

theorem objects_schema : (schema count).objects = (List.range count).map (object count) := by
  have objects : ((List.range count).map fun index =>
      Definition.object (object count index)).filterMap Definition.object? =
        (List.range count).map (object count) :=
    filterMap_map_eq_map (by exact fun _ => rfl) _
  unfold Schema.objects schema
  rw [List.filterMap_cons_none rfl, List.filterMap_cons_none rfl, List.filterMap_append, objects,
    filterMap_map_eq_nil fun _ => rfl, List.append_nil]

theorem inputs_schema : (schema count).inputs = (List.range count).map (input count) := by
  have inputs : ((List.range count).map fun index =>
      Definition.input (input count index)).filterMap Definition.input? =
        (List.range count).map (input count) :=
    filterMap_map_eq_map (by exact fun _ => rfl) _
  unfold Schema.inputs schema
  rw [List.filterMap_cons_none rfl, List.filterMap_cons_none rfl, List.filterMap_append, inputs,
    filterMap_map_eq_nil fun _ => rfl, List.nil_append]

theorem enumNames_schema : (schema count).enumNames = ["Status"] := by
  have first : Definition.enum? (.enum status) = some status := rfl
  unfold Schema.enumNames Schema.enums schema
  rw [List.filterMap_cons_some first, List.filterMap_cons_none rfl, List.filterMap_append,
    filterMap_map_eq_nil fun _ => rfl, filterMap_map_eq_nil fun _ => rfl]
  rfl

theorem defines_schema_iff {name : String} : (schema count).Defines name ↔
    name = "Status" ∨ ∃ index < count, objectName index = name ∨ inputName index = name := by
  rw [Schema.defines_iff, objects_schema, inputs_schema, enumNames_schema, List.map_map,
    List.map_map, List.mem_singleton]
  simp only [List.mem_map, List.mem_range, Function.comp_apply, object, input]
  refine or_congr_right ?_
  rw [← exists_or]
  exact exists_congr fun index => and_or_left.symm

end

theorem next_lt {count : Nat} (positive : 0 < count) (index : Nat) : next count index < count := by
  rw [next_eq positive]
  exact Nat.mod_lt _ positive

theorem next_of_lt {count index : Nat} (below : index + 1 < count) :
    next count index = index + 1 := by
  rw [next_eq (Nat.zero_lt_of_lt below)]
  exact Nat.mod_eq_of_lt below

/-! ## References between input objects -/

/-- What a run over the schema and the document generates. -/
def output (config : Config) (count stride : Nat) : Output :=
  generate config (schema count) [document count stride]

section

variable {config : Config} {count stride : Nat}

theorem output_inputs : (output config count stride).schema.inputs =
    (List.range count).map fun index =>
      ((schema count).resolver config).resolveRecord (input count index) := by
  rw [output, generate_schema_inputs, inputs_schema, List.map_map]
  rfl

theorem output_operations : (output config count stride).operations =
    (queryIndices count stride).map fun index =>
      ((schema count).resolver config).resolveOperation (query index) := by
  rw [output, generate_operations, List.flatMap_singleton, document, List.map_map]
  rfl

theorem output_inputNames : (output config count stride).schema.inputs.map Record.name =
    (List.range count).map inputName := by
  rw [output_inputs, List.map_map]
  rfl

theorem nodup_inputNames :
    ((output config count stride).schema.inputs.map Record.name).Nodup := by
  rw [output_inputNames]
  exact List.nodup_range.map (numbered_injective "Input")

/-- A reference remains unless its name is the enum or is mapped. -/
theorem remains_iff {label name : String} {type : TypeRef} :
    (((schema count).resolver config).resolve label type).isObject = true ∧
        (((schema count).resolver config).resolve label type).typeName = name ↔
      type.typeName = name ∧ name ≠ "Status" ∧ name ∉ config.scalarMap.names := by
  rw [Resolver.isObject_resolve, Resolver.resolve_typeName, and_comm]
  refine and_congr_right fun named => ?_
  rw [named]
  change name ∉ (schema count).enumNames ∧ _ ↔ _
  rw [enumNames_schema, List.mem_singleton]
  rfl

theorem refersTo_iff {owner name : String} :
    RefersTo (output config count stride).schema.inputs owner name ↔
      ∃ index < count, inputName index = owner ∧
        ∃ declared ∈ (input count index).fields, declared.type.typeName = name ∧
          name ≠ "Status" ∧ name ∉ config.scalarMap.names := by
  rw [refersTo_iff_of_nodup nodup_inputNames, output_inputs]
  simp only [List.mem_map, List.mem_range]
  constructor
  · rintro ⟨_, ⟨index, below, rfl⟩, owned, _, resolved, refersTo⟩
    rcases List.mem_map.mp resolved with ⟨declared, member, rfl⟩
    exact ⟨index, below, owned, declared, member, remains_iff.mp refersTo⟩
  · rintro ⟨index, below, owned, declared, member, refersTo⟩
    exact ⟨_, ⟨index, below, rfl⟩, owned, _, List.mem_map_of_mem member,
      remains_iff.mpr refersTo⟩

theorem mem_seedNames_iff {name : String} :
    name ∈ seedNames (output config count stride).operations ↔
      ∃ index ∈ queryIndices count stride, inputName index = name ∧ name ≠ "Status" ∧
        name ∉ config.scalarMap.names := by
  rw [mem_seedNames, output_operations, UsedBy]
  simp only [List.mem_map]
  constructor
  · rintro ⟨_, ⟨index, asked, rfl⟩, _, resolved, refersTo⟩
    rw [List.mem_singleton.mp resolved] at refersTo
    exact ⟨index, asked, remains_iff.mp refersTo⟩
  · rintro ⟨index, asked, refersTo⟩
    exact ⟨_, ⟨index, asked, rfl⟩, _, List.mem_singleton.mpr rfl, remains_iff.mpr refersTo⟩

/-! ## Around the ring -/

/-- No input object is taken for a scalar. -/
def Unmapped (config : Config) (count : Nat) : Prop :=
  ∀ index < count, inputName index ∉ config.scalarMap.names

section

variable (unmapped : Unmapped config count)
include unmapped

theorem refersTo_next {index : Nat} (below : index < count) :
    RefersTo (output config count stride).schema.inputs (inputName index)
      (inputName (next count index)) := by
  have listed : ⟨"next", .named (inputName (next count index)), none⟩ ∈
      (input count index).fields := by
    simp [input, inputFields]
  exact refersTo_iff.mpr ⟨index, below, rfl, _, listed, rfl, inputName_ne (by decide),
    unmapped _ (next_lt (Nat.zero_lt_of_lt below) index)⟩

/-- The first input object is asked for, and each one refers to the next. -/
theorem reached_inputName {index : Nat} (below : index < count) :
    Reached (RefersTo (output config count stride).schema.inputs)
      (seedNames (output config count stride).operations) (inputName index) := by
  induction index with
  | zero =>
      exact .of_mem (mem_seedNames_iff.mpr
        ⟨0, zero_mem_queryIndices below, rfl, inputName_ne (by decide), unmapped 0 below⟩)
  | succ index inductionHypothesis =>
      have before := Nat.lt_of_succ_lt below
      refine (inductionHypothesis before).next ?_
      rw [← next_of_lt below]
      exact refersTo_next unmapped before

/-- With filtering on, every input object is kept. -/
theorem output_inputs_kept (filtering : config.filterInputs = true) :
    (output config count stride).inputs = (output config count stride).schema.inputs := by
  have emitted : (output config count stride).inputs =
      filterInputs (output config count stride).schema.inputs
        (output config count stride).operations :=
    (generate_inputs config (schema count) [document count stride]).trans (if_pos filtering)
  rw [emitted, filterInputs]
  refine List.filter_eq_self.mpr fun kept member => Closure.contains_ofOperations.mpr ?_
  rw [output_inputs] at member
  obtain ⟨index, below, rfl⟩ := List.mem_map.mp member
  exact reached_inputName unmapped (List.mem_range.mp below)

end

/-! ## Without mappings of its own -/

section

variable (plain : config.scalars = .empty)
include plain

theorem names_scalarMap :
    config.scalarMap.names = ["Boolean", "Float", "ID", "Int", "String"] := by
  unfold Config.scalarMap
  rw [plain]
  decide +kernel

theorem unmapped_of_plain : Unmapped config count := by
  intro index _
  rw [names_scalarMap plain]
  have others : ∀ name ∈ ["Boolean", "Float", "ID", "Int", "String"],
      ¬ "Input".toList <+: name.toList := by
    decide
  exact fun listed => inputName_ne (others _ listed) rfl

/-! ### Unresolved references -/

theorem resolves_of_listed {name : String}
    (listed : name ∈ ["Boolean", "Float", "ID", "Int", "String"]) :
    (schema count).Resolves config name :=
  .inr (names_scalarMap plain ▸ listed)

theorem not_resolves_dateTime : ¬ (schema count).Resolves config "DateTime" := by
  rintro (defined | mapped)
  · rcases (defines_schema_iff count).mp defined with same | ⟨index, _, same | same⟩
    · exact absurd same (by decide)
    · exact objectName_ne (by decide) same
    · exact inputName_ne (by decide) same
  · rw [names_scalarMap plain] at mapped
    exact absurd mapped (by decide)

end

theorem resolves_status : (schema count).Resolves config "Status" :=
  .inl ((defines_schema_iff count).mpr (.inl rfl))

theorem resolves_objectName {index : Nat} (below : index < count) :
    (schema count).Resolves config (objectName index) :=
  .inl ((defines_schema_iff count).mpr (.inr ⟨index, below, .inl rfl⟩))

theorem resolves_inputName {index : Nat} (below : index < count) :
    (schema count).Resolves config (inputName index) :=
  .inl ((defines_schema_iff count).mpr (.inr ⟨index, below, .inr rfl⟩))

/-- Whether nothing defines what a reference mentions. -/
def unresolved (config : Config) (count : Nat) (reference : UnresolvedReference) : Bool :=
  decide (¬ (schema count).Resolves config reference.typeName)

theorem filter_unresolved_eq_nil {references : List UnresolvedReference}
    (resolves : ∀ reference ∈ references, (schema count).Resolves config reference.typeName) :
    references.filter (unresolved config count) = [] :=
  List.filter_eq_nil_iff.mpr fun reference member test =>
    of_decide_eq_true test (resolves reference member)

section

variable (plain : config.scalars = .empty)
include plain

theorem filter_object_mentions {index : Nat} (below : index < count) :
    (object count index).mentions.filter (unresolved config count) = [] := by
  have mapped {name : String} (listed : name ∈ ["Boolean", "Float", "ID", "Int", "String"]) :
      (schema count).Resolves config name :=
    resolves_of_listed plain listed
  have following : (schema count).Resolves config (objectName (next count index)) :=
    resolves_objectName (next_lt (Nat.zero_lt_of_lt below) index)
  refine filter_unresolved_eq_nil ?_
  unfold Record.mentions object objectFields
  simp only [List.map_cons, List.map_nil, List.forall_mem_cons]
  exact ⟨mapped (by decide), mapped (by decide), mapped (by decide), resolves_status, following,
    nofun⟩

/-- Of what an input object mentions one name is not resolved. -/
theorem filter_input_mentions {index : Nat} (below : index < count) :
    (input count index).mentions.filter (unresolved config count) =
      [⟨inputName index, "at", "DateTime"⟩] := by
  have positive := Nat.zero_lt_of_lt below
  have mapped : (schema count).Resolves config "Int" := resolves_of_listed plain (by decide)
  have value : ¬ unresolved config count ⟨inputName index, "value", "Int"⟩ = true :=
    fun test => of_decide_eq_true test mapped
  have moment : unresolved config count ⟨inputName index, "at", "DateTime"⟩ = true :=
    decide_eq_true (not_resolves_dateTime plain)
  have chordResolves : ∀ declared ∈ chord index,
      (schema count).Resolves config declared.type.typeName := by
    intro declared member
    rw [eq_of_mem_chord member]
    exact resolves_inputName positive
  have later : ((⟨inputName index, "statuses", "Status"⟩ : UnresolvedReference) ::
      ⟨inputName index, "next", inputName (next count index)⟩ ::
        (chord index).map fun declared =>
          ⟨inputName index, declared.name, declared.type.typeName⟩).filter
            (unresolved config count) = [] := by
    refine filter_unresolved_eq_nil ?_
    simp only [List.forall_mem_cons, List.forall_mem_map]
    exact ⟨resolves_status, resolves_inputName (next_lt positive index), chordResolves⟩
  change ((⟨inputName index, "value", "Int"⟩ : UnresolvedReference) ::
    ⟨inputName index, "at", "DateTime"⟩ :: _).filter _ = _
  rw [List.filter_cons_of_neg value, List.filter_cons_of_pos moment]
  exact congrArg _ later

theorem output_unresolvedReferences : (output config count stride).unresolvedReferences =
    (List.range count).map fun index => ⟨inputName index, "at", "DateTime"⟩ := by
  have ofObjects : ((List.range count).flatMap fun index =>
      (object count index).mentions.filter (unresolved config count)) = [] :=
    List.flatMap_eq_nil_iff.mpr fun index member =>
      filter_object_mentions plain (List.mem_range.mp member)
  have ofInputs : ((List.range count).flatMap fun index =>
      (input count index).mentions.filter (unresolved config count)) =
        (List.range count).map fun index => ⟨inputName index, "at", "DateTime"⟩ := by
    rw [List.map_eq_flatMap]
    exact List.flatMap_congr fun index member =>
      filter_input_mentions plain (List.mem_range.mp member)
  have ofQueries : ((queryIndices count stride).flatMap fun index =>
      (query index).mentions.filter (unresolved config count)) = [] := by
    refine List.flatMap_eq_nil_iff.mpr fun index asked => filter_unresolved_eq_nil ?_
    exact List.forall_mem_singleton.mpr (resolves_inputName (lt_of_mem_queryIndices asked))
  rw [output, generate_unresolvedReferences, Schema.mentions, objects_schema, inputs_schema,
    List.flatMap_singleton, document]
  change List.filter (unresolved config count) _ = _
  rw [List.filter_append, List.filter_append, List.filter_flatMap, List.filter_flatMap,
    List.filter_flatMap, List.flatMap_map, List.flatMap_map, List.flatMap_map, ofObjects, ofInputs,
    ofQueries, List.nil_append, List.append_nil]

/-! ### Warnings -/

/-- The closure reaches the input objects and, besides them, one name. -/
theorem reached_iff (positive : 0 < count) {name : String} :
    Reached (RefersTo (output config count stride).schema.inputs)
        (seedNames (output config count stride).operations) name ↔
      (∃ index < count, inputName index = name) ∨ name = "DateTime" := by
  have names := names_scalarMap plain
  have unmapped : Unmapped config count := unmapped_of_plain plain
  constructor
  · intro reached
    refine reached.least (fun name => (∃ index < count, inputName index = name) ∨
      name = "DateTime") ?seeded ?closed
    case seeded =>
      intro seed member
      obtain ⟨index, asked, named, _⟩ := mem_seedNames_iff.mp member
      exact .inl ⟨index, lt_of_mem_queryIndices asked, named⟩
    case closed =>
      intro owner _ name refersTo
      obtain ⟨index, below, _, declared, member, named, noEnum, unmapped⟩ :=
        refersTo_iff.mp refersTo
      simp only [input, inputFields, List.cons_append, List.nil_append, List.mem_cons] at member
      rcases member with rfl | rfl | rfl | rfl | member
      · rw [names, ← named] at unmapped
        exact absurd (by decide) unmapped
      · exact .inr named.symm
      · exact absurd named.symm noEnum
      · exact .inl ⟨_, next_lt positive index, named⟩
      · rw [eq_of_mem_chord member] at named
        exact .inl ⟨0, positive, named⟩
  · rintro (⟨index, below, rfl⟩ | rfl)
    · exact reached_inputName unmapped below
    · refine (reached_inputName unmapped positive).next (refersTo_iff.mpr ⟨0, positive, rfl,
        ⟨"at", .named "DateTime", none⟩, ?_, rfl, by decide, ?_⟩)
      · simp [input, inputFields]
      · rw [names]
        decide

theorem undefinedNames_output (positive : 0 < count) :
    (Closure.ofOperations (output config count stride).schema.inputs
      (output config count stride).operations).undefinedNames = ["DateTime"] := by
  unfold Closure.ofOperations
  refine List.perm_singleton.mp ((List.perm_ext_iff_of_nodup
    (Closure.undefinedNames_ofSeeds_nodup _ _) (List.nodup_singleton _)).mpr fun name => ?_)
  rw [Closure.mem_undefinedNames_ofSeeds, reached_iff plain positive, output_inputNames,
    List.mem_singleton]
  simp only [List.mem_map, List.mem_range]
  constructor
  · rintro ⟨defined | same, undefined⟩
    · exact absurd defined undefined
    · exact same
  · rintro rfl
    refine ⟨.inr rfl, ?_⟩
    rintro ⟨index, _, same⟩
    exact inputName_ne (by decide) same

end

end

/-! ## Runs over the texts -/

section

variable {count : Nat} (positive : 0 < count) (config : Config) (stride : Nat)
include positive

theorem documentTexts_of_pos : documentTexts count stride = [documentText count stride] := by
  have refused : (Document.ofText "").isOk = false := by decide +kernel
  have declares : (documentText count stride).isEmpty = false := by
    refine Bool.eq_false_iff.mpr fun empty => ?_
    rw [← String.isEmpty_iff.mp empty, ofText_documentText positive stride] at refused
    exact Bool.false_ne_true refused.symm
  unfold documentTexts
  dsimp only
  rw [declares]
  rfl

theorem readSources_texts : readSources (schemaText count) [documentText count stride] =
    .ok (schema count, [document count stride]) :=
  readSources_eq_ok (ofText_schemaText count).1
    (.cons (ofText_documentText positive stride) .nil)

theorem generateFromTexts_texts :
    generateFromTexts config (schemaText count) [documentText count stride] =
      .ok (output config count stride) := by
  unfold generateFromTexts
  rw [readSources_texts positive]
  rfl

theorem textsEvents_texts :
    textsEvents config (schemaText count) [documentText count stride] =
      generateEvents config (schema count) [document count stride] := by
  unfold textsEvents
  rw [readSources_texts positive, (ofText_schemaText count).2]
  rfl

end

/-- Without any input objects there is no document, and a run is one over an empty document. -/
theorem generateFromTexts_documentTexts (config : Config) (count stride : Nat) :
    generateFromTexts config (schemaText count) (documentTexts count stride) =
      .ok (output config count stride) := by
  rcases Nat.eq_zero_or_pos count with rfl | positive
  · unfold generateFromTexts
    rw [show documentTexts 0 stride = [] from rfl,
      readSources_eq_ok (ofText_schemaText 0).1 .nil]
    rfl
  · rw [documentTexts_of_pos positive]
    exact generateFromTexts_texts positive config stride

/-- For every number of input objects but zero and every stride, the document declares the
queries for the multiples of the stride.  A run over the texts that filters keeps all input
objects in their order, unless one of them is mapped as a scalar.  Without mappings besides the
built-in ones, just the field `at` of each input object is unresolved, and the one warning is that
its type has no definition. -/
theorem runs_keep_all_inputs (count stride : Nat) (positive : 0 < count) (config : Config)
    (filtering : config.filterInputs = true) :
    let step := max stride 1
    let names := (List.range count).map fun index => "Input" ++ toString index
    Document.ofText (documentText count stride) = .ok (document count stride) ∧
    (document count stride).operations =
      ((List.range ((count - 1) / step + 1)).map fun number => query (number * step)) ∧
    (∀ number, number < (count - 1) / step + 1 ↔ number * step < count) ∧
    ∃ output, generateFromTexts config (schemaText count) [documentText count stride] =
        .ok output ∧
      output.schema.inputs.map Record.name = names ∧
      ((∀ name ∈ names, name ∉ config.scalarMap.names) -> output.inputs = output.schema.inputs) ∧
      (config.scalars = .empty -> output.inputs = output.schema.inputs ∧
        output.unresolvedReferences = (names.map fun name => ⟨name, "at", "DateTime"⟩) ∧
        warningsOf (textsEvents config (schemaText count) [documentText count stride]) =
          [undefinedWarning "DateTime"]) := by
  intro step names
  have stepPositive : 0 < step := Nat.lt_of_lt_of_le Nat.zero_lt_one (Nat.le_max_right _ _)
  have inputsListed : names = (List.range count).map inputName := rfl
  refine ⟨ofText_documentText positive stride, ?queries, fun number => ?below,
    output config count stride, generateFromTexts_texts positive config stride,
    output_inputNames, fun unmapped => ?kept, fun plain => ⟨?plainKept, ?references, ?warnings⟩⟩
  case queries =>
    obtain ⟨last, rfl⟩ := Nat.exists_eq_add_one_of_ne_zero (Nat.ne_of_gt positive)
    unfold document
    dsimp only
    rw [queryIndices_succ, List.map_map]
    rfl
  case below =>
    rw [Nat.lt_succ_iff, Nat.le_div_iff_mul_le stepPositive]
    exact Nat.le_sub_one_iff_lt positive
  case kept =>
    refine output_inputs_kept (fun index below => ?_) filtering
    exact unmapped _ (List.mem_map_of_mem (List.mem_range.mpr below))
  case plainKept => exact output_inputs_kept (unmapped_of_plain plain) filtering
  case references =>
    rw [output_unresolvedReferences plain, inputsListed, List.map_map]
    rfl
  case warnings =>
    rw [textsEvents_texts positive, warningsOf_generateEvents _ _ _ filtering]
    exact congrArg (List.map undefinedWarning) (undefinedNames_output plain positive)

/-- Five input objects, the fourth with a chord, and a stride that does not divide their number. -/
theorem runs_keep_all_inputs_chorded :
    let config : Config := ⟨.empty, true⟩
    0 < 5 ∧ config.filterInputs = true ∧
      (document 5 3).operations.map Operation.name = [some "Q0", some "Q3"] ∧
      ∃ output, generateFromTexts config (schemaText 5) [documentText 5 3] = .ok output ∧
        output.inputs.map Record.name = ["Input0", "Input1", "Input2", "Input3", "Input4"] ∧
        output.unresolvedReferences =
          [⟨"Input0", "at", "DateTime"⟩, ⟨"Input1", "at", "DateTime"⟩,
            ⟨"Input2", "at", "DateTime"⟩, ⟨"Input3", "at", "DateTime"⟩,
            ⟨"Input4", "at", "DateTime"⟩] ∧
        warningsOf (textsEvents config (schemaText 5) [documentText 5 3]) =
          [undefinedWarning "DateTime"] := by
  intro config
  have positive : 0 < 5 := by decide
  obtain ⟨_, queries, _, output, generated, names, _, withoutMappings⟩ :=
    runs_keep_all_inputs 5 3 positive config rfl
  obtain ⟨kept, references, warnings⟩ := withoutMappings rfl
  refine ⟨positive, rfl, ?_, output, generated, ?_, ?_, warnings⟩
  · rw [queries]
    decide +kernel
  · rw [kept, names]
    decide +kernel
  · rw [references]
    decide +kernel

/-- An input object that is mapped as a scalar ends the way around the ring. -/
example :
    let config : Config := ({ filterInputs := true } : Config).withScalar "Input1" "int"
    generateFromTexts config (schemaText 2) [documentText 2 2] = .ok (output config 2 2) ∧
      (output config 2 2).inputs.map Record.name = ["Input0"] :=
  ⟨generateFromTexts_texts (by decide) _ 2, by decide +kernel⟩

end Synthetic
end SchemaBindings
