import SchemaBindings.Proofs.SelfContained
import SchemaBindings.Proofs.UnresolvedReferences

namespace SchemaBindings

/-!
# The order of definitions

A schema may list its definitions in any order.  Fields are resolved when all of them
have been seen, so it makes no difference whether an enum stands before or after the
fields that refer to it, and a descriptor depends on the enums as a set.  What a run
lists follows the order of the definitions and has the same members for every order.

The closure is the one place where order could matter, because it follows the first
definition of a name.  If input object names are distinct, the first definition of a
name is the only one, and the closure reaches the same names although it may expand
them in another order.

Definitions of different kinds never meet on the way.  An output therefore does not
change at all when such definitions are moved past each other.
-/

/-! ## Moving definitions of different kinds past each other -/

/-- The second list is the first one with definitions of different kinds moved past
each other. -/
inductive KindShuffle : List Definition -> List Definition -> Prop
  | nil : KindShuffle [] []
  | cons (definition : Definition) {before after : List Definition} :
      KindShuffle before after -> KindShuffle (definition :: before) (definition :: after)
  | swap (first second : Definition) (rest : List Definition) :
      first.kind ≠ second.kind ->
      KindShuffle (first :: second :: rest) (second :: first :: rest)
  | trans {before between after : List Definition} :
      KindShuffle before between -> KindShuffle between after -> KindShuffle before after

namespace KindShuffle

variable {before after : List Definition}

theorem refl : ∀ definitions, KindShuffle definitions definitions
  | [] => nil
  | definition :: definitions => cons definition (refl definitions)

/-- Whatever looks at the definitions of one kind alone does not see a shuffle: of two that
change places at most one is of the kind, and the other leaves no trace. -/
theorem filterMap_eq {Content : Type} {kind : DefinitionKind}
    {content? : Definition -> Option Content}
    (alone : ∀ definition, definition.kind ≠ kind -> content? definition = none)
    (shuffle : KindShuffle before after) :
    before.filterMap content? = after.filterMap content? := by
  induction shuffle with
  | nil => rfl
  | cons definition _ inductionHypothesis =>
      rw [List.filterMap_cons, List.filterMap_cons, inductionHypothesis]
  | swap first second rest different =>
      by_cases same : first.kind = kind
      · have missing := alone second fun also => different (same.trans also.symm)
        rw [List.filterMap_cons, List.filterMap_cons_none missing,
          List.filterMap_cons_none missing, ← List.filterMap_cons]
      · have missing := alone first same
        rw [List.filterMap_cons_none missing, List.filterMap_cons, List.filterMap_cons,
          List.filterMap_cons_none missing]
  | trans _ _ first second => exact first.trans second

/-- A definition may be moved past any number of definitions of other kinds. -/
theorem move {definition : Definition}
    (others : ∀ other ∈ before, other.kind ≠ definition.kind) :
    KindShuffle (definition :: (before ++ after)) (before ++ definition :: after) := by
  induction before with
  | nil => exact refl _
  | cons other before inductionHypothesis =>
      have later := inductionHypothesis fun another member =>
        others another (List.mem_cons_of_mem other member)
      have different := (others other List.mem_cons_self).symm
      exact trans (swap definition other (before ++ after) different) (cons other later)

/-- Shuffles are the rearrangements that leave the definitions of each kind in their
order. -/
theorem iff_filter_kind_eq : KindShuffle before after ↔
    ∀ kind : DefinitionKind, before.filter (fun definition => definition.kind = kind) =
      after.filter fun definition => definition.kind = kind := by
  constructor
  · intro shuffle kind
    rw [← List.filterMap_eq_filter]
    refine shuffle.filterMap_eq fun definition (different : definition.kind ≠ kind) => ?_
    exact Option.guard_eq_none_iff.mpr (decide_eq_false different)
  · intro same
    induction before generalizing after with
    | nil =>
        have none : after = [] := by
          refine List.eq_nil_iff_forall_not_mem.mpr fun definition member => ?_
          have empty := List.filter_eq_nil_iff.mp (same definition.kind).symm definition member
          exact empty (decide_eq_true rfl)
        exact none ▸ nil
    | cons definition before inductionHypothesis =>
        have first : after.filter (fun other => other.kind = definition.kind) =
            definition :: before.filter fun other => other.kind = definition.kind := by
          rw [← same definition.kind, List.filter_cons, if_pos (decide_eq_true rfl)]
        rcases List.filter_eq_cons_iff.mp first with ⟨left, right, rfl, others, _, _⟩
        have different : ∀ other ∈ left, other.kind ≠ definition.kind :=
          fun other member => of_decide_eq_false (Bool.eq_false_iff.mpr (others other member))
        have remaining : KindShuffle before (left ++ right) := by
          refine inductionHypothesis fun kind => ?_
          have both := same kind
          rw [List.filter_append, List.filter_cons, List.filter_cons] at both
          rw [List.filter_append]
          by_cases own : definition.kind = kind
          · have before : left.filter (fun other => other.kind = kind) = [] :=
              List.filter_eq_nil_iff.mpr fun other member =>
                mt of_decide_eq_true (own ▸ different other member)
            rw [if_pos (decide_eq_true own), if_pos (decide_eq_true own), before] at both
            rw [before]
            exact (List.cons.inj both).2
          · rwa [if_neg (mt of_decide_eq_true own), if_neg (mt of_decide_eq_true own)] at both
        exact trans (cons definition remaining) (move different)

end KindShuffle
/-! ## Resolution -/

namespace Schema

/-- The definitions of a schema, each kind in source order, with every field resolved
by the resolver. -/
def resolveWith (schema : Schema) (resolver : Resolver) : ResolvedSchema where
  scalars := schema.scalars
  enums := schema.enums
  objects := schema.objects.map resolver.resolveRecord
  inputs := schema.inputs.map resolver.resolveRecord
  scalarMap := resolver.scalars

variable {schema permuted : Schema}

theorem enumNames_perm (perm : permuted.definitions.Perm schema.definitions) :
    permuted.enumNames.Perm schema.enumNames :=
  (perm.filterMap Definition.enum?).map EnumDef.name

theorem mentions_perm (perm : permuted.definitions.Perm schema.definitions)
    (documents : List Document) : (permuted.mentions documents).Perm (schema.mentions documents) :=
  (((perm.filterMap Definition.object?).flatMap_right Record.mentions).append
    ((perm.filterMap Definition.input?).flatMap_right Record.mentions)).append_right _

theorem resolves_iff_of_perm (perm : permuted.definitions.Perm schema.definitions)
    {config : Config} {name : String} :
    permuted.Resolves config name ↔ schema.Resolves config name := by
  unfold Resolves Defines
  simp only [perm.mem_iff]

end Schema

namespace Resolver

variable {first second : Resolver}

/-- A resolver looks only at which names are enums. -/
theorem resolve_congr (scalars : first.scalars = second.scalars)
    (enums : ∀ name, name ∈ first.enums ↔ name ∈ second.enums) :
    first.resolve = second.resolve := by
  funext label type
  have same : first.enums.contains type.shape.typeName =
      second.enums.contains type.shape.typeName := by
    rw [Bool.eq_iff_iff, List.contains_iff_mem, List.contains_iff_mem]
    exact enums type.shape.typeName
  unfold resolve
  dsimp only
  rw [same, scalars]

theorem resolveRecord_congr (same : first.resolve = second.resolve) :
    first.resolveRecord = second.resolveRecord := by
  funext record
  unfold resolveRecord resolveField
  rw [same]

theorem resolveOperation_congr (same : first.resolve = second.resolve) :
    first.resolveOperation = second.resolveOperation := by
  funext operation
  unfold resolveOperation resolveVariable
  rw [same]

end Resolver

theorem resolve_of_perm (config : Config) {schema permuted : Schema}
    (perm : permuted.definitions.Perm schema.definitions) :
    (permuted.resolver config).resolve = (schema.resolver config).resolve :=
  Resolver.resolve_congr rfl fun _ => (Schema.enumNames_perm perm).mem_iff

/-! ## Closures -/

variable {inputs others : List (Record Descriptor)} {operations : List (Operation Descriptor)}

/-- Where names are distinct, a reference from any definition counts. -/
theorem refersTo_iff_of_nodup (distinct : (inputs.map Record.name).Nodup) {owner name : String} :
    RefersTo inputs owner name ↔ ∃ input ∈ inputs, input.name = owner ∧
      ∃ field ∈ input.fields, field.isObject = true ∧ field.typeName = name := by
  constructor
  · rintro ⟨input, found, refers⟩
    have test := List.find?_some found
    have named : input.name = owner := beq_iff_eq.mp test
    exact ⟨input, List.mem_of_find?_eq_some found, named, refers⟩
  · rintro ⟨input, member, rfl, refers⟩
    exact ⟨input, find?_name_of_nodup distinct member, refers⟩

theorem refersTo_of_perm (perm : inputs.Perm others)
    (distinct : (others.map Record.name).Nodup) : RefersTo inputs = RefersTo others := by
  have alsoDistinct : (inputs.map Record.name).Nodup :=
    (perm.map Record.name).nodup_iff.mpr distinct
  funext owner name
  apply propext
  rw [refersTo_iff_of_nodup alsoDistinct, refersTo_iff_of_nodup distinct]
  simp only [perm.mem_iff]

theorem filterInputs_perm (perm : inputs.Perm others)
    (distinct : (others.map Record.name).Nodup) :
    (filterInputs inputs operations).Perm (filterInputs others operations) := by
  have kept : ∀ input ∈ inputs, (Closure.ofOperations inputs operations).contains input.name =
      (Closure.ofOperations others operations).contains input.name := by
    intro input _
    refine Closure.contains_ofOperations_congr (fun name => ?_) input.name
    rw [refersTo_of_perm perm distinct]
  unfold filterInputs
  rw [List.filter_congr kept]
  exact perm.filter _

/-! ## Two runs -/

/-- A run sees of a schema only the definitions of each kind. -/
theorem generate_of_shuffle {schema shuffled : Schema}
    (shuffle : KindShuffle schema.definitions shuffled.definitions) (config : Config)
    (documents : List Document) :
    generate config shuffled documents = generate config schema documents := by
  have collected : Collected.ofSchema shuffled = Collected.ofSchema schema := by
    have scalars : schema.scalars = shuffled.scalars :=
      shuffle.filterMap_eq fun _ => Definition.scalar?_eq_none
    have objects : schema.objects = shuffled.objects :=
      shuffle.filterMap_eq fun _ => Definition.object?_eq_none
    have enums : schema.enums = shuffled.enums :=
      shuffle.filterMap_eq fun _ => Definition.enum?_eq_none
    have inputs : schema.inputs = shuffled.inputs :=
      shuffle.filterMap_eq fun _ => Definition.input?_eq_none
    rw [Collected.ofSchema_eq, Collected.ofSchema_eq, scalars, objects, enums, inputs]
  unfold generate
  rw [collected]

section

variable (config : Config) {schema permuted : Schema} (documents : List Document)

/-- The permuted definitions are resolved by the resolver of the original ones. -/
theorem generate_schema_of_perm (perm : permuted.definitions.Perm schema.definitions) :
    (generate config permuted documents).schema =
      permuted.resolveWith (schema.resolver config) := by
  rw [generate_schema, Resolver.resolveRecord_congr (resolve_of_perm config perm)]
  rfl

theorem generate_operations_of_perm (perm : permuted.definitions.Perm schema.definitions) :
    (generate config permuted documents).operations =
      (generate config schema documents).operations := by
  rw [generate_operations, generate_operations,
    Resolver.resolveOperation_congr (resolve_of_perm config perm)]

theorem unresolvedReferences_perm (perm : permuted.definitions.Perm schema.definitions) :
    (generate config permuted documents).unresolvedReferences.Perm
      (generate config schema documents).unresolvedReferences := by
  rw [generate_unresolvedReferences, generate_unresolvedReferences]
  simp only [Schema.resolves_iff_of_perm perm]
  exact (Schema.mentions_perm perm documents).filter _

theorem generate_inputs_perm (perm : permuted.definitions.Perm schema.definitions)
    (distinct : (schema.inputs.map Record.name).Nodup) :
    (generate config permuted documents).inputs.Perm (generate config schema documents).inputs := by
  have resolved : (generate config permuted documents).schema.inputs.Perm
      (generate config schema documents).schema.inputs := by
    rw [generate_schema_of_perm config documents perm, generate_schema]
    exact (perm.filterMap Definition.input?).map (schema.resolver config).resolveRecord
  rw [generate_inputs, generate_inputs, generate_operations_of_perm config documents perm]
  by_cases filtering : config.filterInputs
  · rw [if_pos filtering, if_pos filtering]
    refine filterInputs_perm resolved ?_
    rwa [generate_inputNames]
  · rw [if_neg filtering, if_neg filtering]
    exact resolved

end

/-- Two runs over the same definitions in another order resolve every definition and
every operation in the same way and list the definitions of each kind in their new
order.  They leave the same references unresolved and, if input object names are
distinct, emit the same input objects.  If only definitions of different kinds have
been moved past each other, the outputs are equal. -/
theorem generate_of_permuted_definitions (config : Config) (schema permuted : Schema)
    (documents : List Document) (perm : permuted.definitions.Perm schema.definitions) :
    let before := generate config schema documents
    let after := generate config permuted documents
    let resolver := schema.resolver config
    before.schema = schema.resolveWith resolver ∧
    after.schema = permuted.resolveWith resolver ∧
    after.schema.objects.Perm before.schema.objects ∧
    after.schema.inputs.Perm before.schema.inputs ∧
    (∀ name, name ∈ after.schema.enumNames ↔ name ∈ before.schema.enumNames) ∧
    after.operations = before.operations ∧
    after.unresolvedReferences.Perm before.unresolvedReferences ∧
    ((schema.inputs.map Record.name).Nodup -> after.inputs.Perm before.inputs) ∧
    (KindShuffle schema.definitions permuted.definitions -> after = before) := by
  intro before after resolver
  have former : before.schema = schema.resolveWith resolver :=
    generate_schema config schema documents
  have latter : after.schema = permuted.resolveWith resolver :=
    generate_schema_of_perm config documents perm
  refine ⟨former, latter, ?_, ?_, ?_, generate_operations_of_perm config documents perm,
    unresolvedReferences_perm config documents perm,
    fun distinct => generate_inputs_perm config documents perm distinct,
    fun shuffle => generate_of_shuffle shuffle config documents⟩
  · rw [former, latter]
    exact (perm.filterMap Definition.object?).map resolver.resolveRecord
  · rw [former, latter]
    exact (perm.filterMap Definition.input?).map resolver.resolveRecord
  · intro name
    rw [former, latter]
    exact (Schema.enumNames_perm perm).mem_iff

/-- A schema with an enum that stands after the fields that refer to it, and with two
input objects that refer to each other. -/
def forwardReferring : Schema :=
  ⟨[.input ⟨"Filter", none, [⟨"state", .named "State", none⟩, ⟨"order", .named "Order", none⟩]⟩,
    .input ⟨"Order", none, [⟨"filter", .named "Filter", none⟩, ⟨"by", .named "Gone", none⟩]⟩,
    .enum ⟨"State", none, []⟩]⟩

/-- The same with the enum in front. -/
def backwardReferring : Schema :=
  ⟨[.enum ⟨"State", none, []⟩,
    .input ⟨"Filter", none, [⟨"state", .named "State", none⟩, ⟨"order", .named "Order", none⟩]⟩,
    .input ⟨"Order", none, [⟨"filter", .named "Filter", none⟩, ⟨"by", .named "Gone", none⟩]⟩]⟩

theorem generate_of_permuted_definitions_referring :
    let config : Config := { filterInputs := true }
    let documents := [documentUsing "Order"]
    let reversed : Schema := ⟨forwardReferring.definitions.reverse⟩
    let output := generate config forwardReferring documents
    reversed.definitions.Perm forwardReferring.definitions ∧
      (forwardReferring.inputs.map Record.name).Nodup ∧
      (generate config reversed documents).inputs.Perm output.inputs ∧
      (generate config reversed documents).inputs.map Record.name = ["Order", "Filter"] ∧
      output.inputs.map Record.name = ["Filter", "Order"] ∧
      KindShuffle forwardReferring.definitions backwardReferring.definitions ∧
      backwardReferring.definitions.Perm forwardReferring.definitions ∧
      generate config backwardReferring documents = output := by
  intro config documents reversed output
  have perm : reversed.definitions.Perm forwardReferring.definitions := List.reverse_perm _
  have distinct : (forwardReferring.inputs.map Record.name).Nodup := by decide +kernel
  have shuffle : KindShuffle forwardReferring.definitions backwardReferring.definitions :=
    KindShuffle.iff_filter_kind_eq.mpr fun kind => by cases kind <;> rfl
  have moved : backwardReferring.definitions.Perm forwardReferring.definitions := by
    decide +kernel
  obtain ⟨_, _, _, _, _, _, _, emitted, _⟩ :=
    generate_of_permuted_definitions config forwardReferring reversed documents perm
  obtain ⟨_, _, _, _, _, _, _, _, equal⟩ :=
    generate_of_permuted_definitions config forwardReferring backwardReferring documents moved
  exact ⟨perm, distinct, emitted distinct, by decide +kernel, by decide +kernel, shuffle, moved,
    equal shuffle⟩

/-- Where a name is repeated, the order decides which definition the closure follows. -/
example :
    let config : Config := { filterInputs := true }
    let plain : Definition := .input ⟨"Page", none, [⟨"size", .named "Int", none⟩]⟩
    let nested : Definition := .input ⟨"Page", none, [⟨"next", .named "Next", none⟩]⟩
    let next : Definition := .input ⟨"Next", none, []⟩
    let document : Document := ⟨[⟨none, .query, [⟨"page", .named "Page"⟩]⟩]⟩
    (generate config ⟨[plain, nested, next]⟩ [document]).inputs.map Record.name =
        ["Page", "Page"] ∧
      (generate config ⟨[nested, plain, next]⟩ [document]).inputs.map Record.name =
        ["Page", "Page", "Next"] := by
  decide +kernel

end SchemaBindings
