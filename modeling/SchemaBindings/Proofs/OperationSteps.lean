import SchemaBindings.Proofs.CollectingSteps

namespace SchemaBindings

/-!
# Operations one for one

Operations can be collected one at a time or a document at a time, in any mixture.  Each step
puts the resolved operations behind those that are there and looks at none of them, so what has
been collected is the history of the steps, resolved operation by operation.  Names play no part
in this: anonymous operations and repeated ones are kept like all others, and nothing is left of
where one document ends and the next begins.

An output depends on the documents only through the collected operations.  So it is the same for
all documents with the same operations one after the other, and for all steps that give them.
-/

/-- What collecting operations is given at a time. -/
inductive OperationStep where
  | visit (operation : Operation VariableDef)
  | walk (document : Document)

namespace OperationStep

def apply (resolver : Resolver) (seen : List (Operation Descriptor)) :
    OperationStep -> List (Operation Descriptor)
  | visit operation => resolver.visitOperation seen operation
  | walk document => resolver.visitDocument seen document

def operations : OperationStep -> List (Operation VariableDef)
  | visit operation => [operation]
  | walk document => document.operations

/-- The operations that some steps give. -/
def history (steps : List OperationStep) : List (Operation VariableDef) :=
  steps.flatMap operations

/-- The operations that have been collected after some steps. -/
def collect (resolver : Resolver) (steps : List OperationStep) : List (Operation Descriptor) :=
  steps.foldl (apply resolver) []

theorem apply_eq (resolver : Resolver) (seen : List (Operation Descriptor))
    (step : OperationStep) :
    apply resolver seen step = seen ++ step.operations.map resolver.resolveOperation := by
  cases step with
  | visit operation => rfl
  | walk document => exact resolver.visitDocument_eq seen document

/-- What a run collects is its history, each operation resolved by itself.  The induction is on
top of whatever was collected before the steps. -/
theorem collect_eq (resolver : Resolver) (steps : List OperationStep) :
    collect resolver steps = (history steps).map resolver.resolveOperation := by
  have run (seen : List (Operation Descriptor)) : steps.foldl (apply resolver) seen =
      seen ++ (history steps).map resolver.resolveOperation := by
    unfold history
    induction steps generalizing seen with
    | nil => exact (List.append_nil _).symm
    | cons first steps inductionHypothesis =>
        rw [List.foldl_cons, inductionHypothesis, apply_eq, List.flatMap_cons, List.map_append,
          List.append_assoc]
  exact run []

theorem history_map_walk (documents : List Document) :
    history (documents.map walk) = documents.flatMap Document.operations :=
  List.flatMap_map walk operations documents

end OperationStep

/-! ## Resolution -/

/-- A variable as a field without a description. -/
def VariableDef.asField (declared : VariableDef) : FieldDef :=
  ⟨declared.name, declared.type, none⟩

section

variable (definitions : List Definition) (scalars : ScalarMap)

/-- An operation has kept its name and its kind, and its variables, in their order, have been
resolved against some definitions and a scalar map. -/
structure ResolvedOperation (declared : Operation VariableDef) (resolved : Operation Descriptor) :
    Prop where
  name_eq : resolved.name = declared.name
  kind_eq : resolved.kind = declared.kind
  parameters : List.Forall₂ (fun parameter => ResolvedField definitions scalars parameter.asField)
    declared.parameters resolved.parameters

theorem resolvedOperation_resolveOperation (declared : Operation VariableDef) :
    ResolvedOperation definitions scalars declared
      (Resolver.resolveOperation ⟨scalars, Schema.enumNames ⟨definitions⟩⟩ declared) where
  name_eq := rfl
  kind_eq := rfl
  parameters := forall₂_map_of_forall
    (fun parameter => resolvedField_resolveField definitions scalars parameter.asField)
    declared.parameters

end

/-! ## Outputs -/

namespace Output

/-- The output of a run from its resolved schema and the operations that it has collected. -/
def ofCollected (config : Config) (schema : ResolvedSchema)
    (operations : List (Operation Descriptor)) : Output where
  schema := schema
  operations := operations
  inputs := if config.filterInputs then filterInputs schema.inputs operations else schema.inputs
  customScalars := config.scalars

/-- A run may collect the operations of its documents in any steps. -/
theorem ofCollected_collect (config : Config) (schema : Schema) {documents : List Document}
    {steps : List OperationStep}
    (same : OperationStep.history steps = documents.flatMap Document.operations) :
    let resolved := (Collected.ofSchema schema).finish config.scalarMap
    ofCollected config resolved (OperationStep.collect resolved.resolver steps) =
      generate config schema documents := by
  intro resolved
  have collected : OperationStep.collect resolved.resolver steps =
      resolved.resolver.resolveDocuments documents := by
    rw [OperationStep.collect_eq, Resolver.resolveDocuments_eq, same]
  rw [collected]
  rfl

/-- The operations of each kind are those that were declared with the kind. -/
theorem operationsOf_generate (config : Config) (schema : Schema) (documents : List Document)
    (kind : OperationKind) : (generate config schema documents).operationsOf kind =
      ((documents.flatMap Document.operations).filter fun declared => declared.kind = kind).map
        (schema.resolver config).resolveOperation := by
  unfold operationsOf
  rw [generate_operations, List.filter_map]
  rfl

/-- Every operation is of exactly one of the three kinds. -/
theorem kinds_perm (output : Output) :
    (output.queries ++ output.mutations ++ output.subscriptions).Perm output.operations := by
  have distinct : [OperationKind.query, .mutation, .subscription].Nodup := by decide
  have complete : ∀ kind, kind ∈ [OperationKind.query, .mutation, .subscription] := by
    intro kind
    cases kind <;> decide
  have split := perm_flatMap_filter Operation.kind distinct complete output.operations
  rw [List.flatMap_cons, List.flatMap_cons, List.flatMap_singleton, ← List.append_assoc] at split
  exact split

end Output

/-- Every operation of the documents has one place in the output, with its name, its kind and its
variables, resolved in their order.  How the operations are divided into documents does not matter,
nor in which steps they are collected.  The queries, the mutations and the subscriptions keep their
order and, together, every operation as often as it occurs. -/
theorem operations_are_kept_one_for_one (config : Config) (schema : Schema)
    (documents : List Document) :
    let resolved := (Collected.ofSchema schema).finish config.scalarMap
    let declared := documents.flatMap Document.operations
    let output := generate config schema documents
    (∀ regrouped : List Document, regrouped.flatMap Document.operations = declared ->
      generate config schema regrouped = output) ∧
    (∀ steps : List OperationStep, OperationStep.history steps = declared ->
      Output.ofCollected config resolved (OperationStep.collect resolved.resolver steps) = output) ∧
    List.Forall₂ (ResolvedOperation schema.definitions config.scalarMap) declared
      output.operations ∧
    (∀ kind, (output.operationsOf kind).Sublist output.operations ∧
      List.Forall₂ (ResolvedOperation schema.definitions config.scalarMap)
        (declared.filter fun operation => operation.kind = kind) (output.operationsOf kind)) ∧
    (output.queries ++ output.mutations ++ output.subscriptions).Perm output.operations := by
  intro resolved declared output
  have kept (operations : List (Operation VariableDef)) :
      List.Forall₂ (ResolvedOperation schema.definitions config.scalarMap) operations
        (operations.map (schema.resolver config).resolveOperation) :=
    forall₂_map_of_forall (resolvedOperation_resolveOperation _ _) operations
  refine ⟨fun regrouped same => ?_,
    fun steps same => Output.ofCollected_collect config schema same, ?_,
    fun kind => ⟨List.filter_sublist, ?_⟩, output.kinds_perm⟩
  · have walked := OperationStep.history_map_walk documents
    rw [← Output.ofCollected_collect config schema (walked.trans same.symm)]
    exact Output.ofCollected_collect config schema walked
  · rw [generate_operations]
    exact kept declared
  · rw [Output.operationsOf_generate]
    exact kept _

/-- An operation that is repeated in another document, an anonymous one between the two, and a
document without operations. -/
theorem operations_are_kept_one_for_one_repeatedNames :
    let schema : Schema :=
      ⟨[.input ⟨"Filter", none, [⟨"role", .named "Role", none⟩]⟩, .enum ⟨"Role", none, []⟩]⟩
    let config : Config := ⟨.empty, true⟩
    let search : Operation VariableDef := ⟨some "Search", .query,
      [⟨"filter", .nonNull (.named "Filter")⟩, ⟨"roles", .list (.named "Role")⟩]⟩
    let anonymous : Operation VariableDef := ⟨none, .mutation, []⟩
    let documents : List Document := [⟨[search, anonymous]⟩, ⟨[]⟩, ⟨[search]⟩]
    let regrouped : List Document := [⟨[search]⟩, ⟨[anonymous, search]⟩]
    let steps : List OperationStep :=
      [.walk ⟨[search]⟩, .visit anonymous, .walk ⟨[]⟩, .visit search]
    let resolved := (Collected.ofSchema schema).finish config.scalarMap
    let output := generate config schema documents
    regrouped.flatMap Document.operations = documents.flatMap Document.operations ∧
      OperationStep.history steps = documents.flatMap Document.operations ∧
      generate config schema regrouped = output ∧
      Output.ofCollected config resolved (OperationStep.collect resolved.resolver steps) = output ∧
      output.queries.map Operation.name = [some "Search", some "Search"] ∧
      output.mutations.map Operation.name = [none] ∧
      (output.queries ++ output.mutations ++ output.subscriptions).Perm output.operations := by
  intro schema config search anonymous documents regrouped steps resolved output
  have ⟨regroups, collects, _, _, split⟩ :=
    operations_are_kept_one_for_one config schema documents
  exact ⟨rfl, rfl, regroups regrouped rfl, collects steps rfl, by decide +kernel,
    by decide +kernel, split⟩

end SchemaBindings
