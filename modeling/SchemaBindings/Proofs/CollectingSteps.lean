import Mathlib.Data.List.Nodup
import SchemaBindings.Proofs.Classes
import SchemaBindings.Proofs.Pointwise

namespace SchemaBindings

/-!
# Collecting in any steps

A collection can be given one definition at a time or a whole schema, in any mixture.  What it
holds depends only on its history: the definitions encountered so far, one after the other.
The list of each kind has the definitions of its kind in the order of encounter, with those
that are repeated, so that every definition is in exactly one list.  Each step keeps this, and
a collection is determined by it.

Fields are resolved only at the end.  By then the history is complete, so whether a field is
an enum is decided by all definitions, those behind the owner of the field included.
-/

/-- Items that are taken kind by kind are all taken, as often as they occur. -/
theorem perm_flatMap_filter {Item Kind : Type} [DecidableEq Kind] (kindOf : Item -> Kind)
    {kinds : List Kind} (distinct : kinds.Nodup) (complete : ∀ kind, kind ∈ kinds)
    (items : List Item) :
    (kinds.flatMap fun kind => items.filter fun item => kindOf item = kind).Perm items := by
  induction items with
  | nil => exact .of_eq (List.flatMap_eq_nil_iff.mpr fun _ _ => rfl)
  | cons item items inductionHypothesis =>
      obtain ⟨before, after, rfl⟩ := List.append_of_mem (complete (kindOf item))
      have once : kindOf item ∉ before ++ after :=
        (List.nodup_cons.mp (List.nodup_middle.mp distinct)).1
      have own : ((item :: items).filter fun other => kindOf other = kindOf item) =
          item :: items.filter fun other => kindOf other = kindOf item :=
        List.filter_cons_of_pos (decide_eq_true rfl)
      have others {part : List Kind} (absent : kindOf item ∉ part) :
          (part.flatMap fun kind => (item :: items).filter fun item => kindOf item = kind) =
            part.flatMap fun kind => items.filter fun item => kindOf item = kind := by
        refine List.flatMap_congr fun kind member => List.filter_cons_of_neg fun same => ?_
        exact absent (of_decide_eq_true same ▸ member)
      rw [List.flatMap_append, List.flatMap_cons] at inductionHypothesis ⊢
      rw [others fun member => once (List.mem_append_left after member),
        others fun member => once (List.mem_append_right before member),
        own, List.cons_append]
      exact List.perm_middle.trans (inductionHypothesis.cons item)

/-- What a collection is given at a time. -/
inductive CollectingStep where
  | visit (definition : Definition)
  | walk (schema : Schema)

namespace CollectingStep

def apply (seen : Collected) : CollectingStep -> Collected
  | visit definition => seen.visit definition
  | walk schema => seen.walk schema

def definitions : CollectingStep -> List Definition
  | visit definition => [definition]
  | walk schema => schema.definitions

/-- The definitions that some steps encounter. -/
def history (steps : List CollectingStep) : List Definition :=
  steps.flatMap definitions

/-- The collection after some steps. -/
def collect (steps : List CollectingStep) : Collected :=
  steps.foldl apply {}

end CollectingStep

namespace Collected

/-- The definitions of a kind that a collection holds. -/
def ofKind (seen : Collected) : DefinitionKind -> List Definition
  | .scalar => seen.scalars.map .scalar
  | .object => seen.objects.map .object
  | .enum => seen.enums.map .enum
  | .input => seen.inputs.map .input

/-- The list of each kind has the definitions of the kind in the order of a history. -/
def Holds (seen : Collected) (history : List Definition) : Prop :=
  ∀ kind, seen.ofKind kind = history.filter fun definition => definition.kind = kind

variable {seen other : Collected} {history : List Definition}

/-- A definition is put behind those of its kind and changes no other list. -/
theorem ofKind_visit (seen : Collected) (definition : Definition) (kind : DefinitionKind) :
    (seen.visit definition).ofKind kind =
      seen.ofKind kind ++ [definition].filter fun definition => definition.kind = kind := by
  cases definition <;> cases kind <;>
    simp [ofKind, visit, handlers, Handlers.visit, Definition.kind]

/-- The lists of a collection determine it. -/
theorem eq_of_ofKind_eq (same : ∀ kind, seen.ofKind kind = other.ofKind kind) : seen = other := by
  rcases seen with ⟨scalars, objects, enums, inputs⟩
  rcases other with ⟨otherScalars, otherObjects, otherEnums, otherInputs⟩
  simp only [Collected.mk.injEq]
  refine ⟨?_, ?_, ?_, ?_⟩
  · exact List.map_injective_iff.mpr (fun _ _ => Definition.scalar.inj) (same .scalar)
  · exact List.map_injective_iff.mpr (fun _ _ => Definition.object.inj) (same .object)
  · exact List.map_injective_iff.mpr (fun _ _ => Definition.enum.inj) (same .enum)
  · exact List.map_injective_iff.mpr (fun _ _ => Definition.input.inj) (same .input)

namespace Holds

theorem empty : Holds {} [] := by
  intro kind
  cases kind <;> rfl

theorem visit (holds : seen.Holds history) (definition : Definition) :
    (seen.visit definition).Holds (history ++ [definition]) := by
  intro kind
  rw [ofKind_visit, holds kind, List.filter_append]

theorem walk (holds : seen.Holds history) (schema : Schema) :
    (seen.walk schema).Holds (history ++ schema.definitions) := by
  unfold Collected.walk Handlers.walk
  induction schema.definitions generalizing seen history with
  | nil => rwa [List.append_nil]
  | cons definition definitions inductionHypothesis =>
      rw [List.append_cons]
      exact inductionHypothesis (holds.visit definition)

theorem step (holds : seen.Holds history) (step : CollectingStep) :
    (step.apply seen).Holds (history ++ step.definitions) := by
  cases step with
  | visit definition => exact holds.visit definition
  | walk schema => exact holds.walk schema

/-- The induction is on top of whatever was collected before the steps. -/
theorem collect (steps : List CollectingStep) :
    (CollectingStep.collect steps).Holds (CollectingStep.history steps) := by
  have run (seen : Collected) (past : List Definition) (holds : seen.Holds past) :
      (steps.foldl CollectingStep.apply seen).Holds (past ++ CollectingStep.history steps) := by
    unfold CollectingStep.history
    induction steps generalizing seen past with
    | nil => rwa [List.flatMap_nil, List.append_nil]
    | cons first steps inductionHypothesis =>
        rw [List.flatMap_cons, ← List.append_assoc]
        exact inductionHypothesis _ _ (holds.step first)
  exact run {} [] empty

/-- There is only one collection of a history. -/
theorem eq (holds : seen.Holds history) (otherHolds : other.Holds history) : seen = other :=
  eq_of_ofKind_eq fun kind => (holds kind).trans (otherHolds kind).symm

/-- Every definition of the history is in exactly one list, as often as it was encountered. -/
theorem perm (holds : seen.Holds history) :
    (seen.ofKind .scalar ++ seen.ofKind .object ++ seen.ofKind .enum ++ seen.ofKind .input).Perm
      history := by
  have distinct : [DefinitionKind.scalar, .object, .enum, .input].Nodup := by decide
  have complete : ∀ kind, kind ∈ [DefinitionKind.scalar, .object, .enum, .input] := by
    intro kind
    cases kind <;> decide
  have split := perm_flatMap_filter Definition.kind distinct complete history
  rw [List.flatMap_cons, List.flatMap_cons, List.flatMap_cons, List.flatMap_singleton,
    ← List.append_assoc, ← List.append_assoc] at split
  rw [holds .scalar, holds .object, holds .enum, holds .input]
  exact split

end Holds

/-- Walking schemas one after the other is walking all their definitions. -/
theorem foldl_walk (seen : Collected) (schemas : List Schema) :
    schemas.foldl walk seen = seen.walk ⟨schemas.flatMap Schema.definitions⟩ :=
  List.foldl_flatMap.symm

end Collected

/-! ## Resolution -/

section

variable (history : List Definition) (scalars : ScalarMap)

/-- A descriptor has the name and the shape of a field, and its class is decided by all the
definitions of a history and a scalar map. -/
structure ResolvedField (field : FieldDef) (descriptor : Descriptor) : Prop where
  name_eq : descriptor.name = field.name
  shape_eq : field.type.shape = ⟨descriptor.typeName, descriptor.isList, descriptor.isNullableList,
    descriptor.isNullable⟩
  isEnum_iff : descriptor.isEnum = true ↔
    ∃ definition ∈ history, definition.kind = .enum ∧ definition.name = field.type.typeName
  scalar_eq : descriptor.scalar =
    if descriptor.isEnum then none else scalars.find? field.type.typeName

/-- A record has kept its name and its description, and its fields, in their order, have been
resolved. -/
structure ResolvedRecord (declared : Record FieldDef) (resolved : Record Descriptor) : Prop where
  name_eq : resolved.name = declared.name
  description_eq : resolved.description = declared.description
  fields : List.Forall₂ (ResolvedField history scalars) declared.fields resolved.fields

theorem resolvedField_resolveField (field : FieldDef) :
    ResolvedField history scalars field
      (Resolver.resolveField ⟨scalars, Schema.enumNames ⟨history⟩⟩ field) where
  name_eq := rfl
  shape_eq := rfl
  isEnum_iff := by
    unfold Resolver.resolveField
    rw [Resolver.resolve_isEnum, List.contains_iff_mem]
    exact Schema.mem_enumNames
  scalar_eq := by
    unfold Resolver.resolveField
    rw [Resolver.resolve_isEnum]
    exact Resolver.resolve_scalar _ field.name field.type

theorem resolvedRecord_resolveRecord (declared : Record FieldDef) :
    ResolvedRecord history scalars declared
      (Resolver.resolveRecord ⟨scalars, Schema.enumNames ⟨history⟩⟩ declared) where
  name_eq := rfl
  description_eq := rfl
  fields := forall₂_map_of_forall (resolvedField_resolveField history scalars) declared.fields

end

/-! ## Any steps -/

namespace CollectingStep

theorem collect_eq_ofSchema (steps : List CollectingStep) :
    collect steps = Collected.ofSchema ⟨history steps⟩ :=
  (Collected.Holds.collect steps).eq (Collected.Holds.empty.walk ⟨history steps⟩)

/-- After each of some steps, the list of each kind has the definitions of the kind that have
been encountered, in their order and as often.  The steps may be regrouped in any way, down to
one walk over all definitions.  Finishing keeps every definition in its place and resolves its
fields against the enums of all steps. -/
theorem collections_partition_definitions (steps : List CollectingStep) (scalars : ScalarMap) :
    let seen := collect steps
    let resolved := seen.finish scalars
    (∀ count, (collect (steps.take count)).Holds (history (steps.take count))) ∧
    (seen.ofKind .scalar ++ seen.ofKind .object ++ seen.ofKind .enum ++ seen.ofKind .input).Perm
      (history steps) ∧
    seen = Collected.ofSchema ⟨history steps⟩ ∧
    (∀ schemas : List Schema,
      schemas.foldl Collected.walk seen = seen.walk ⟨schemas.flatMap Schema.definitions⟩) ∧
    resolved.scalars = seen.scalars ∧
    resolved.enums = seen.enums ∧
    List.Forall₂ (ResolvedRecord (history steps) scalars) seen.objects resolved.objects ∧
    List.Forall₂ (ResolvedRecord (history steps) scalars) seen.inputs resolved.inputs ∧
    ∀ name, name ∈ resolved.enumNames ↔
      ∃ definition ∈ history steps, definition.kind = .enum ∧ definition.name = name := by
  intro seen resolved
  have holds : seen.Holds (history steps) := .collect steps
  have whole : seen = Collected.ofSchema ⟨history steps⟩ := collect_eq_ofSchema steps
  have enums : seen.enums.map EnumDef.name = Schema.enumNames ⟨history steps⟩ := by
    rw [whole, Collected.ofSchema_eq]
    rfl
  have records (declared : List (Record FieldDef)) :
      List.Forall₂ (ResolvedRecord (history steps) scalars) declared
        (declared.map (Resolver.resolveRecord ⟨scalars, seen.enums.map EnumDef.name⟩)) := by
    rw [enums]
    exact forall₂_map_of_forall (resolvedRecord_resolveRecord (history steps) scalars) declared
  refine ⟨fun count => .collect (steps.take count), holds.perm, whole, seen.foldl_walk, rfl, rfl,
    records seen.objects, records seen.inputs, fun name => ?_⟩
  change name ∈ seen.enums.map EnumDef.name ↔ _
  rw [enums]
  exact Schema.mem_enumNames

/-- An object type that is visited before a schema with the enum it refers to, and an input
object of the same name. -/
example :
    let order : Record FieldDef := ⟨"Order", none, [⟨"state", .named "State", none⟩]⟩
    let seen := collect
      [.visit (.object order), .walk ⟨[.enum ⟨"State", none, []⟩, .input order]⟩,
        .visit (.object order)]
    seen = ⟨[], [order, order], [⟨"State", none, []⟩], [order]⟩ ∧
      (seen.finish .builtIn).objects.map (fun object => object.fields.map Descriptor.isEnum) =
        [[true], [true]] := by
  decide +kernel

end CollectingStep

end SchemaBindings
