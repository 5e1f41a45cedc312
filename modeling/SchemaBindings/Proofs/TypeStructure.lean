import SchemaBindings.Proofs.Classes
import SchemaBindings.Proofs.Layers

namespace SchemaBindings

/-!
# Type expressions by structure

The expression of a resolved type is rendered from three flags and a class.  It could be
written without them, by recursion on the type reference: a list becomes `array`, and
around a name or a list comes `option` unless a non-null marker stands there.  The two
ways agree as far as the flags reach.

Flags have room for one list.  Of lists inside lists they tell about the innermost, so it
is the core of a type that the recursion has to start from: the innermost list, with a
non-null marker if one stands directly around it.  A type without a list is its own core,
and repeated markers count as one.  The core of a type has the shape of the type, which
carries the argument from flat types, where there is at most one list, to all types.
-/

/-- The text of a value that may be absent under a condition. -/
def optionally (optional : String -> String) (nullable : Bool) (text : String) : String :=
  if nullable then optional text else text

namespace TypeRef

/-! ## Structure -/

/-- A list stands among the wrappers. -/
def hasList : TypeRef -> Bool
  | named _ => false
  | list _ => true
  | nonNull inner => inner.hasList

/-- The innermost list with a non-null marker if that stands directly around it, or the
whole type if it has no list. -/
def core : TypeRef -> TypeRef
  | named name => named name
  | list item => if item.hasList then item.core else list item
  | nonNull (list item) => if item.hasList then item.core else nonNull (list item)
  | nonNull inner => if inner.hasList then inner.core else nonNull inner

/-- The text of a type that stands in a place where `nullable` says whether a value may be
absent.  A layer that is not under a non-null marker is optional. -/
def writtenWithin (optional leaf : String -> String) (nullable : Bool) : TypeRef -> String
  | named name => optionally optional nullable (leaf name)
  | list item =>
      optionally optional nullable ("array(" ++ item.writtenWithin optional leaf true ++ ")")
  | nonNull inner => inner.writtenWithin optional leaf false

/-- The text of a whole type. -/
def written (optional leaf : String -> String) (type : TypeRef) : String :=
  type.writtenWithin optional leaf true

/-- Some name or list in a type is not under a non-null marker, where `nullable` says so of
the place of the type. -/
def hasNullableLayerWithin (nullable : Bool) : TypeRef -> Bool
  | named _ => nullable
  | list item => nullable || item.hasNullableLayerWithin true
  | nonNull inner => inner.hasNullableLayerWithin false

def hasNullableLayer (type : TypeRef) : Bool :=
  type.hasNullableLayerWithin true

/-- A type with at most one list. -/
def Flat : TypeRef -> Prop
  | named _ => True
  | list item => item.hasList = false
  | nonNull inner => inner.Flat

/-! ## Shapes of flat types -/

theorem isList_shapeWithin (type : TypeRef) :
    ∀ nullable, (type.shapeWithin nullable).isList = type.hasList := by
  induction type with
  | named name => exact fun _ => rfl
  | list item inductionHypothesis =>
      intro nullable
      rw [shapeWithin]
      by_cases nested : (item.shapeWithin true).isList
      · rw [if_pos nested]
        exact nested
      · rw [if_neg nested]
        rfl
  | nonNull inner inductionHypothesis => exact fun _ => inductionHypothesis false

/-- A list around another list leaves no trace. -/
theorem shapeWithin_list_of_hasList {item : TypeRef} (nested : item.hasList = true)
    (nullable : Bool) : (list item).shapeWithin nullable = item.shape := by
  rw [shapeWithin, if_pos ((item.isList_shapeWithin true).trans nested)]
  rfl

theorem shapeWithin_list_of_not_hasList {item : TypeRef} (innermost : item.hasList = false)
    (nullable : Bool) : (list item).shapeWithin nullable =
      { item.shape with isList := true, isNullableList := nullable } := by
  have single : ¬ (item.shapeWithin true).isList = true := by
    rw [item.isList_shapeWithin true, innermost]
    exact Bool.false_ne_true
  rw [shapeWithin, if_neg single]
  rfl

theorem flat_of_not_hasList {type : TypeRef} (single : type.hasList = false) : type.Flat := by
  induction type with
  | named name => exact trivial
  | list item _ => exact absurd single.symm Bool.false_ne_true
  | nonNull inner inductionHypothesis => exact inductionHypothesis single

/-- The expression that three flags call for. -/
def flagged (optional : String -> String) (isList isNullableList isNullable : Bool)
    (text : String) : String :=
  if isList then
    optionally optional isNullableList ("array(" ++ optionally optional isNullable text ++ ")")
  else optionally optional isNullable text

/-- For a flat type, recursion on its structure and the flags of its shape call for the same
expression. -/
theorem writtenWithin_of_flat (optional leaf : String -> String) {type : TypeRef}
    (flat : type.Flat) : ∀ nullable, type.writtenWithin optional leaf nullable =
      flagged optional (type.shapeWithin nullable).isList
        (type.shapeWithin nullable).isNullableList (type.shapeWithin nullable).isNullable
        (leaf type.typeName) := by
  induction type with
  | named name => exact fun _ => rfl
  | list item inductionHypothesis =>
      intro nullable
      have innermost : item.hasList = false := flat
      have inside := inductionHypothesis (flat_of_not_hasList innermost) true
      rw [item.isList_shapeWithin true, innermost] at inside
      rw [writtenWithin, inside, shapeWithin_list_of_not_hasList innermost]
      rfl
  | nonNull inner inductionHypothesis => exact fun _ => inductionHypothesis flat false

theorem hasNullableLayerWithin_of_flat {type : TypeRef} (flat : type.Flat) :
    ∀ nullable, type.hasNullableLayerWithin nullable =
      ((type.shapeWithin nullable).isNullable ||
        ((type.shapeWithin nullable).isList && (type.shapeWithin nullable).isNullableList)) := by
  induction type with
  | named name =>
      intro nullable
      exact (Bool.or_false nullable).symm
  | list item inductionHypothesis =>
      intro nullable
      have innermost : item.hasList = false := flat
      have inside := inductionHypothesis (flat_of_not_hasList innermost) true
      rw [item.isList_shapeWithin true, innermost, Bool.false_and, Bool.or_false] at inside
      rw [hasNullableLayerWithin, inside, shapeWithin_list_of_not_hasList innermost,
        Bool.true_and, Bool.or_comm]
      rfl
  | nonNull inner inductionHypothesis => exact fun _ => inductionHypothesis flat false

/-! ## Cores -/

theorem core_list (item : TypeRef) :
    (list item).core = if item.hasList then item.core else list item :=
  rfl

theorem core_nonNull_list (item : TypeRef) :
    (nonNull (list item)).core = if item.hasList then item.core else nonNull (list item) :=
  rfl

/-- Repeated markers are kept only where there is no list. -/
theorem core_nonNull_nonNull (inner : TypeRef) : (nonNull (nonNull inner)).core =
    if inner.hasList then (nonNull inner).core else nonNull (nonNull inner) :=
  rfl

/-- Whether a marker stays in the core depends on what stands directly under it. -/
theorem flat_core (type : TypeRef) : type.core.Flat := by
  induction type with
  | named name => exact trivial
  | list item inductionHypothesis =>
      rw [core_list]
      split
      case isTrue nested => exact inductionHypothesis
      case isFalse innermost => exact Bool.eq_false_iff.mpr innermost
  | nonNull inner inductionHypothesis =>
      cases inner with
      | named name => exact trivial
      | list item =>
          rw [core_list] at inductionHypothesis
          rw [core_nonNull_list]
          split
          case isTrue nested => rwa [if_pos nested] at inductionHypothesis
          case isFalse innermost => exact Bool.eq_false_iff.mpr innermost
      | nonNull inner =>
          rw [core_nonNull_nonNull]
          split
          case isTrue nested => exact inductionHypothesis
          case isFalse single =>
            have flat : inner.Flat := flat_of_not_hasList (Bool.eq_false_iff.mpr single)
            exact flat

/-- What the core leaves out does not show in the shape. -/
theorem shape_core (type : TypeRef) : type.core.shape = type.shape := by
  induction type with
  | named name => rfl
  | list item inductionHypothesis =>
      rw [core_list]
      split
      case isTrue nested =>
        exact inductionHypothesis.trans (shapeWithin_list_of_hasList nested true).symm
      case isFalse innermost => rfl
  | nonNull inner inductionHypothesis =>
      cases inner with
      | named name => rfl
      | list item =>
          rw [core_list] at inductionHypothesis
          rw [core_nonNull_list]
          split
          case isTrue nested =>
            rw [if_pos nested] at inductionHypothesis
            calc
              item.core.shape = (list item).shapeWithin true := inductionHypothesis
              _ = item.shape := shapeWithin_list_of_hasList nested true
              _ = (list item).shapeWithin false := (shapeWithin_list_of_hasList nested false).symm
          case isFalse innermost => rfl
      | nonNull inner =>
          rw [core_nonNull_nonNull]
          split
          case isTrue nested => exact inductionHypothesis
          case isFalse single => rfl

end TypeRef

/-! ## Resolved types -/

/-- The text of a name: an enum as it is spelled, a mapped scalar by its target, and any
other name in camel case. -/
def Resolver.namedText (resolver : Resolver) (enumText : String -> String) (name : String) :
    String :=
  if resolver.enums.contains name then enumText name
  else (resolver.scalars.find? name).getD (Identifier.typeName name)

namespace Descriptor

variable (spelling : Spelling)

theorem namedText_resolve (resolver : Resolver) (label : String) (type : TypeRef) :
    (resolver.resolve label type).namedText spelling =
      resolver.namedText spelling.enumText type.typeName := by
  unfold namedText base Resolver.namedText
  rw [Resolver.resolve_isEnum, Resolver.resolve_scalar, Resolver.resolve_typeName]
  cases resolver.enums.contains type.typeName with
  | true => rfl
  | false => rfl

theorem wrapAll_layers (field : Descriptor) (text : String) :
    Wrapper.wrapAll (field.layers spelling) text =
      TypeRef.flagged spelling.absent.wrap field.isList field.isNullableList field.isNullable
        text := by
  unfold layers hasNullableList
  cases field.isList <;> cases field.isNullableList <;> cases field.isNullable <;> rfl

/-- A table renders a resolved type as recursion on its core writes it. -/
theorem render_resolve (resolver : Resolver) (label : String) (type : TypeRef) :
    render spelling.steps (resolver.resolve label type) =
      type.core.written spelling.absent.wrap (resolver.namedText spelling.enumText) := by
  have name : type.core.typeName = type.typeName := by
    rw [← TypeRef.shape_typeName, type.shape_core, TypeRef.shape_typeName]
  calc
    render spelling.steps (resolver.resolve label type) =
        TypeRef.flagged spelling.absent.wrap type.shape.isList type.shape.isNullableList
          type.shape.isNullable (resolver.namedText spelling.enumText type.typeName) := by
      rw [render_steps, wrapAll_layers, namedText_resolve]
      rfl
    _ = TypeRef.flagged spelling.absent.wrap type.core.shape.isList
          type.core.shape.isNullableList type.core.shape.isNullable
          (resolver.namedText spelling.enumText type.core.typeName) := by
      rw [type.shape_core, name]
    _ = type.core.written spelling.absent.wrap (resolver.namedText spelling.enumText) :=
      (TypeRef.writtenWithin_of_flat _ _ type.flat_core true).symm

theorem isOptional_resolve (resolver : Resolver) (label : String) (type : TypeRef) :
    (resolver.resolve label type).isOptional = type.core.hasNullableLayer := by
  calc
    (resolver.resolve label type).isOptional =
        (type.shape.isNullable || (type.shape.isList && type.shape.isNullableList)) := rfl
    _ = (type.core.shape.isNullable ||
          (type.core.shape.isList && type.core.shape.isNullableList)) := by
      rw [type.shape_core]
    _ = type.core.hasNullableLayer :=
      (TypeRef.hasNullableLayerWithin_of_flat type.flat_core true).symm

end Descriptor

/-- Whatever the scalars and enums are, the expressions of a resolved type are those that
recursion on the core of the type gives.  Accessors and input fields differ in the word for
a value that may be absent and in the text of an enum, and an argument is an accessor that
is marked just if some layer of the core is not under a non-null marker. -/
theorem type_expressions_follow_structure (resolver : Resolver) (label : String)
    (type : TypeRef) :
    let field := resolver.resolve label type
    field.accessorType = type.core.written (fun text => "option(" ++ text ++ ")")
      (resolver.namedText Identifier.enumTypeName) ∧
    field.inputFieldType = type.core.written (fun text => "Js.Nullable.t(" ++ text ++ ")")
      (resolver.namedText fun _ => "string") ∧
    field.argumentType =
      if type.core.hasNullableLayer then field.accessorType ++ "=?" else field.accessorType := by
  intro field
  refine ⟨?_, ?_, ?_⟩
  · exact Descriptor.render_resolve .accessor resolver label type
  · exact Descriptor.render_resolve .inputField resolver label type
  · rw [← Descriptor.isOptional_resolve resolver label type]
    exact field.argumentType_eq

/-- Of a list of lists, only the inner list and what stands around its items is shown. -/
example :
    let resolver : Resolver := ⟨.ofPairs [("Date", "Js.Date.t")], []⟩
    let type : TypeRef := .list (.nonNull (.nonNull (.list (.named "Date"))))
    type.core = .nonNull (.list (.named "Date")) ∧
      (resolver.resolve "dates" type).argumentType = "array(option(Js.Date.t))=?" := by
  decide

end SchemaBindings
