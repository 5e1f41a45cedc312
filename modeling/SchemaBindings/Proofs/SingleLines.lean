import SchemaBindings.Proofs.CamelCase
import SchemaBindings.Proofs.Classes
import SchemaBindings.Proofs.Layers
import SchemaBindings.Proofs.ScalarLookup

namespace SchemaBindings
namespace Text

/-!
# Texts on one line

Whatever name an identifier is made from, the identifier stands on one line: camel case
keeps letters and numbers only, and no letter has a line feed among its small and capital
forms.  What else goes into a type expression is fixed, apart from the target of a scalar.
So if the configured targets have no line feed, no type expression in an output has one.
-/

/-- A text without a line feed. -/
def SingleLine (text : String) : Prop :=
  '\n' ∉ text.toList

instance (text : String) : Decidable (SingleLine text) :=
  inferInstanceAs (Decidable ('\n' ∉ text.toList))

theorem singleLine_append {text rest : String} :
    SingleLine (text ++ rest) ↔ SingleLine text ∧ SingleLine rest := by
  unfold SingleLine
  rw [String.toList_append, List.mem_append, not_or]

theorem mem_of_mem_intercalate {separator : List Char} {pieces : List (List Char)} {c : Char}
    (member : c ∈ separator.intercalate pieces) : c ∈ separator ∨ ∃ piece ∈ pieces, c ∈ piece := by
  induction pieces with
  | nil => exact absurd member List.not_mem_nil
  | cons piece pieces inductionHypothesis =>
      cases pieces with
      | nil =>
          rw [List.intercalate_singleton] at member
          exact Or.inr ⟨piece, List.mem_cons_self, member⟩
      | cons next pieces =>
          rw [List.intercalate_cons_cons, List.append_assoc, List.mem_append, List.mem_append]
            at member
          rcases member with first | between | later
          · exact Or.inr ⟨piece, List.mem_cons_self, first⟩
          · exact Or.inl between
          · refine (inductionHypothesis later).imp id ?_
            rintro ⟨other, listed, inside⟩
            exact ⟨other, List.mem_cons_of_mem _ listed, inside⟩

theorem singleLine_intercalate {separator : String} {pieces : List String}
    (between : SingleLine separator) (each : ∀ piece ∈ pieces, SingleLine piece) :
    SingleLine (separator.intercalate pieces) := by
  intro member
  rw [String.toList_intercalate] at member
  rcases mem_of_mem_intercalate member with inside | ⟨piece, listed, inside⟩
  · exact between inside
  · rcases List.mem_map.mp listed with ⟨text, member, rfl⟩
    exact each text member inside

/-! ## Forms of characters -/

theorem ne_lineFeed_of_mem_forms {c form : Char} (other : c ≠ '\n') (member : form ∈ forms c) :
    form ≠ '\n' := by
  rintro rfl
  by_cases ascii : c.toNat < 0x80
  · have avoided : '\n' ∉ forms c :=
      of_ascii (fun c => c ≠ '\n' -> '\n' ∉ forms c) (by decide +kernel) ascii other
    exact avoided member
  · exact absurd (isAlpha_of_mem_forms ascii member (by decide)) (by decide)

/-! ## Camel case -/

theorem singleLine_lowerCamel (text : String) : SingleLine (lowerCamel text) :=
  fun member => absurd (isAlphanum_of_mem_lowerCamel member (by decide)) (by decide)

theorem singleLine_upperCamel (text : String) : SingleLine (upperCamel text) :=
  fun member => absurd (isAlphanum_of_mem_upperCamel member (by decide)) (by decide)

theorem singleLine_capitalizedText {text : String} (single : SingleLine text) :
    SingleLine (capitalizedText text) := by
  unfold capitalizedText
  cases spelled : text.toList with
  | nil => exact List.not_mem_nil
  | cons c rest =>
      have other (c : Char) (inside : c ∈ text.toList) : c ≠ '\n' :=
        fun same => single (same ▸ inside)
      rw [spelled] at other
      intro member
      dsimp only at member
      rw [String.toList_ofList] at member
      rcases List.mem_append.mp member with first | later
      · exact ne_lineFeed_of_mem_forms (other c List.mem_cons_self)
          (mem_forms_of_mem_capital first) rfl
      · rcases List.mem_flatMap.mp later with ⟨next, inRest, made⟩
        exact ne_lineFeed_of_mem_forms (other next (List.mem_cons_of_mem _ inRest))
          (mem_forms_of_mem_small made) rfl

end Text

open Text (SingleLine singleLine_append)

/-! ## Identifiers -/

namespace Identifier

theorem singleLine_typeName (name : String) : SingleLine (typeName name) :=
  Text.singleLine_lowerCamel name

theorem singleLine_enumTypeName (name : String) : SingleLine (enumTypeName name) :=
  singleLine_append.mpr ⟨Text.singleLine_lowerCamel name, by decide⟩

theorem singleLine_fieldName (name : String) : SingleLine (fieldName name) := by
  unfold fieldName
  dsimp only
  split
  · exact singleLine_append.mpr ⟨Text.singleLine_lowerCamel name, by decide⟩
  · exact Text.singleLine_lowerCamel name

theorem singleLine_moduleName (name : Option String) : SingleLine (moduleName name) := by
  cases name with
  | none => exact List.not_mem_nil
  | some name => exact Text.singleLine_upperCamel name

end Identifier

/-! ## Type expressions -/

theorem Wrapper.singleLine_wrapAll {layers : List Wrapper} {text : String}
    (single : SingleLine text) : SingleLine (wrapAll layers text) := by
  induction layers with
  | nil => exact single
  | cons layer layers inductionHypothesis =>
      have fixed : SingleLine layer.opening ∧ SingleLine layer.closing := by
        cases layer <;> decide
      exact singleLine_append.mpr
        ⟨singleLine_append.mpr ⟨fixed.1, inductionHypothesis⟩, fixed.2⟩

namespace Descriptor

/-- The target of the descriptor, if it has one, stands on one line. -/
def SingleLineTarget (field : Descriptor) : Prop :=
  ∀ target ∈ field.scalar, SingleLine target

namespace SingleLineTarget

variable {field : Descriptor} (single : field.SingleLineTarget)
include single

theorem wrapAll_layers {spelling : Spelling}
    (enums : ∀ name, SingleLine (spelling.enumText name)) :
    SingleLine (Wrapper.wrapAll (field.layers spelling) (field.namedText spelling)) := by
  refine Wrapper.singleLine_wrapAll ?_
  unfold namedText
  split
  · exact enums _
  · cases target : field.scalar with
    | none => exact Identifier.singleLine_typeName _
    | some text => exact single text target

theorem accessorType : SingleLine field.accessorType := by
  rw [accessorType_eq]
  exact single.wrapAll_layers Identifier.singleLine_enumTypeName

theorem inputFieldType : SingleLine field.inputFieldType := by
  have string : SingleLine "string" := by decide
  rw [inputFieldType_eq]
  exact single.wrapAll_layers fun _ => string

theorem labeledArgument : SingleLine field.labeledArgument := by
  have type : SingleLine field.argumentType := by
    rw [argumentType_eq]
    split
    · exact singleLine_append.mpr ⟨single.accessorType, by decide⟩
    · exact single.accessorType
  refine singleLine_append.mpr ⟨singleLine_append.mpr ⟨singleLine_append.mpr ⟨?_, ?_⟩, ?_⟩, type⟩
  · decide
  · exact Identifier.singleLine_fieldName _
  · decide

theorem getterName : SingleLine field.getterName := by
  have reading {method : String} (known : SingleLine method) :
      SingleLine (if field.isNullable then "getNullable" ++ method else "get" ++ method) := by
    split
    · exact singleLine_append.mpr ⟨by decide, known⟩
    · exact singleLine_append.mpr ⟨by decide, known⟩
  unfold Descriptor.getterName
  by_cases list : field.isList
  · rw [if_pos list]
    split <;> decide
  · rw [if_neg list]
    refine reading ?_
    unfold typeClass
    cases target : field.scalar with
    | none => cases field.isEnum <;> decide
    | some text => exact Text.singleLine_capitalizedText (single text target)

end SingleLineTarget
end Descriptor

/-! ## Targets in an output -/

/-- No configured scalar has a target with a line feed. -/
def Config.SingleLineTargets (config : Config) : Prop :=
  ∀ entry ∈ config.scalars.entries, SingleLine entry.2

/-- With such a configuration all targets of a run stand on one line, the built-in ones
included. -/
theorem Config.SingleLineTargets.find? {config : Config} (single : config.SingleLineTargets)
    {name target : String} (found : config.scalarMap.find? name = some target) :
    SingleLine target := by
  have builtIn : ∀ entry ∈ ScalarMap.builtIn.entries, SingleLine entry.2 := by decide
  have ofEntries (scalars : ScalarMap) (each : ∀ entry ∈ scalars.entries, SingleLine entry.2)
      (listed : scalars.find? name = some target) : SingleLine target := by
    rcases List.lookup_eq_some_iff.mp listed with ⟨before, after, same, _⟩
    exact each (name, target) (same ▸ List.mem_append_right _ List.mem_cons_self)
  unfold Config.scalarMap at found
  rw [ScalarMap.find?_overlay] at found
  rcases Option.or_eq_some_iff.mp found with configured | ⟨_, default⟩
  · exact ofEntries _ single configured
  · exact ofEntries _ builtIn default

theorem singleLineTarget_resolve {config : Config} (single : config.SingleLineTargets)
    (schema : Schema) (label : String) (type : TypeRef) :
    ((schema.resolver config).resolve label type).SingleLineTarget := by
  intro target recorded
  rw [Resolver.resolve_scalar] at recorded
  split at recorded
  · exact absurd recorded (by simp)
  · exact single.find? recorded

end SchemaBindings
