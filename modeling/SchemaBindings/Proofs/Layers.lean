import SchemaBindings.Rendering.Shapes

namespace SchemaBindings

/-!
# Layers of type expressions

The steps of a table do two things.  By the class of a descriptor they turn its base text
into the text of the named type, and by its flags they put layers around this text.  The
table of accessors and the table of input fields differ only in how they spell an enum
and a value that may be absent; the table of arguments adds a mark to the first.

Every layer is a word with parentheses around what it holds.  Where the text of the named
type has no opening parenthesis, the layers can therefore be read off the expression from
the outside: the words in front of the parentheses are the layers, and what the last one
holds is the text of the named type.  So the expression determines both, and with them
all that the flags of the descriptor say about its type.
-/

namespace Wrapper

/-- The text with layers around it, of which the first is the outermost. -/
def wrapAll (layers : List Wrapper) (text : String) : String :=
  layers.foldr wrap text

@[simp] theorem wrapAll_nil (text : String) : wrapAll [] text = text :=
  rfl

@[simp] theorem wrapAll_cons (layer : Wrapper) (layers : List Wrapper) (text : String) :
    wrapAll (layer :: layers) text = layer.wrap (wrapAll layers text) :=
  rfl

variable {layer other : Wrapper}

/-! ## Reading layers off -/

theorem mem_toList_wrap (bracket : layer ≠ .optionalArgument) (text : String) :
    '(' ∈ (layer.wrap text).toList := by
  unfold wrap
  rw [String.toList_append, String.toList_append]
  refine List.mem_append_left _ (List.mem_append_left _ ?_)
  cases layer with
  | optionalArgument => exact absurd rfl bracket
  | _ => decide

/-- What a layer adds behind a text shows at the end. -/
theorem getLast?_toList_wrap (layer : Wrapper) (text : String) :
    (layer.wrap text).toList.getLast? = layer.closing.toList.getLast? := by
  unfold wrap
  rw [String.toList_append, List.getLast?_append]
  cases layer <;> rfl

/-- A bracket is closed by a parenthesis. -/
theorem getLast?_closing (bracket : layer ≠ .optionalArgument) :
    layer.closing.toList.getLast? = some ')' := by
  cases layer with
  | optionalArgument => exact absurd rfl bracket
  | _ => rfl

theorem head?_toList_wrap (bracket : layer ≠ .optionalArgument) (text : String) :
    (layer.wrap text).toList.head? = layer.opening.toList.head? := by
  have word : layer.opening.toList ≠ [] := by
    cases layer with
    | optionalArgument => exact absurd rfl bracket
    | _ => decide
  rcases List.exists_cons_of_ne_nil word with ⟨letter, letters, spelled⟩
  unfold wrap
  rw [String.toList_append, String.toList_append, spelled]
  rfl

/-- The outermost layer can be told from the text: only the mark of an argument is not closed
by a parenthesis, and the words of different brackets begin with different letters. -/
theorem wrap_eq_wrap_iff {text rest : String} :
    layer.wrap text = other.wrap rest ↔ layer = other ∧ text = rest := by
  constructor
  · intro same
    have ends : layer.closing.toList.getLast? = other.closing.toList.getLast? := by
      rw [← getLast?_toList_wrap layer text, same, getLast?_toList_wrap]
    have outermost : layer = other := by
      by_cases bracket : layer = .optionalArgument
      · subst bracket
        cases other with
        | optionalArgument => rfl
        | _ => exact absurd ends (by decide)
      · have otherBracket : other ≠ .optionalArgument := by
          rintro rfl
          rw [getLast?_closing bracket] at ends
          exact absurd ends (by decide)
        have letters : layer.opening.toList.head? = other.opening.toList.head? := by
          rw [← head?_toList_wrap bracket text, same, head?_toList_wrap otherBracket rest]
        cases layer <;> cases other <;> simp_all [opening]
    subst outermost
    unfold wrap at same
    exact ⟨rfl, (String.append_right_inj _).mp ((String.append_left_inj _).mp same)⟩
  · rintro ⟨rfl, rfl⟩
    rfl

section

variable {layers : List Wrapper} (brackets : ∀ layer ∈ layers, layer ≠ .optionalArgument)
include brackets

theorem mem_toList_wrapAll (layered : layers ≠ []) (text : String) :
    '(' ∈ (wrapAll layers text).toList := by
  cases layers with
  | nil => exact absurd rfl layered
  | cons layer layers => exact mem_toList_wrap (brackets layer List.mem_cons_self) _

theorem getLast?_toList_wrapAll (layered : layers ≠ []) (text : String) :
    (wrapAll layers text).toList.getLast? = some ')' := by
  cases layers with
  | nil => exact absurd rfl layered
  | cons layer layers =>
      exact (getLast?_toList_wrap layer _).trans (getLast?_closing (brackets layer List.mem_cons_self))

end

/-- Layers around a text without an opening parenthesis are determined by the whole
text, and so is the text inside.  The layers are compared from the outside: where one side has
none left, its text is all that remains, and that has no parenthesis to compare with a layer. -/
theorem wrapAll_eq_wrapAll_iff {layers others : List Wrapper} {text rest : String}
    (brackets : ∀ layer ∈ layers, layer ≠ .optionalArgument)
    (otherBrackets : ∀ layer ∈ others, layer ≠ .optionalArgument)
    (plain : '(' ∉ text.toList) (otherPlain : '(' ∉ rest.toList) :
    wrapAll layers text = wrapAll others rest ↔ layers = others ∧ text = rest := by
  constructor
  · intro same
    induction layers generalizing others with
    | nil =>
        cases others with
        | nil => exact ⟨rfl, same⟩
        | cons other others =>
            have opened := mem_toList_wrapAll otherBrackets (List.cons_ne_nil other others) rest
            rw [← same] at opened
            exact absurd opened plain
    | cons layer layers inductionHypothesis =>
        cases others with
        | nil =>
            have opened := mem_toList_wrapAll brackets (List.cons_ne_nil layer layers) text
            rw [same] at opened
            exact absurd opened otherPlain
        | cons other others =>
            have ⟨outermost, inside⟩ := wrap_eq_wrap_iff.mp same
            have ⟨inner, texts⟩ := inductionHypothesis
              (fun layer member => brackets layer (List.mem_cons_of_mem _ member))
              (fun layer member => otherBrackets layer (List.mem_cons_of_mem _ member)) inside
            exact ⟨by rw [outermost, inner], texts⟩
  · rintro ⟨rfl, rfl⟩
    rfl

end Wrapper

/-! ## Tables -/

/-- What a table decides for itself: how it spells an enum, and which layer says that a
value may be absent. -/
structure Spelling where
  enumText : String -> String
  absent : Wrapper
  absent_eq : absent = .option ∨ absent = .nullable

namespace Spelling

def accessor : Spelling :=
  ⟨Identifier.enumTypeName, .option, Or.inl rfl⟩

def inputField : Spelling :=
  ⟨stringTypeName, .nullable, Or.inr rfl⟩

def steps (spelling : Spelling) : List Step :=
  [⟨Descriptor.isEnum, spelling.enumText⟩,
    ⟨Descriptor.isObject, Identifier.typeName⟩,
    spelling.absent.step Descriptor.isNullable,
    Wrapper.array.step Descriptor.isList,
    spelling.absent.step Descriptor.hasNullableList]

variable (spelling : Spelling)

theorem absent_ne_array : spelling.absent ≠ .array := by
  rcases spelling.absent_eq with same | same <;> rw [same] <;> decide

theorem absent_ne_optionalArgument : spelling.absent ≠ .optionalArgument := by
  rcases spelling.absent_eq with same | same <;> rw [same] <;> decide

end Spelling

namespace Descriptor

/-- The text of the named type: an enum as the table spells it, a scalar by its target,
and any other type in camel case.  What is marked as an enum is spelled as one even if it
has a scalar target, and then by the target. -/
def namedText (spelling : Spelling) (field : Descriptor) : String :=
  if field.isEnum then spelling.enumText field.base
  else field.scalar.getD (Identifier.typeName field.typeName)

/-- The layers around the text of the named type, the outermost first. -/
def layers (spelling : Spelling) (field : Descriptor) : List Wrapper :=
  (if field.hasNullableList then [spelling.absent] else [])
    ++ (if field.isList then [.array] else [])
    ++ (if field.isNullable then [spelling.absent] else [])

variable (spelling : Spelling) (field other : Descriptor)

/-- The first two steps of a table find the text of the named type. -/
theorem renderFrom_classSteps :
    renderFrom [⟨Descriptor.isEnum, spelling.enumText⟩,
      ⟨Descriptor.isObject, Identifier.typeName⟩] field field.base = field.namedText spelling := by
  unfold renderFrom namedText isObject base
  simp only [List.foldl_cons, List.foldl_nil, Step.apply]
  cases field.isEnum with
  | true => rfl
  | false =>
      cases field.scalar with
      | none => rfl
      | some target => rfl

/-- The other steps put the layers around a text, the innermost first. -/
theorem renderFrom_layerSteps (text : String) :
    renderFrom [spelling.absent.step Descriptor.isNullable, Wrapper.array.step Descriptor.isList,
      spelling.absent.step Descriptor.hasNullableList] field text =
        Wrapper.wrapAll (field.layers spelling) text := by
  unfold renderFrom layers
  simp only [List.foldl_cons, List.foldl_nil, Step.apply, Wrapper.step]
  cases field.hasNullableList <;> cases field.isList <;> cases field.isNullable <;> rfl

theorem render_steps : render spelling.steps field =
    Wrapper.wrapAll (field.layers spelling) (field.namedText spelling) := by
  rw [← renderFrom_classSteps, ← renderFrom_layerSteps]
  rfl

theorem accessorType_eq : field.accessorType =
    Wrapper.wrapAll (field.layers .accessor) (field.namedText .accessor) :=
  render_steps .accessor field

theorem inputFieldType_eq : field.inputFieldType =
    Wrapper.wrapAll (field.layers .inputField) (field.namedText .inputField) :=
  render_steps .inputField field

/-- An argument is written as an accessor is, with a mark if it may be left out. -/
theorem argumentType_eq : field.argumentType =
    if field.isOptional then field.accessorType ++ "=?" else field.accessorType := by
  unfold argumentType argumentSteps render renderFrom
  rw [List.foldl_append]
  change (if field.isOptional then
    Wrapper.optionalArgument.wrap field.accessorType else field.accessorType) = _
  unfold Wrapper.wrap Wrapper.opening Wrapper.closing
  rw [String.empty_append]

/-! ## Shapes of descriptors -/

theorem bracket_of_mem_layers : ∀ layer ∈ field.layers spelling, layer ≠ .optionalArgument := by
  intro layer member
  have layers : layer = spelling.absent ∨ layer = .array := by
    unfold Descriptor.layers at member
    grind
  rcases layers with same | same
  · exact same ▸ spelling.absent_ne_optionalArgument
  · exact same ▸ (by decide)

variable {field other}

/-- The layers say what the flags say about a type.  For a type that is no list they say
nothing about a list that may be absent. -/
theorem layers_eq_layers_iff : field.layers spelling = other.layers spelling ↔
    field.isList = other.isList ∧ field.isNullable = other.isNullable ∧
      field.hasNullableList = other.hasNullableList := by
  have different := spelling.absent_ne_array
  unfold layers hasNullableList
  cases field.isList <;> cases field.isNullable <;> cases field.isNullableList <;>
    cases other.isList <;> cases other.isNullable <;> cases other.isNullableList <;>
      simp [different, different.symm]

/-- A value that may be absent at some layer has a layer. -/
theorem layers_ne_nil_of_isOptional (optional : field.isOptional = true) :
    field.layers spelling ≠ [] := by
  unfold isOptional at optional
  unfold layers hasNullableList
  rcases Bool.or_eq_true_iff.mp optional with nullable | list
  · simp [nullable]
  · simp [list]

/-- Two descriptors say the same about a type: its text and its flags agree, where the
flag of a list that may be absent counts only for a list. -/
def SameShape (spelling : Spelling) (field other : Descriptor) : Prop :=
  field.namedText spelling = other.namedText spelling ∧ field.isList = other.isList ∧
    field.isNullable = other.isNullable ∧ field.hasNullableList = other.hasNullableList

namespace SameShape

variable {spelling}

theorem render_eq (same : SameShape spelling field other) :
    render spelling.steps field = render spelling.steps other := by
  have ⟨text, flags⟩ := same
  rw [render_steps, render_steps, text, (layers_eq_layers_iff spelling).mpr flags]

theorem isOptional_eq (same : SameShape spelling field other) :
    field.isOptional = other.isOptional := by
  have ⟨_, _, nullable, list⟩ := same
  unfold hasNullableList at list
  unfold isOptional
  rw [nullable, list]

theorem argumentType_eq (same : SameShape .accessor field other) :
    field.argumentType = other.argumentType := by
  have accessors : field.accessorType = other.accessorType := same.render_eq
  rw [Descriptor.argumentType_eq, Descriptor.argumentType_eq, accessors, same.isOptional_eq]

/-- For a type that is no list, the flag of a list that may be absent says nothing. -/
theorem of_not_isList (single : field.isList = false) (flag : Bool) :
    SameShape spelling { field with isNullableList := flag } field := by
  refine ⟨rfl, rfl, rfl, ?_⟩
  change (field.isList && flag) = (field.isList && field.isNullableList)
  rw [single, Bool.false_and, Bool.false_and]

end SameShape

/-- Expressions are equal just if descriptors say the same. -/
theorem render_steps_eq_iff (plain : '(' ∉ (field.namedText spelling).toList)
    (otherPlain : '(' ∉ (other.namedText spelling).toList) :
    render spelling.steps field = render spelling.steps other ↔
      SameShape spelling field other := by
  constructor
  · intro same
    rw [render_steps, render_steps] at same
    have ⟨layers, text⟩ := (Wrapper.wrapAll_eq_wrapAll_iff (bracket_of_mem_layers spelling field)
      (bracket_of_mem_layers spelling other) plain otherPlain).mp same
    exact ⟨text, (layers_eq_layers_iff spelling).mp layers⟩
  · exact SameShape.render_eq

/-- A marked expression is no accessor type.  It has a layer, and what has a layer and is
not marked ends with a parenthesis. -/
theorem accessorType_mark_ne (optional : field.isOptional = true)
    (plain : '(' ∉ (other.namedText .accessor).toList) :
    field.accessorType ++ "=?" ≠ other.accessorType := by
  intro same
  have opened : '(' ∈ other.accessorType.toList := by
    rw [← same, accessorType_eq, String.toList_append]
    exact List.mem_append_left _ (Wrapper.mem_toList_wrapAll
      (bracket_of_mem_layers .accessor field) (layers_ne_nil_of_isOptional .accessor optional) _)
  have layered : other.layers .accessor ≠ [] := by
    intro none
    rw [accessorType_eq, none] at opened
    exact plain opened
  have closed : other.accessorType.toList.getLast? = some ')' := by
    rw [accessorType_eq]
    exact Wrapper.getLast?_toList_wrapAll (bracket_of_mem_layers .accessor other) layered _
  have marked : (field.accessorType ++ "=?").toList.getLast? = some '?' := by
    rw [String.toList_append, List.getLast?_append]
    rfl
  rw [same, closed] at marked
  exact absurd marked (by decide)

theorem argumentType_eq_iff (plain : '(' ∉ (field.namedText .accessor).toList)
    (otherPlain : '(' ∉ (other.namedText .accessor).toList) :
    field.argumentType = other.argumentType ↔ SameShape .accessor field other := by
  have accessors : field.accessorType = other.accessorType ↔ SameShape .accessor field other :=
    render_steps_eq_iff .accessor plain otherPlain
  constructor
  · intro same
    rw [argumentType_eq, argumentType_eq] at same
    cases optional : field.isOptional <;> cases otherOptional : other.isOptional <;>
      simp only [optional, otherOptional, Bool.false_eq_true, if_false, if_true] at same
    · exact accessors.mp same
    · exact absurd same.symm (accessorType_mark_ne otherOptional plain)
    · exact absurd same (accessorType_mark_ne optional otherPlain)
    · exact accessors.mp ((String.append_left_inj _).mp same)
  · exact SameShape.argumentType_eq

/-- In each of the three places, type expressions around texts without an opening
parenthesis are equal just if the texts are equal and the descriptors say the same about
lists and about absence.  For a type that is no list, the flag of a list that may be
absent changes none of the expressions. -/
theorem type_expressions_determine_shapes :
    (∀ field other : Descriptor, '(' ∉ (field.namedText .accessor).toList ->
      '(' ∉ (other.namedText .accessor).toList ->
      (field.accessorType = other.accessorType ↔ SameShape .accessor field other) ∧
        (field.argumentType = other.argumentType ↔ SameShape .accessor field other)) ∧
    (∀ field other : Descriptor, '(' ∉ (field.namedText .inputField).toList ->
      '(' ∉ (other.namedText .inputField).toList ->
      (field.inputFieldType = other.inputFieldType ↔ SameShape .inputField field other)) ∧
    ∀ field : Descriptor, field.isList = false -> ∀ flag : Bool,
      let other : Descriptor := { field with isNullableList := flag }
      other.accessorType = field.accessorType ∧ other.inputFieldType = field.inputFieldType ∧
        other.argumentType = field.argumentType := by
  refine ⟨fun field other plain otherPlain => ⟨?_, ?_⟩, fun field other plain otherPlain => ?_, ?_⟩
  · exact render_steps_eq_iff .accessor plain otherPlain
  · exact argumentType_eq_iff plain otherPlain
  · exact render_steps_eq_iff .inputField plain otherPlain
  · intro field single flag other
    have same (spelling : Spelling) : SameShape spelling other field :=
      .of_not_isList single flag
    exact ⟨(same .accessor).render_eq, (same .inputField).render_eq,
      (same .accessor).argumentType_eq⟩

/-- Two lists of a scalar whose target is itself the word of a layer, and an enum with a
flag that says nothing about it. -/
theorem type_expressions_determine_shapes_nested :
    let tags : Descriptor := ⟨"tags", "Tag", true, true, false, false, some "option"⟩
    let words : Descriptor := ⟨"words", "Word", true, false, true, false, some "option"⟩
    let state : Descriptor := ⟨"state", "State", false, true, true, true, none⟩
    '(' ∉ (tags.namedText .accessor).toList ∧ '(' ∉ (words.namedText .accessor).toList ∧
      '(' ∉ (tags.namedText .inputField).toList ∧ '(' ∉ (words.namedText .inputField).toList ∧
      tags.accessorType = "option(array(option))" ∧
      words.accessorType = "array(option(option))" ∧
      (tags.accessorType = words.accessorType ↔ SameShape .accessor tags words) ∧
      (tags.argumentType = words.argumentType ↔ SameShape .accessor tags words) ∧
      (tags.inputFieldType = words.inputFieldType ↔ SameShape .inputField tags words) ∧
      state.isList = false ∧
      { state with isNullableList := false }.argumentType = state.argumentType := by
  intro tags words state
  have plain : '(' ∉ (tags.namedText .accessor).toList := by decide
  have otherPlain : '(' ∉ (words.namedText .accessor).toList := by decide
  have inputPlain : '(' ∉ (tags.namedText .inputField).toList := by decide
  have otherInputPlain : '(' ∉ (words.namedText .inputField).toList := by decide
  obtain ⟨accessors, inputFields, singles⟩ := type_expressions_determine_shapes
  have ⟨byAccessor, byArgument⟩ := accessors tags words plain otherPlain
  exact ⟨plain, otherPlain, inputPlain, otherInputPlain, rfl, rfl, byAccessor, byArgument,
    inputFields tags words inputPlain otherInputPlain, rfl, (singles state rfl false).2.2⟩

end Descriptor

end SchemaBindings
