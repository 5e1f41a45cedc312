import SchemaBindings.Proofs.DistinctNames

namespace SchemaBindings

/-!
# Getters and accessor types

The function that decodes a field and the type of its accessor are chosen apart from each other:
the one by the class of the type, the other by a table of steps, and where a descriptor is marked
as an enum and has a scalar target too, they take it for different things.  What they say about
an absent value is the same nevertheless.  A getter for values that may be absent goes with a
type that is optional at its outermost layer, and of a list both say whether the list itself may
be absent.

Only the target of a scalar can disturb this, since it is put into both texts: into the type as
it is and into the name of the getter with a capital letter and small ones behind it.  A target
that starts with the word of the getter, however its letters are written, or with that of the
type makes one of them look like what it is not.  No other text does.  In particular no character
beyond ASCII has a capital or small form that starts like a letter of the word.
-/

namespace Text

/-! ## Letters that no other character turns into -/

/-- The letter is an ASCII character, and the tables put it in front of no character. -/
def neverLeadsTo (special : List (Nat × List Nat)) (runs : List (Run × Int)) (letter : Char) :
    Bool :=
  0 < letter.toNat && letter.toNat < 0x80 &&
    special.all (fun entry => (entry.2.map Char.ofNat).head?.any (· != letter)) &&
    runs.all fun entry =>
      letter.toNat < entry.1.first + entry.2 || entry.1.last + entry.2 < letter.toNat

theorem toNat_ofNat_of_ne {code : Nat} (visible : (Char.ofNat code).toNat ≠ 0) :
    (Char.ofNat code).toNat = code := by
  by_cases valid : code.isValidChar
  · unfold Char.ofNat
    rw [dif_pos valid]
    rfl
  · unfold Char.ofNat at visible
    rw [dif_neg valid] at visible
    exact absurd rfl visible

/-- Where the tables do not lead to a letter, the form of a character beyond ASCII starts with
some other character. -/
theorem exists_cons_caseForm {special : List (Nat × List Nat)} {runs : List (Run × Int)}
    {letter : Char} (clear : neverLeadsTo special runs letter = true) {c : Char}
    (beyond : ¬ c.toNat < 0x80) :
    ∃ first rest, caseForm special runs c = first :: rest ∧ first ≠ letter := by
  simp only [neverLeadsTo, Bool.and_eq_true, decide_eq_true_eq, List.all_eq_true] at clear
  obtain ⟨⟨⟨visible, ascii⟩, apart⟩, aside⟩ := clear
  unfold caseForm
  split
  case h_1 codes found =>
    rcases List.lookup_eq_some_iff.mp found with ⟨before, after, same, _⟩
    have entry : (c.toNat, codes) ∈ special := same ▸ List.mem_append_right _ List.mem_cons_self
    have leading := apart _ entry
    cases codes with
    | nil => exact absurd leading Bool.false_ne_true
    | cons code codes => exact ⟨Char.ofNat code, codes.map Char.ofNat, rfl, bne_iff_ne.mp leading⟩
  case h_2 =>
    split
    case h_1 run shift found =>
      have outside := aside _ (List.mem_of_find?_eq_some found)
      have inside := List.find?_some found
      simp only [Bool.or_eq_true, decide_eq_true_eq] at outside
      simp only [Run.contains, Bool.and_eq_true, decide_eq_true_eq] at inside
      refine ⟨_, [], rfl, fun same => ?_⟩
      have code : (Char.ofNat (c.toNat + shift).toNat).toNat = (c.toNat + shift).toNat :=
        toNat_ofNat_of_ne (same ▸ Nat.ne_of_gt visible)
      rw [same] at code
      omega
    case h_2 =>
      refine ⟨c, [], rfl, ?_⟩
      rintro rfl
      exact beyond ascii

theorem neverLeadsTo_lowering :
    "ullable".toList.all (neverLeadsTo loweredSpecially loweringRuns) = true := by
  decide +kernel

theorem neverLeadsTo_raising : neverLeadsTo raisedSpecially raisingRuns 'N' = true := by
  decide +kernel

/-! ## Words at the start of a text -/

/-- What small forms spell at the start, the characters of the text spell in some case. -/
theorem prefix_map_toLower_of_flatMap_small {word : List Char}
    (clear : ∀ letter ∈ word, neverLeadsTo loweredSpecially loweringRuns letter = true) :
    ∀ {text : List Char}, word <+: text.flatMap small -> word <+: text.map Char.toLower := by
  induction word with
  | nil => exact fun _ => List.nil_prefix
  | cons letter word inductionHypothesis =>
      intro text starts
      cases text with
      | nil => exact starts
      | cons c text =>
          rw [List.flatMap_cons] at starts
          by_cases ascii : c.toNat < 0x80
          · have form : small c = [c.toLower] := if_pos ascii
            rw [form, List.singleton_append, List.cons_prefix_cons] at starts
            rw [List.map_cons, List.cons_prefix_cons]
            exact ⟨starts.1, inductionHypothesis
              (fun other member => clear other (List.mem_cons_of_mem _ member)) starts.2⟩
          · have form : small c = caseForm loweredSpecially loweringRuns c := if_neg ascii
            rcases exists_cons_caseForm (clear letter List.mem_cons_self) ascii with
              ⟨first, rest, spelled, different⟩
            rw [form, spelled, List.cons_append, List.cons_prefix_cons] at starts
            exact absurd starts.1.symm different

/-- A capitalized text starts with the word only if the text does in some case. -/
theorem prefix_of_prefix_capitalizedText {text : String}
    (starts : "Nullable".toList <+: (capitalizedText text).toList) :
    "nullable".toList <+: text.toList.map Char.toLower := by
  cases spelled : text.toList with
  | nil =>
      have empty : capitalizedText text = "" := by
        unfold capitalizedText
        rw [spelled]
      rw [empty] at starts
      exact absurd starts (by decide)
  | cons c rest =>
      have written : (capitalizedText text).toList = capital c ++ rest.flatMap small := by
        unfold capitalizedText
        rw [spelled]
        exact String.toList_ofList
      rw [written] at starts
      change 'N' :: "ullable".toList <+: capital c ++ rest.flatMap small at starts
      change 'n' :: "ullable".toList <+: c.toLower :: rest.map Char.toLower
      rw [List.cons_prefix_cons]
      by_cases ascii : c.toNat < 0x80
      · have form : capital c = [c.toUpper] := if_pos ascii
        rw [form, List.singleton_append, List.cons_prefix_cons] at starts
        have letter : 'N' = c.toUpper -> 'n' = c.toLower :=
          of_ascii (fun c => 'N' = c.toUpper -> 'n' = c.toLower) (by decide +kernel) ascii
        exact ⟨letter starts.1, prefix_map_toLower_of_flatMap_small
          (List.all_eq_true.mp neverLeadsTo_lowering) starts.2⟩
      · have form : capital c = caseForm raisedSpecially raisingRuns c := if_neg ascii
        rcases exists_cons_caseForm neverLeadsTo_raising ascii with
          ⟨first, others, spelled, different⟩
        rw [form, spelled, List.cons_append, List.cons_prefix_cons] at starts
        exact absurd starts.1.symm different

end Text

namespace Descriptor

variable {field : Descriptor}

/-- The outermost layer of the type says that a value may be absent. -/
def mayBeAbsent (field : Descriptor) : Bool :=
  if field.isList then field.isNullableList else field.isNullable

/-- A scalar target that looks neither like the name of a getter for absent values nor like an
optional type. -/
structure PlainTarget (target : String) : Prop where
  getter : ¬ "nullable".toList <+: target.toList.map Char.toLower
  accessor : ¬ "option(".toList <+: target.toList

instance (target : String) : Decidable (PlainTarget target) :=
  decidable_of_iff (¬ "nullable".toList <+: target.toList.map Char.toLower ∧
      ¬ "option(".toList <+: target.toList)
    ⟨fun ⟨getter, accessor⟩ => ⟨getter, accessor⟩, fun ⟨getter, accessor⟩ => ⟨getter, accessor⟩⟩

/-! ## Types -/

theorem not_option_prefix_of_notMem {text : String} (plain : '(' ∉ text.toList) :
    ¬ "option(".toList <+: text.toList :=
  fun starts => plain (starts.subset (by decide))

/-- The text of the named type starts like an optional type only if it is a target that does. -/
theorem not_option_prefix_namedText
    (plain : ∀ target ∈ field.scalar, ¬ "option(".toList <+: target.toList) :
    ¬ "option(".toList <+: (field.namedText .accessor).toList := by
  cases enum : field.isEnum with
  | true =>
      rw [namedText_of_isEnum enum]
      exact not_option_prefix_of_notMem (Identifier.parenthesis_notMem_enumTypeName _)
  | false =>
      have text : field.namedText .accessor =
          field.scalar.getD (Identifier.typeName field.typeName) := by
        unfold namedText
        rw [enum, if_neg Bool.false_ne_true]
      rw [text]
      cases scalar : field.scalar with
      | none => exact not_option_prefix_of_notMem (Identifier.parenthesis_notMem_typeName _)
      | some target => exact plain target scalar

theorem option_prefix_wrap (text : String) :
    "option(".toList <+: (Wrapper.option.wrap text).toList := by
  unfold Wrapper.wrap
  rw [String.toList_append, String.toList_append, List.append_assoc]
  exact List.prefix_append _ _

theorem not_option_prefix_wrap_array (text : String) :
    ¬ "option(".toList <+: (Wrapper.array.wrap text).toList := by
  unfold Wrapper.wrap
  rw [String.toList_append, String.toList_append, List.append_assoc]
  change ¬ 'o' :: _ <+: 'a' :: _
  rw [List.cons_prefix_cons]
  exact fun both => absurd both.1 (by decide)

/-- The type of a list is written around that of its items, and as optional just if the list may
be absent. -/
theorem accessorType_of_isList (list : field.isList = true) :
    ∃ item, field.accessorType = if field.isNullableList then
      Wrapper.option.wrap (Wrapper.array.wrap item) else Wrapper.array.wrap item := by
  refine ⟨Wrapper.wrapAll (if field.isNullable then [.option] else [])
    (field.namedText .accessor), ?_⟩
  rw [accessorType_eq]
  unfold layers hasNullableList
  rw [list]
  cases field.isNullableList <;> rfl

theorem accessorType_of_not_isList (single : field.isList = false) :
    field.accessorType = if field.isNullable then
      Wrapper.option.wrap (field.namedText .accessor) else field.namedText .accessor := by
  rw [accessorType_eq]
  unfold layers hasNullableList
  rw [single]
  cases field.isNullable <;> rfl

theorem option_prefix_accessorType_iff
    (plain : ∀ target ∈ field.scalar, ¬ "option(".toList <+: target.toList) :
    "option(".toList <+: field.accessorType.toList ↔ field.mayBeAbsent = true := by
  unfold mayBeAbsent
  cases shape : field.isList with
  | true =>
      rcases accessorType_of_isList shape with ⟨item, written⟩
      rw [written, if_pos rfl]
      cases field.isNullableList with
      | true => exact iff_of_true (option_prefix_wrap _) rfl
      | false => exact iff_of_false (not_option_prefix_wrap_array _) Bool.false_ne_true
  | false =>
      rw [accessorType_of_not_isList shape, if_neg Bool.false_ne_true]
      cases field.isNullable with
      | true => exact iff_of_true (option_prefix_wrap _) rfl
      | false => exact iff_of_false (not_option_prefix_namedText plain) Bool.false_ne_true

/-! ## Getters -/

theorem getterName_of_isList (list : field.isList = true) :
    field.getterName = if field.isNullableList then "getNullableArray" else "getArray" :=
  if_pos list

/-- What the name of a getter says about the class of the type. -/
def getterMethod (field : Descriptor) : String :=
  match field.typeClass with
  | .scalar target => Text.capitalizedText target
  | .enum => "Enum"
  | .object => "Field"

theorem getterName_of_not_isList (single : field.isList = false) :
    field.getterName =
      if field.isNullable then "getNullable" ++ field.getterMethod
      else "get" ++ field.getterMethod :=
  if_neg (Bool.eq_false_iff.mp single)

theorem not_nullable_prefix_getterMethod
    (plain : ∀ target ∈ field.scalar, ¬ "nullable".toList <+: target.toList.map Char.toLower) :
    ¬ "Nullable".toList <+: field.getterMethod.toList := by
  unfold getterMethod typeClass
  cases scalar : field.scalar with
  | some target => exact mt Text.prefix_of_prefix_capitalizedText (plain target scalar)
  | none =>
      cases field.isEnum with
      | true => decide
      | false => decide

theorem getNullable_prefix_getterName_iff
    (plain : ∀ target ∈ field.scalar, ¬ "nullable".toList <+: target.toList.map Char.toLower) :
    "getNullable".toList <+: field.getterName.toList ↔ field.mayBeAbsent = true := by
  unfold mayBeAbsent
  cases shape : field.isList with
  | true =>
      rw [getterName_of_isList shape, if_pos rfl]
      cases field.isNullableList with
      | true => exact iff_of_true (by decide) rfl
      | false => exact iff_of_false (by decide) Bool.false_ne_true
  | false =>
      rw [getterName_of_not_isList shape, if_neg Bool.false_ne_true]
      cases field.isNullable with
      | true =>
          rw [if_pos rfl, String.toList_append]
          exact iff_of_true (List.prefix_append _ _) rfl
      | false =>
          rw [if_neg Bool.false_ne_true, String.toList_append]
          change "get".toList ++ "Nullable".toList <+: _ ↔ _
          rw [List.prefix_append_right_inj]
          exact iff_of_false (not_nullable_prefix_getterMethod plain) Bool.false_ne_true

/-- Unless the target of a scalar looks like the name of such a getter or like such a type, the
getter of a field is one for values that may be absent just if the type of its accessor is
optional, and both follow the flag of the outermost layer.  Whatever its target is, a list has one
of two getters: one if the type of the array stands inside an optional type, the other if it
stands outermost. -/
theorem getters_match_accessors (field : Descriptor) :
    ((∀ target ∈ field.scalar, PlainTarget target) ->
      ("getNullable".toList <+: field.getterName.toList ↔
        "option(".toList <+: field.accessorType.toList) ∧
      ("option(".toList <+: field.accessorType.toList ↔ field.mayBeAbsent = true)) ∧
    (field.isList = true ->
      (field.getterName = "getNullableArray" ∨ field.getterName = "getArray") ∧
      (field.getterName = "getNullableArray" ↔
        ∃ item, field.accessorType = Wrapper.option.wrap (Wrapper.array.wrap item)) ∧
      (field.getterName = "getArray" ↔
        ∃ item, field.accessorType = Wrapper.array.wrap item)) := by
  constructor
  · intro plain
    have getter := getNullable_prefix_getterName_iff fun target found =>
      (plain target found).getter
    have accessor := option_prefix_accessorType_iff fun target found =>
      (plain target found).accessor
    exact ⟨getter.trans accessor.symm, accessor⟩
  · intro list
    have apart (text rest : String) : Wrapper.option.wrap text ≠ Wrapper.array.wrap rest :=
      fun same => absurd (Wrapper.wrap_eq_wrap_iff.mp same).1 (by decide)
    rcases accessorType_of_isList list with ⟨item, written⟩
    rw [getterName_of_isList list, written]
    cases field.isNullableList with
    | true =>
        rw [if_pos rfl, if_pos rfl]
        refine ⟨Or.inl rfl, iff_of_true rfl ⟨item, rfl⟩, iff_of_false (by decide) ?_⟩
        rintro ⟨other, same⟩
        exact apart _ _ same
    | false =>
        rw [if_neg Bool.false_ne_true, if_neg Bool.false_ne_true]
        refine ⟨Or.inr rfl, iff_of_false (by decide) ?_, iff_of_true rfl ⟨item, rfl⟩⟩
        rintro ⟨other, same⟩
        exact apart _ _ same.symm

/-- A field that is marked as an enum and has a scalar target, and a list whose target is itself
a word of a layer. -/
theorem getters_match_accessors_ambiguous :
    let state : Descriptor := ⟨"state", "State", false, false, true, true, some "Optional"⟩
    let tags : Descriptor := ⟨"tags", "Tag", true, false, true, false, some "option"⟩
    (∀ target ∈ state.scalar, PlainTarget target) ∧ tags.isList = true ∧
      state.getterName = "getNullableOptional" ∧ state.accessorType = "option(optional_enum)" ∧
      tags.getterName = "getArray" ∧ tags.accessorType = "array(option(option))" ∧
      ("getNullable".toList <+: state.getterName.toList ↔
        "option(".toList <+: state.accessorType.toList) ∧
      ∃ item, tags.accessorType = Wrapper.array.wrap item := by
  intro state tags
  have plain : ∀ target ∈ state.scalar, PlainTarget target := by decide
  have getter : tags.getterName = "getArray" := by decide
  exact ⟨plain, rfl, by decide +kernel, by decide +kernel, getter, by decide +kernel,
    ((getters_match_accessors state).1 plain).1,
    ((getters_match_accessors tags).2 rfl).2.2.mp getter⟩

/-- The letter case of a target does not keep it from looking like the name of a getter, and a
target may look like an optional type. -/
example :
    let text : Descriptor := ⟨"text", "Text", false, false, false, false, some "nULLableText"⟩
    let maybe : Descriptor := ⟨"maybe", "Maybe", false, false, false, false, some "option(int)"⟩
    text.getterName = "getNullabletext" ∧ text.accessorType = "nULLableText" ∧
      maybe.getterName = "getOption(int)" ∧ maybe.accessorType = "option(int)" := by
  decide +kernel

end Descriptor

end SchemaBindings
