import SchemaBindings.Proofs.PrintedTypes
import SchemaBindings.Proofs.TypeStructure

namespace SchemaBindings

/-!
# Shapes read off displayed types

A displayed type has its opening brackets in front of the name and everything else behind
it: from the inside to the outside, a bracket for each list and a bang for each non-null
marker.  The shape of the type can be read there.  The name ends where the brackets and
bangs begin, a value may be absent unless a bang follows the name, and the innermost list is
the one whose bracket comes first, so it may be absent unless a bang follows that.

Resolution goes the other way, from the outermost wrapper to the name, and says of each place
that it meets whether a value may be absent there.  The two are compared at every place: what
resolution knows of a place is whether the rest of the text after it begins with a bang.

Of the whole type, too, nothing is lost: its name and the brackets and bangs behind it are what
it is made of.
-/

/-- A character that stands for a wrapper of a type. -/
def isWrapperMark (c : Char) : Bool :=
  c = '[' || c = ']' || c = '!'

theorem not_isWrapperMark_of_all {name : String}
    (plain : name.toList.all (fun c => !isWrapperMark c) = true) :
    ∀ c ∈ name.toList, isWrapperMark c = false := by
  intro c member
  exact (Bool.not_eq_true' _).mp (List.all_eq_true.mp plain c member)

/-- No bang follows directly. -/
def unmarked (text : List Char) : Bool :=
  text.head? ≠ some '!'

/-- What follows the first closing bracket. -/
def afterBracket (text : List Char) : List Char :=
  (text.dropWhile (· ≠ ']')).tail

theorem afterBracket_append {before : List Char} (outside : ']' ∉ before) (text : List Char) :
    afterBracket (before ++ text) = afterBracket text := by
  have passed : ∀ c ∈ before, decide (c ≠ ']') = true := by
    intro c member
    exact decide_eq_true fun same => outside (same ▸ member)
  unfold afterBracket
  rw [List.dropWhile_append_of_pos passed]

theorem afterBracket_cons (after : List Char) : afterBracket (']' :: after) = after :=
  rfl

/-- No bang follows the first closing bracket, of which there is one. -/
theorem exists_unmarked_bracket_iff {text : List Char} :
    (∃ before after, text = before ++ ']' :: after ∧ ']' ∉ before ∧ after.head? ≠ some '!') ↔
      ']' ∈ text ∧ unmarked (afterBracket text) = true := by
  unfold unmarked
  rw [decide_eq_true_iff]
  constructor
  · rintro ⟨before, after, rfl, outside, free⟩
    rw [afterBracket_append outside, afterBracket_cons]
    exact ⟨List.mem_append_right _ List.mem_cons_self, free⟩
  · rintro ⟨bracket, free⟩
    rcases List.eq_append_cons_of_mem bracket with ⟨before, after, rfl, outside⟩
    rw [afterBracket_append outside, afterBracket_cons] at free
    exact ⟨before, after, rfl, outside, free⟩

namespace TypeRef

/-- What a displayed type has behind its name, from the inside to the outside. -/
def closings : TypeRef -> List Char
  | named _ => []
  | list inner => inner.closings ++ [']']
  | nonNull inner => inner.closings ++ ['!']

theorem toList_display (type : TypeRef) : type.display.toList =
    List.replicate type.listDepth '[' ++ type.typeName.toList ++ type.closings := by
  induction type with
  | named name => exact (List.append_nil _).symm
  | list inner inductionHypothesis =>
      have shown := toList_display_list inner []
      rw [List.append_nil, inductionHypothesis] at shown
      simp [shown, listDepth, closings, typeName, List.replicate_succ]
  | nonNull inner inductionHypothesis =>
      have shown := toList_display_nonNull inner []
      rw [List.append_nil, inductionHypothesis] at shown
      simp [shown, listDepth, closings, typeName]

theorem mem_closings {type : TypeRef} {c : Char} (member : c ∈ type.closings) :
    c = ']' ∨ c = '!' := by
  induction type with
  | named name => cases member
  | list inner inductionHypothesis =>
      rcases List.mem_append.mp member with inside | last
      · exact inductionHypothesis inside
      · exact Or.inl (List.mem_singleton.mp last)
  | nonNull inner inductionHypothesis =>
      rcases List.mem_append.mp member with inside | last
      · exact inductionHypothesis inside
      · exact Or.inr (List.mem_singleton.mp last)

theorem bracket_mem_closings (type : TypeRef) : ']' ∈ type.closings ↔ type.hasList = true := by
  induction type with
  | named name => simp [closings, hasList]
  | list inner _ => simp [closings, hasList]
  | nonNull inner inductionHypothesis => simp [closings, hasList, inductionHypothesis]

/-- Whether a value may be absent is what the text behind the name says, if what is known of
the place of the type is what the text behind the type says. -/
theorem isNullable_shapeWithin (type : TypeRef) : ∀ after,
    (type.shapeWithin (unmarked after)).isNullable = unmarked (type.closings ++ after) := by
  induction type with
  | named name => exact fun _ => rfl
  | list inner inductionHypothesis =>
      intro after
      have inside := inductionHypothesis (']' :: after)
      rw [closings, List.append_assoc, List.singleton_append, ← inside, shapeWithin]
      split
      · rfl
      · rfl
  | nonNull inner inductionHypothesis =>
      intro after
      have inside := inductionHypothesis ('!' :: after)
      rw [closings, List.append_assoc, List.singleton_append, ← inside]
      rfl

/-- The bracket of the innermost list is the first one behind the name. -/
theorem isNullableList_shapeWithin {type : TypeRef} (listed : type.hasList = true) : ∀ after,
    (type.shapeWithin (unmarked after)).isNullableList =
      unmarked (afterBracket (type.closings ++ after)) := by
  induction type with
  | named name => cases listed
  | list inner inductionHypothesis =>
      intro after
      rw [closings, List.append_assoc, List.singleton_append]
      by_cases nested : inner.hasList = true
      · rw [shapeWithin_list_of_hasList nested, ← inductionHypothesis nested (']' :: after)]
        rfl
      · have outside : ']' ∉ inner.closings := mt inner.bracket_mem_closings.mp nested
        rw [shapeWithin_list_of_not_hasList (Bool.eq_false_iff.mpr nested),
          afterBracket_append outside, afterBracket_cons]
  | nonNull inner inductionHypothesis =>
      intro after
      rw [closings, List.append_assoc, List.singleton_append,
        ← inductionHypothesis listed ('!' :: after)]
      rfl

/-- Only a list has a list that may be absent, and it is the text behind the name that says
so. -/
theorem isNullableList_shape_iff (type : TypeRef) : type.shape.isNullableList = true ↔
    ']' ∈ type.closings ∧ unmarked (afterBracket type.closings) = true := by
  have read (listed : type.hasList = true) :
      type.shape.isNullableList = unmarked (afterBracket type.closings) := by
    have within := type.isNullableList_shapeWithin listed []
    rwa [List.append_nil] at within
  rw [bracket_mem_closings]
  constructor
  · intro flag
    have listed : type.hasList = true := by
      rw [← type.isList_shapeWithin true]
      exact type.isList_of_isNullableList true flag
    exact ⟨listed, read listed ▸ flag⟩
  · rintro ⟨listed, free⟩
    exact (read listed).trans free

/-- Without the opening brackets, a displayed type is the name and what stands behind it. -/
theorem filter_toList_display_of_not_opening (type : TypeRef) {keep : Char -> Bool}
    (opening : keep '[' = false) : type.display.toList.filter keep =
      type.typeName.toList.filter keep ++ type.closings.filter keep := by
  have openings : (List.replicate type.listDepth '[').filter keep = [] := by
    rw [List.filter_replicate, opening]
    rfl
  rw [toList_display, List.filter_append, List.filter_append, openings, List.nil_append]

variable {type : TypeRef} (plain : ∀ c ∈ type.typeName.toList, isWrapperMark c = false)
include plain

theorem filter_toList_display :
    type.display.toList.filter (fun c => !isWrapperMark c) = type.typeName.toList := by
  have closings : type.closings.filter (fun c => !isWrapperMark c) = [] := by
    apply List.filter_eq_nil_iff.mpr
    intro c member
    rcases mem_closings member with rfl | rfl <;> decide
  have name : type.typeName.toList.filter (fun c => !isWrapperMark c) = type.typeName.toList := by
    apply List.filter_eq_self.mpr
    intro c member
    rw [plain c member]
    rfl
  rw [type.filter_toList_display_of_not_opening rfl, name, closings, List.append_nil]

/-- The closing brackets all stand behind the name. -/
theorem bracket_notMem_front :
    ']' ∉ List.replicate type.listDepth '[' ++ type.typeName.toList := by
  intro member
  rcases List.mem_append.mp member with opening | inName
  · exact absurd (List.eq_of_mem_replicate opening) (by decide)
  · exact absurd (plain ']' inName) (by decide)

theorem bracket_mem_display : ']' ∈ type.display.toList ↔ ']' ∈ type.closings := by
  rw [toList_display, List.mem_append, or_iff_right (bracket_notMem_front plain)]

end TypeRef

/-- What a resolved type says about its wrappers is read off the displayed type, whatever is
resolved besides: the name is what is left without brackets and bangs, a list has a closing
bracket, a value may be absent unless a bang stands right behind the name, and a list may be
absent unless a bang stands right behind the first closing bracket. -/
theorem shapes_are_read_off_displayed_types (resolver : Resolver) (label : String)
    (type : TypeRef) (plain : ∀ c ∈ type.typeName.toList, isWrapperMark c = false) :
    let field := resolver.resolve label type
    let text := type.display.toList
    field.typeName.toList = text.filter (fun c => !isWrapperMark c) ∧
    (field.isList = true ↔ ']' ∈ text) ∧
    (∃ openings closings, text = openings ++ field.typeName.toList ++ closings ∧
      (∀ c ∈ openings, c = '[') ∧ '[' ∉ closings ∧
      (field.isNullable = true ↔ closings.head? ≠ some '!')) ∧
    (field.isNullableList = true ↔ ∃ before after, text = before ++ ']' :: after ∧
      ']' ∉ before ∧ after.head? ≠ some '!') := by
  intro field text
  have named : field.typeName = type.typeName := resolver.resolve_typeName label type
  have shape : field.isList = type.shape.isList ∧ field.isNullable = type.shape.isNullable ∧
      field.isNullableList = type.shape.isNullableList := ⟨rfl, rfl, rfl⟩
  refine ⟨?_, ?_, ?_, ?_⟩
  · rw [named, type.filter_toList_display plain]
  · rw [TypeRef.bracket_mem_display plain, type.bracket_mem_closings, shape.1]
    exact Bool.eq_iff_iff.mp (type.isList_shapeWithin true)
  · refine ⟨List.replicate type.listDepth '[', type.closings, ?_, ?_, ?_, ?_⟩
    · rw [named]
      exact type.toList_display
    · exact fun c member => List.eq_of_mem_replicate member
    · intro opening
      rcases TypeRef.mem_closings opening with same | same <;> exact absurd same (by decide)
    · have within := type.isNullable_shapeWithin []
      rw [List.append_nil] at within
      exact (Bool.eq_iff_iff.mp within).trans decide_eq_true_iff
  · have behind : afterBracket text = afterBracket type.closings := by
      change afterBracket type.display.toList = _
      rw [type.toList_display, afterBracket_append (TypeRef.bracket_notMem_front plain)]
    rw [exists_unmarked_bracket_iff, TypeRef.bracket_mem_display plain, behind, shape.2.2]
    exact type.isNullableList_shape_iff

/-- A list that may be absent inside one that may not, with a marker that is repeated. -/
theorem shapes_are_read_off_displayed_types_nested :
    let resolver : Resolver := ⟨.ofPairs [("Date", "Js.Date.t")], ["Role"]⟩
    let type : TypeRef := .nonNull (.nonNull (.list (.list (.nonNull (.named "Date")))))
    let field := resolver.resolve "dates" type
    (∀ c ∈ type.typeName.toList, isWrapperMark c = false) ∧
      type.display = "[[Date!]]!!" ∧
      field.isList = true ∧ field.isNullable = false ∧ field.isNullableList = true ∧
      field.typeName.toList = type.display.toList.filter (fun c => !isWrapperMark c) ∧
      (∃ openings closings, type.display.toList = openings ++ field.typeName.toList ++ closings ∧
        (∀ c ∈ openings, c = '[') ∧ '[' ∉ closings ∧
        (field.isNullable = true ↔ closings.head? ≠ some '!')) ∧
      ∃ before after, type.display.toList = before ++ ']' :: after ∧ ']' ∉ before ∧
        after.head? ≠ some '!' := by
  intro resolver type field
  have plain : ∀ c ∈ type.typeName.toList, isWrapperMark c = false :=
    not_isWrapperMark_of_all (by decide)
  obtain ⟨name, _, value, list⟩ := shapes_are_read_off_displayed_types resolver "dates" type plain
  exact ⟨plain, rfl, rfl, rfl, rfl, name, value, list.mp rfl⟩

/-! ## Types that are displayed alike -/

/-- A character that a displayed type has behind its name. -/
def isClosingMark (c : Char) : Bool :=
  c = ']' || c = '!'

theorem isWrapperMark_of_isClosingMark {c : Char} (closing : isClosingMark c = true) :
    isWrapperMark c = true := by
  rcases Bool.or_eq_true_iff.mp closing with same | same
  · rw [of_decide_eq_true same]
    rfl
  · rw [of_decide_eq_true same]
    rfl

namespace TypeRef

/-- Wrap a type in what some text behind it stands for, from the inside to the outside. -/
def wrapIn (type : TypeRef) (text : List Char) : TypeRef :=
  text.foldl (fun inner c => if c = ']' then list inner else nonNull inner) type

theorem wrapIn_concat (type : TypeRef) (text : List Char) (c : Char) :
    type.wrapIn (text ++ [c]) =
      if c = ']' then list (type.wrapIn text) else nonNull (type.wrapIn text) := by
  unfold wrapIn
  rw [List.foldl_append]
  rfl

/-- A type is its name, wrapped in what is displayed behind it. -/
theorem wrapIn_closings (type : TypeRef) : (named type.typeName).wrapIn type.closings = type := by
  induction type with
  | named name => rfl
  | list inner inductionHypothesis =>
      rw [closings, wrapIn_concat, if_pos rfl]
      exact congrArg list inductionHypothesis
  | nonNull inner inductionHypothesis =>
      have other : ¬ '!' = ']' := by decide
      rw [closings, wrapIn_concat, if_neg other]
      exact congrArg nonNull inductionHypothesis

/-- The type that a text displays.  The opening brackets say nothing that the closing ones do
not say. -/
def ofDisplay (text : List Char) : TypeRef :=
  (named (String.ofList (text.filter fun c => !isWrapperMark c))).wrapIn (text.filter isClosingMark)

section

variable {type : TypeRef} (plain : ∀ c ∈ type.typeName.toList, isWrapperMark c = false)
include plain

theorem filter_isClosingMark_toList_display :
    type.display.toList.filter isClosingMark = type.closings := by
  have name : type.typeName.toList.filter isClosingMark = [] := by
    apply List.filter_eq_nil_iff.mpr
    intro c member closing
    have mark : isWrapperMark c = true := isWrapperMark_of_isClosingMark closing
    exact Bool.false_ne_true ((plain c member).symm.trans mark)
  have closings : type.closings.filter isClosingMark = type.closings := by
    apply List.filter_eq_self.mpr
    intro c member
    rcases mem_closings member with rfl | rfl <;> rfl
  rw [type.filter_toList_display_of_not_opening rfl, name, closings, List.nil_append]

/-- A displayed type is read back, whatever the name is made of besides brackets and bangs. -/
theorem ofDisplay_display : ofDisplay type.display.toList = type := by
  unfold ofDisplay
  rw [filter_toList_display plain, filter_isClosingMark_toList_display plain, String.ofList_toList,
    wrapIn_closings]

end

/-- Types whose names have no brackets and bangs in them are displayed alike only if they are
the same type, however deep they are and however often a marker is repeated. -/
theorem types_are_told_apart_by_display (type other : TypeRef)
    (plain : ∀ c ∈ type.typeName.toList, isWrapperMark c = false)
    (otherPlain : ∀ c ∈ other.typeName.toList, isWrapperMark c = false) :
    type.display = other.display ↔ type = other := by
  constructor
  · intro same
    calc
      type = ofDisplay type.display.toList := (ofDisplay_display plain).symm
      _ = ofDisplay other.display.toList := by rw [same]
      _ = other := ofDisplay_display otherPlain
  · exact congrArg display

/-- A marker that is repeated outside a list and one that stands inside, with a name that is no
name of schema text. -/
theorem types_are_told_apart_by_display_repeatedMarker :
    let type : TypeRef := .nonNull (.nonNull (.list (.named "two words")))
    let other : TypeRef := .nonNull (.list (.nonNull (.named "two words")))
    (∀ c ∈ type.typeName.toList, isWrapperMark c = false) ∧
      (∀ c ∈ other.typeName.toList, isWrapperMark c = false) ∧
      type.display = "[two words]!!" ∧ other.display = "[two words!]!" ∧
      (type.display = other.display ↔ type = other) := by
  intro type other
  have plain : ∀ c ∈ "two words".toList, isWrapperMark c = false :=
    not_isWrapperMark_of_all (by decide)
  exact ⟨plain, plain, rfl, rfl, types_are_told_apart_by_display type other plain plain⟩

/-- A name with a bang in it is displayed like a type that must be present. -/
example : (named "ID!").display = (nonNull (named "ID")).display :=
  rfl

end TypeRef

end SchemaBindings
