import SchemaBindings.Proofs.Identifiers
import SchemaBindings.Proofs.Layers

namespace SchemaBindings

/-!
# Names that stay apart

Two endings are put behind names in camel case: `_enum` behind the name of an enum type, and
an underscore behind a field name that is a keyword.  Camel case itself never leaves an
underscore, whatever the name is made of, since an underscore is no letter or number and no
letter or number has it among its forms.  So a name with an ending is never a name without
one, and the endings keep apart what camel case keeps apart.

Type expressions inherit this.  An enum and a type that is no enum are written around
different texts, neither of which has an opening parenthesis, and layers around such texts
never make them equal.
-/

namespace Identifier

open Text (lowerCamel isAlphanum_of_mem_lowerCamel)

theorem underscore_notMem_lowerCamel (text : String) : '_' ∉ (lowerCamel text).toList :=
  fun member => absurd (isAlphanum_of_mem_lowerCamel member (by decide)) (by decide)

/-- What ends with an underscore or has one elsewhere is not in camel case. -/
theorem ne_lowerCamel_of_mem {text : String} (member : '_' ∈ text.toList) (name : String) :
    text ≠ lowerCamel name := by
  rintro rfl
  exact underscore_notMem_lowerCamel name member

/-! ## Enum types -/

theorem enumTypeName_ne_lowerCamel (name other : String) :
    enumTypeName name ≠ lowerCamel other := by
  apply ne_lowerCamel_of_mem
  unfold enumTypeName
  rw [String.toList_append]
  exact List.mem_append_right _ (by decide)

theorem enumTypeName_inj {name other : String} :
    enumTypeName name = enumTypeName other ↔ lowerCamel name = lowerCamel other :=
  String.append_left_inj _

theorem parenthesis_notMem_typeName (name : String) : '(' ∉ (typeName name).toList :=
  fun member => absurd (isAlphanum_of_mem_lowerCamel member (by decide)) (by decide)

theorem parenthesis_notMem_enumTypeName (name : String) : '(' ∉ (enumTypeName name).toList := by
  unfold enumTypeName
  rw [String.toList_append, List.mem_append, not_or]
  exact ⟨parenthesis_notMem_typeName name, by decide⟩

/-! ## Keywords -/

theorem fieldName_of_mem {name : String} (reserved : lowerCamel name ∈ reservedWords) :
    fieldName name = lowerCamel name ++ "_" :=
  if_pos (List.contains_iff_mem.mpr reserved)

theorem fieldName_of_notMem {name : String} (unreserved : lowerCamel name ∉ reservedWords) :
    fieldName name = lowerCamel name :=
  if_neg fun listed => unreserved (List.contains_iff_mem.mp listed)

/-- A keyword with its underscore is the camel case of no name. -/
theorem fieldName_ne_lowerCamel {name : String} (reserved : lowerCamel name ∈ reservedWords)
    (other : String) : fieldName name ≠ lowerCamel other := by
  apply ne_lowerCamel_of_mem
  rw [fieldName_of_mem reserved, String.toList_append]
  exact List.mem_append_right _ (by decide)

/-- No field name is a keyword, and two field names are equal just if the names are equal in
camel case: the underscore behind a keyword makes no further names equal. -/
theorem keyword_escapes_never_clash (name other : String) :
    fieldName name ∉ reservedWords ∧
      (fieldName name = fieldName other ↔ lowerCamel name = lowerCamel other) := by
  constructor
  · rcases fieldName_eq_or name with ⟨same, unreserved⟩ | ⟨_, legal⟩
    · rwa [same]
    · exact legal.unreserved
  · constructor
    · intro same
      by_cases reserved : lowerCamel name ∈ reservedWords
      · by_cases otherReserved : lowerCamel other ∈ reservedWords
        · rw [fieldName_of_mem reserved, fieldName_of_mem otherReserved] at same
          exact (String.append_left_inj _).mp same
        · rw [fieldName_of_notMem otherReserved] at same
          exact absurd same (fieldName_ne_lowerCamel reserved other)
      · rw [fieldName_of_notMem reserved] at same
        by_cases otherReserved : lowerCamel other ∈ reservedWords
        · exact absurd same.symm (fieldName_ne_lowerCamel otherReserved name)
        · rwa [fieldName_of_notMem otherReserved] at same
    · intro same
      unfold fieldName
      rw [same]

/-- A name that ends with an underscore of its own loses it in camel case and gets that of
the keyword. -/
example : fieldName "type_" = "type_" ∧ fieldName "Type" = "type_" ∧
    fieldName "types" = "types" := by
  decide +kernel

end Identifier

/-! ## Type expressions -/

namespace Descriptor

variable {field other : Descriptor}

theorem namedText_of_isEnum (enum : field.isEnum = true) :
    field.namedText .accessor = Identifier.enumTypeName field.base :=
  if_pos enum

theorem namedText_of_isObject (object : field.isObject = true) :
    field.namedText .accessor = Identifier.typeName field.typeName := by
  simp only [isObject, Bool.and_eq_true, Bool.not_eq_true', Option.isNone_iff_eq_none] at object
  unfold namedText
  rw [object.1, object.2]
  rfl

theorem not_sameShape (enum : field.isEnum = true) (object : other.isObject = true) :
    ¬ SameShape .accessor field other := by
  rintro ⟨text, _⟩
  rw [namedText_of_isEnum enum, namedText_of_isObject object] at text
  exact Identifier.enumTypeName_ne_lowerCamel _ _ text

end Descriptor

/-- The name of an enum type is no name in camel case, and two are equal just if the names are
equal in camel case.  So what is marked as an enum and what is of an object type are written
differently, whatever their names and flags. -/
theorem enum_types_never_clash :
    (∀ name other : String,
      Identifier.enumTypeName name ≠ Text.lowerCamel other ∧
        Identifier.enumTypeName name ≠ Identifier.typeName other ∧
        (Identifier.enumTypeName name = Identifier.enumTypeName other ↔
          Text.lowerCamel name = Text.lowerCamel other)) ∧
    ∀ field other : Descriptor, field.isEnum = true -> other.isObject = true ->
      field.accessorType ≠ other.accessorType ∧ field.argumentType ≠ other.argumentType := by
  constructor
  · intro name other
    have different := Identifier.enumTypeName_ne_lowerCamel name other
    exact ⟨different, different, Identifier.enumTypeName_inj⟩
  · intro field other enum object
    have plain : '(' ∉ (field.namedText .accessor).toList := by
      rw [Descriptor.namedText_of_isEnum enum]
      exact Identifier.parenthesis_notMem_enumTypeName _
    have otherPlain : '(' ∉ (other.namedText .accessor).toList := by
      rw [Descriptor.namedText_of_isObject object]
      exact Identifier.parenthesis_notMem_typeName _
    have different := Descriptor.not_sameShape enum object
    constructor
    · exact mt (Descriptor.render_steps_eq_iff .accessor plain otherPlain).mp different
    · exact mt (Descriptor.argumentType_eq_iff plain otherPlain).mp different

/-- An enum and an object type of one name, and an object type that is named as the enum is
in the bindings. -/
theorem enum_types_never_clash_sharedName :
    let state : Descriptor := ⟨"state", "Order", true, true, true, true, none⟩
    let order : Descriptor := ⟨"order", "Order", true, true, true, false, none⟩
    let lookalike : Descriptor := ⟨"order", "Order_enum", true, true, true, false, none⟩
    state.isEnum = true ∧ order.isObject = true ∧ lookalike.isObject = true ∧
      state.accessorType = "option(array(option(order_enum)))" ∧
      state.accessorType ≠ order.accessorType ∧ state.argumentType ≠ order.argumentType ∧
      state.accessorType ≠ lookalike.accessorType := by
  intro state order lookalike
  have written : state.accessorType = "option(array(option(order_enum)))" := by decide +kernel
  obtain ⟨_, apart⟩ := enum_types_never_clash
  have ⟨accessors, arguments⟩ := apart state order rfl rfl
  exact ⟨rfl, rfl, rfl, written, accessors, arguments, (apart state lookalike rfl rfl).1⟩

end SchemaBindings
