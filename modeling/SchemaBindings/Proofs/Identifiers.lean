import SchemaBindings.Proofs.CamelCase
import SchemaBindings.Proofs.Names
import SchemaBindings.Rendering.Identifier

namespace SchemaBindings
namespace Identifier

/-!
# Legal identifiers

A name of a schema becomes an identifier of the bindings through camel case, which keeps
letters and digits and drops underscores.  So no character of an identifier is out of
place, and the first one is the small form of the first letter or digit of the name.

That decides which identifiers are legal.  A name whose first character other than an
underscore is a letter gives one.  A name of underscores alone gives the empty text, and a
name with a digit behind its underscores gives a text that starts with the digit.  A
keyword gets an underscore where it names a field, but none where it names a type.
-/

open Graphql (isName isNamePart)
open Text

/-- A small letter or an underscore. -/
def isStart (c : Char) : Bool :=
  c.isLower || c = '_'

/-- A word that can name a field or a type of the bindings. -/
structure Legal (text : String) : Prop where
  starts : text.toList.head?.any isStart = true
  parts : text.toList.all isNamePart = true
  unreserved : text ∉ reservedWords

instance (text : String) : Decidable (Legal text) :=
  decidable_of_iff (text.toList.head?.any isStart = true ∧
      text.toList.all isNamePart = true ∧ text ∉ reservedWords)
    ⟨fun ⟨starts, parts, unreserved⟩ => ⟨starts, parts, unreserved⟩,
      fun ⟨starts, parts, unreserved⟩ => ⟨starts, parts, unreserved⟩⟩

/-- The first character of a name that is no underscore is a letter. -/
def startsWithLetter (name : String) : Bool :=
  (name.toList.find? (· != '_')).any Char.isAlpha

/-! ## Characters of names -/

theorem toNat_lt_of_isNamePart {c : Char} (part : isNamePart c = true) : c.toNat < 0x80 := by
  simp only [isNamePart, Graphql.isNameStart, Graphql.isDigit, Bool.or_eq_true, Bool.and_eq_true,
    decide_eq_true_eq, Char.le_def, UInt32.le_iff_toNat_le] at part
  rcases part with ((rfl | capitalLetter) | smallLetter) | digit
  · decide
  · exact Nat.lt_of_le_of_lt capitalLetter.2 (by decide)
  · exact Nat.lt_of_le_of_lt smallLetter.2 (by decide)
  · exact Nat.lt_of_le_of_lt digit.2 (by decide)

theorem isAlphanumeric_of_isNamePart {c : Char} (part : isNamePart c = true) :
    isAlphanumeric c = (c != '_') :=
  of_ascii (fun c => isNamePart c = true -> isAlphanumeric c = (c != '_'))
    (by decide +kernel) (toNat_lt_of_isNamePart part) part

theorem isNamePart_of_mem_forms {c form : Char} (part : isNamePart c = true)
    (alphanumeric : isAlphanumeric c = true) (member : form ∈ forms c) :
    isNamePart form = true :=
  List.all_eq_true.mp (of_ascii
    (fun c => isAlphanumeric c = true -> (forms c).all isNamePart = true)
    (by decide +kernel) (toNat_lt_of_isNamePart part) alphanumeric) form member

theorem isStart_toLower {c : Char} (part : isNamePart c = true) (other : (c != '_') = true) :
    isStart c.toLower = c.isAlpha :=
  of_ascii (fun c => isNamePart c = true -> (c != '_') = true -> isStart c.toLower = c.isAlpha)
    (by decide +kernel) (toNat_lt_of_isNamePart part) part other

/-! ## Names in camel case -/

variable {name : String}

theorem all_isNamePart_lowerCamel (named : isName name = true) :
    (lowerCamel name).toList.all isNamePart = true := by
  refine List.all_eq_true.mpr fun form member => ?_
  rcases exists_of_mem_lowerCamel member with ⟨c, inName, alphanumeric, made⟩
  exact isNamePart_of_mem_forms (Graphql.isNamePart_of_mem named c inName) alphanumeric made

theorem find?_isAlphanumeric (named : isName name = true) :
    name.toList.find? isAlphanumeric = name.toList.find? (· != '_') := by
  rw [← List.head?_filter, ← List.head?_filter]
  exact congrArg List.head? (List.filter_congr fun c member =>
    isAlphanumeric_of_isNamePart (Graphql.isNamePart_of_mem named c member))

/-- A name in camel case starts as an identifier does if the name has a letter where its
underscores end. -/
theorem any_isStart_lowerCamel (named : isName name = true) :
    (lowerCamel name).toList.head?.any isStart = startsWithLetter name := by
  have parts := Graphql.isNamePart_of_mem named
  rw [head?_lowerCamel fun c member => toNat_lt_of_isNamePart (parts c member),
    find?_isAlphanumeric named, startsWithLetter]
  cases found : name.toList.find? (· != '_') with
  | none => rfl
  | some c =>
      have other : (c != '_') = true := List.find?_some (p := (· != '_')) found
      exact isStart_toLower (parts c (List.mem_of_find?_eq_some found)) other

/-! ## Keywords -/

/-- A field name is in camel case, unless that gives a keyword; then an underscore makes it
legal. -/
theorem fieldName_eq_or (name : String) :
    fieldName name = lowerCamel name ∧ lowerCamel name ∉ reservedWords ∨
      lowerCamel name ∈ reservedWords ∧ Legal (fieldName name) := by
  have legal : ∀ word ∈ reservedWords, Legal (word ++ "_") := by decide +kernel
  unfold fieldName
  dsimp only
  split
  case isTrue listed =>
    have reserved := List.contains_iff_mem.mp listed
    exact Or.inr ⟨reserved, legal _ reserved⟩
  case isFalse unlisted =>
    exact Or.inl ⟨rfl, fun reserved => unlisted (List.contains_iff_mem.mpr reserved)⟩

theorem legal_lowerCamel_iff (named : isName name = true) :
    Legal (lowerCamel name) ↔
      startsWithLetter name = true ∧ lowerCamel name ∉ reservedWords := by
  rw [← any_isStart_lowerCamel named]
  exact ⟨fun legal => ⟨legal.starts, legal.unreserved⟩,
    fun ⟨starts, unreserved⟩ => ⟨starts, all_isNamePart_lowerCamel named, unreserved⟩⟩

/-- From a name come identifiers whose characters are all in place, and a field name that is
no keyword.  A field name is legal if the name has a letter where its underscores end, and a
type name if it is no keyword either. -/
theorem legal_of_names_iff (name : String) (named : isName name = true) :
    (fieldName name).toList.all isNamePart = true ∧
      (typeName name).toList.all isNamePart = true ∧
      fieldName name ∉ reservedWords ∧
      (Legal (fieldName name) ↔ startsWithLetter name = true) ∧
      (Legal (typeName name) ↔
        startsWithLetter name = true ∧ typeName name ∉ reservedWords) := by
  have ofCamel := legal_lowerCamel_iff named
  have parts := all_isNamePart_lowerCamel named
  rcases fieldName_eq_or name with ⟨same, unreserved⟩ | ⟨reserved, legal⟩
  · rw [same]
    exact ⟨parts, parts, unreserved, ofCamel.trans (and_iff_left unreserved), ofCamel⟩
  · have starts : startsWithLetter name = true := by
      have each : ∀ word ∈ reservedWords, word.toList.head?.any isStart = true := by
        decide +kernel
      exact any_isStart_lowerCamel named ▸ each _ reserved
    exact ⟨legal.parts, parts, legal.unreserved, iff_of_true legal starts, ofCamel⟩

theorem legal_of_names_iff_underscores :
    isName "__typename" = true ∧ Legal (fieldName "__typename") ∧
      Legal (typeName "__typename") := by
  have named : isName "__typename" = true := by decide +kernel
  have ⟨_, _, _, field, type⟩ := legal_of_names_iff "__typename" named
  have starts : startsWithLetter "__typename" = true := by decide +kernel
  have unreserved : typeName "__typename" ∉ reservedWords := by decide +kernel
  exact ⟨named, field.mpr starts, type.mpr ⟨starts, unreserved⟩⟩

/-- Underscores alone leave nothing, a digit behind them comes first, and a type can get the
name of a keyword. -/
theorem illegal_identifiers :
    (isName "_" = true ∧ ¬ Legal (fieldName "_") ∧ ¬ Legal (typeName "_")) ∧
      (isName "_1" = true ∧ ¬ Legal (fieldName "_1") ∧ ¬ Legal (typeName "_1")) ∧
      (isName "Class" = true ∧ Legal (fieldName "Class") ∧ ¬ Legal (typeName "Class")) := by
  decide +kernel

end Identifier
end SchemaBindings
