import SchemaBindings.Proofs.Pointwise
import SchemaBindings.Proofs.PrintedTypes
import SchemaBindings.Proofs.Segments

namespace SchemaBindings

/-!
# Texts of records

A definition with fields can be written on a line of its own: its keyword, its name, and in
braces its fields with a comma between them.  Where all names are names and all types can be
written, the line is read as the definition, and what stands in front of the line or behind it
does not matter.  For the closing brace ends the definition, and the line feed behind it keeps
the next line apart.
-/

open Graphql

namespace FieldDef

/-- A field with its displayed type. -/
def text (field : FieldDef) : String :=
  field.name ++ ": " ++ field.type.display

def lexemes (field : FieldDef) : List Lexeme :=
  .name field.name :: .mark ':' :: field.type.lexemes

/-- A field that its text says everything about. -/
structure Writable (field : FieldDef) : Prop where
  isName_name : isName field.name = true
  isName_typeName : isName field.type.typeName = true
  marksOnce : field.type.marksOnce = true
  listDepth_lt : field.type.listDepth < nestingLimit
  description_eq : field.description = none

/-- The text of fields that stand behind another field. -/
def laterText (fields : List FieldDef) : String :=
  String.join (fields.map fun field => ", " ++ field.text)

variable {field : FieldDef} {fields : List FieldDef} {others : List Lexeme} {rest : List Char}

/-! ## Writing fields -/

theorem toList_text_append (field : FieldDef) (rest : List Char) : field.text.toList ++ rest =
    field.name.toList ++ ':' :: ' ' :: (field.type.display.toList ++ rest) := by
  unfold text
  rw [String.toList_append, String.toList_append, List.append_assoc, List.append_assoc]
  rfl

theorem toList_laterText_cons (field : FieldDef) (fields : List FieldDef) (rest : List Char) :
    (laterText (field :: fields)).toList ++ rest =
      ',' :: ' ' :: (field.text.toList ++ ((laterText fields).toList ++ rest)) := by
  unfold laterText
  rw [List.map_cons, String.join_cons, String.toList_append, String.toList_append,
    List.append_assoc, List.append_assoc]
  rfl

/-- Inside the braces of a record a field is written by its text. -/
theorem writes_text (writable : field.Writable) (ends : rest.head?.any isNamePart = false)
    (written : Writes (nestingLimit - 1) others rest) :
    Writes (nestingLimit - 1) (field.lexemes ++ others) (field.text.toList ++ rest) := by
  have typed := field.type.writes_display writable.isName_typeName
    (Nat.le_sub_one_of_lt writable.listDepth_lt) ends written
  rw [toList_text_append]
  exact .name writable.isName_name rfl (.mark rfl rfl (.separator rfl typed))

theorem head?_laterText (ends : rest.head?.any isNamePart = false) :
    ((laterText fields).toList ++ rest).head?.any isNamePart = false := by
  cases fields with
  | nil => exact ends
  | cons field fields =>
      rw [toList_laterText_cons]
      rfl

theorem writes_laterText (writable : ∀ field ∈ fields, field.Writable)
    (ends : rest.head?.any isNamePart = false) (written : Writes (nestingLimit - 1) others rest) :
    Writes (nestingLimit - 1) ((fields.map lexemes).flatten ++ others)
      ((laterText fields).toList ++ rest) := by
  induction fields with
  | nil => exact written
  | cons field fields inductionHypothesis =>
      have ⟨first, later⟩ := List.forall_mem_cons.mp writable
      rw [toList_laterText_cons, List.map_cons, List.flatten_cons, List.append_assoc]
      exact .separator rfl (.separator rfl
        (writes_text first (head?_laterText ends) (inductionHypothesis later)))

/-! ## Reading fields -/

/-- A token that does not belong to the type in front of it. -/
def endsType (lexeme : Lexeme) : Bool :=
  !([.mark '!', .mark '=', .mark '@'].contains lexeme)

theorem continuesType_of_endsType {left : List Lexeme} (ends : left.head?.all endsType = true) :
    continuesType left = false := by
  cases left with
  | nil => rfl
  | cons lexeme left => exact (Bool.not_eq_true' _).mp ends

/-- The text of a field is read as the field, be it one of an object type or of an input
object. -/
theorem segment (kind : RecordKind) (writable : field.Writable) :
    Reader.Segment kind.fieldReader startsNamed endsType field.lexemes (kind.fieldTree field) where
  opens := ⟨.name field.name, .mark ':' :: field.type.lexemes, rfl, rfl, rfl⟩
  read left ends := by
    have read := kind.fieldReader_lexemes writable.marksOnce (Nat.le_of_lt writable.listDepth_lt)
      (continuesType_of_endsType ends) field.name
    have same : (⟨field.name, field.type, none⟩ : FieldDef) = field := by
      rw [← writable.description_eq]
    rw [same] at read
    exact read

theorem segments (kind : RecordKind) (writable : ∀ field ∈ fields, field.Writable) :
    List.Forall₂ (Reader.Segment kind.fieldReader startsNamed endsType) (fields.map lexemes)
      (fields.map kind.fieldTree) :=
  forall₂_map_map fun field member => segment kind (writable field member)

end FieldDef

namespace RecordKind

/-- A definition with fields on a line of its own. -/
def line (kind : RecordKind) (owner : String) (field : FieldDef) (fields : List FieldDef) :
    String :=
  kind.keyword ++ " " ++ owner ++ " \x7b " ++ field.text ++ FieldDef.laterText fields ++ " \x7d\n"

theorem chunk_line (kind : RecordKind) {owner : String} {field : FieldDef}
    {fields : List FieldDef} (ownerNamed : isName owner = true)
    (writable : ∀ declared ∈ field :: fields, declared.Writable) :
    Reader.Chunk declaration startsNamed (kind.line owner field fields)
      (.type (kind.definition ⟨owner, none, field :: fields⟩).tree) := by
  let inside := ((field :: fields).map FieldDef.lexemes).flatten
  refine ⟨.name kind.keyword :: .name owner :: .mark '\x7b' :: (inside ++ [.mark '\x7d']),
    ⟨⟨.name kind.keyword, _, rfl, rfl, rfl⟩, fun left _ => ?read⟩, fun {others rest} written =>
      ?written⟩
  case read =>
    have fieldsRead : Reader.block '\x7b' '\x7d' startsNamed kind.fieldReader
        (.mark '\x7b' :: (inside ++ .mark '\x7d' :: left)) =
          .ok ((field :: fields).map kind.fieldTree, left) :=
      Reader.Segment.block (FieldDef.segments kind writable) rfl rfl (List.cons_ne_nil _ _)
    rw [List.cons_append, List.cons_append, List.cons_append, List.append_assoc]
    exact kind.declaration_of_block fieldsRead
  case written =>
    have ⟨first, later⟩ := List.forall_mem_cons.mp writable
    have closed : Writes (nestingLimit - 1) (.mark '\x7d' :: others)
        (' ' :: '\x7d' :: '\n' :: rest) :=
      .separator rfl (.mark rfl rfl (.separator rfl written))
    have fieldsWritten := FieldDef.writes_text first (FieldDef.head?_laterText rfl)
      (FieldDef.writes_laterText later rfl closed)
    have spelled : (kind.line owner field fields).toList ++ rest = kind.keyword.toList ++ ' ' ::
        (owner.toList ++ ' ' :: '\x7b' :: ' ' :: (field.text.toList ++
          ((FieldDef.laterText fields).toList ++ ' ' :: '\x7d' :: '\n' :: rest))) := by
      unfold line
      simp only [String.toList_append, List.append_assoc]
      rfl
    have listed : inside ++ [.mark '\x7d'] ++ others =
        field.lexemes ++ ((fields.map FieldDef.lexemes).flatten ++ .mark '\x7d' :: others) := by
      unfold inside
      rw [List.map_cons, List.flatten_cons, List.append_assoc, List.append_assoc]
      rfl
    rw [spelled, List.cons_append, List.cons_append, List.cons_append, listed]
    exact .name kind.isName_keyword rfl (.separator rfl (.name ownerNamed rfl
      (.separator rfl (.mark rfl rfl (.separator rfl fieldsWritten)))))

end RecordKind

end SchemaBindings
