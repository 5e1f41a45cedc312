import Mathlib.Data.List.Nodup
import SchemaBindings.Proofs.RecordTexts
import SchemaBindings.Synthetic

namespace SchemaBindings
namespace Synthetic

/-!
# What the synthetic texts declare

The texts for measurements consist of lines that are made from numbers.  Each line is read by
itself as what it declares, whatever lines stand around it, so that a text of any number of
lines declares what they declare, one after the other.

A decimal number continues a name, so a word with a number behind it is a name, and different
numbers give different names.  So the types of a ring are told apart by their names, and what is
read of a schema text is known field by field.
-/

open Graphql

/-! ## Numbered names -/

theorem isNamePart_of_mem_toString {index : Nat} {c : Char}
    (member : c ∈ (toString index).toList) : isNamePart c = true := by
  have digit := Nat.isDigit_of_mem_toDigits (by decide) (by decide) (Nat.toList_repr ▸ member)
  simp only [Char.isDigit, Bool.and_eq_true, decide_eq_true_eq] at digit
  refine Bool.or_eq_true_iff.mpr (.inr ?_)
  simp only [isDigit, Bool.and_eq_true, decide_eq_true_eq, Char.le_def]
  exact digit

/-- A name with a number behind it is a name. -/
theorem isName_numbered {word : String} (named : isName word = true) (index : Nat) :
    isName (word ++ toString index) = true := by
  obtain ⟨first, rest, rfl, start, parts⟩ := exists_cons_of_isName named
  have same : String.ofList (first :: rest) ++ toString index =
      String.ofList (first :: (rest ++ (toString index).toList)) := by
    rw [← String.toList_inj, String.toList_append, String.toList_ofList, String.toList_ofList]
    rfl
  rw [same]
  refine isName_ofList_cons.mpr ⟨start, fun c member => ?_⟩
  rcases List.mem_append.mp member with member | member
  · exact parts c member
  · exact isNamePart_of_mem_toString member

theorem numbered_injective (word : String) :
    Function.Injective fun index : Nat => word ++ toString index := by
  intro index other same
  have numbers : toString index = toString other := (String.append_right_inj word).mp same
  have digits : Nat.toDigits 10 index = Nat.toDigits 10 other := by
    rw [← Nat.toList_repr, ← Nat.toList_repr]
    exact congrArg String.toList numbers
  have values := congrArg (fun digits => Nat.ofDigitChars 10 digits 0) digits
  simpa only [Nat.ofDigitChars_ten_toDigits] using values

/-- A numbered name starts with its word. -/
theorem numbered_ne {word other : String} (different : ¬ word.toList <+: other.toList)
    (index : Nat) : word ++ toString index ≠ other := by
  rintro rfl
  exact different ⟨(toString index).toList, String.toList_append.symm⟩

def objectName (index : Nat) : String :=
  "Object" ++ toString index

def inputName (index : Nat) : String :=
  "Input" ++ toString index

def queryName (index : Nat) : String :=
  "Q" ++ toString index

/-! ## What a line declares -/

def objectFields (count index : Nat) : List FieldDef :=
  [⟨"name", .named "String", none⟩,
    ⟨"tags", .nonNull (.list (.nonNull (.named "String"))), none⟩,
    ⟨"status", .named "Status", none⟩,
    ⟨"next", .list (.named (objectName (next count index))), none⟩]

def object (count index : Nat) : Record FieldDef :=
  ⟨objectName index, none, ⟨"id", .nonNull (.named "ID"), none⟩ :: objectFields count index⟩

/-- The chord from every fourth input object to the first. -/
def chord (index : Nat) : List FieldDef :=
  if index % 4 = 3 then [⟨"root", .named (inputName 0), none⟩] else []

theorem eq_of_mem_chord {index : Nat} {declared : FieldDef} (member : declared ∈ chord index) :
    declared = ⟨"root", .named (inputName 0), none⟩ := by
  unfold chord at member
  split at member
  · exact List.mem_singleton.mp member
  · cases member

def inputFields (count index : Nat) : List FieldDef :=
  [⟨"at", .named "DateTime", none⟩, ⟨"statuses", .list (.nonNull (.named "Status")), none⟩,
    ⟨"next", .named (inputName (next count index)), none⟩] ++ chord index

def input (count index : Nat) : Record FieldDef :=
  ⟨inputName index, none, ⟨"value", .nonNull (.named "Int"), none⟩ :: inputFields count index⟩

def query (index : Nat) : Operation VariableDef :=
  ⟨some (queryName index), .query, [⟨"input", .nonNull (.named (inputName index))⟩]⟩

/-! ## Reading a line -/

theorem objectLine_eq (count index : Nat) : objectLine count index =
    RecordKind.object.line (objectName index) ⟨"id", .nonNull (.named "ID"), none⟩
      (objectFields count index) := by
  rw [← String.toList_inj]
  unfold objectLine RecordKind.line objectFields objectName FieldDef.laterText FieldDef.text
  simp only [List.map_cons, List.map_nil, String.join_cons, String.join_nil, TypeRef.display,
    String.toList_append, List.append_assoc]
  rfl

theorem inputLine_eq (count index : Nat) : inputLine count index =
    RecordKind.input.line (inputName index) ⟨"value", .nonNull (.named "Int"), none⟩
      (inputFields count index) := by
  rw [← String.toList_inj]
  unfold inputLine RecordKind.line inputFields inputName chord FieldDef.laterText FieldDef.text
  by_cases fourth : index % 4 = 3
  all_goals
    simp only [fourth, if_true, if_false, List.map_append, List.map_cons, List.map_nil,
      String.join_append, String.join_cons, String.join_nil, TypeRef.display,
      String.toList_append, List.append_assoc]
    rfl

theorem objectName_ne {other : String} (different : ¬ "Object".toList <+: other.toList)
    {index : Nat} : objectName index ≠ other :=
  numbered_ne different index

theorem inputName_ne {other : String} (different : ¬ "Input".toList <+: other.toList)
    {index : Nat} : inputName index ≠ other :=
  numbered_ne different index

theorem isName_objectName (index : Nat) : isName (objectName index) = true :=
  isName_numbered (by decide) index

theorem isName_inputName (index : Nat) : isName (inputName index) = true :=
  isName_numbered (by decide) index

theorem isName_queryName (index : Nat) : isName (queryName index) = true :=
  isName_numbered (by decide) index

theorem chunk_objectLine (count index : Nat) : Reader.Chunk declaration startsNamed
    (objectLine count index) (.type (Definition.object (object count index)).tree) := by
  have labelled : isName "next" = true := rfl
  have typed := isName_objectName (next count index)
  have within : 1 < nestingLimit := by decide
  rw [objectLine_eq]
  refine RecordKind.object.chunk_line (isName_objectName index) ?_
  unfold objectFields
  simp only [List.forall_mem_cons, List.not_mem_nil, false_imp_iff, implies_true, and_true]
  exact ⟨.mk rfl rfl rfl (by decide) rfl, .mk rfl rfl rfl (by decide) rfl,
    .mk rfl rfl rfl (by decide) rfl, .mk rfl rfl rfl (by decide) rfl,
    .mk labelled typed rfl within rfl⟩

theorem chunk_inputLine (count index : Nat) : Reader.Chunk declaration startsNamed
    (inputLine count index) (.type (Definition.input (input count index)).tree) := by
  have labelled : isName "next" = true := rfl
  have typed := isName_inputName (next count index)
  have within : 0 < nestingLimit := by decide
  have back : ∀ declared ∈ chord index, declared.Writable := by
    intro declared member
    rw [eq_of_mem_chord member]
    exact .mk rfl rfl rfl (by decide) rfl
  rw [inputLine_eq]
  refine RecordKind.input.chunk_line (isName_inputName index) ?_
  unfold inputFields
  simp only [List.cons_append, List.nil_append, List.forall_mem_cons]
  exact ⟨.mk rfl rfl rfl (by decide) rfl, .mk rfl rfl rfl (by decide) rfl,
    .mk rfl rfl rfl (by decide) rfl, .mk labelled typed rfl within rfl, back⟩

def status : EnumDef :=
  ⟨"Status", none, [⟨"ACTIVE", none⟩, ⟨"INACTIVE", none⟩]⟩

def dateTime : ScalarDef :=
  ⟨"DateTime", none⟩

theorem chunk_enumLine : Reader.Chunk declaration startsNamed
    "enum Status \x7b ACTIVE INACTIVE \x7d\n" (.type (Definition.enum status).tree) := by
  let pieces : List Piece :=
    [.name "enum", .separator ' ', .name "Status", .separator ' ', .mark '\x7b', .separator ' ',
      .name "ACTIVE", .separator ' ', .name "INACTIVE", .separator ' ', .mark '\x7d',
      .separator '\n']
  have spelled : "enum Status \x7b ACTIVE INACTIVE \x7d\n".toList = pieces.flatMap Piece.text :=
    by decide
  exact .of_pieces spelled (by decide) rfl ⟨⟨_, _, rfl, rfl, rfl⟩, fun left _ => rfl⟩

/-- A directive behind the line would belong to the scalar, but a directive does not start a
declaration. -/
theorem chunk_scalarLine : Reader.Chunk declaration startsNamed "scalar DateTime\n"
    (.type (Definition.scalar dateTime).tree) := by
  let pieces : List Piece :=
    [.name "scalar", .separator ' ', .name "DateTime", .separator '\n']
  have spelled : "scalar DateTime\n".toList = pieces.flatMap Piece.text := by decide
  refine .of_pieces spelled (by decide) rfl ⟨⟨_, _, rfl, rfl, rfl⟩, fun left ends => ?_⟩
  cases left with
  | nil => rfl
  | cons lexeme left =>
      cases lexeme with
      | name text => rfl
      | string text => rfl
      | _ => exact absurd ends Bool.false_ne_true

theorem chunk_queryLine (index : Nat) : Reader.Chunk executable startsExecutable
    (queryLine index) (.operation (query index).tree) := by
  let pieces : List Piece :=
    [.name "query", .separator ' ', .name (queryName index), .mark '(', .mark '$', .name "input",
      .mark ':', .separator ' ', .name (inputName index), .mark '!', .mark ')', .separator ' ',
      .mark '\x7b', .separator ' ', .name ("object" ++ toString index), .mark '(',
      .name "input", .mark ':', .separator ' ', .mark '$', .name "input", .mark ')',
      .separator ' ', .mark '\x7b', .separator ' ', .name "id", .separator ' ', .mark '\x7d',
      .separator ' ', .mark '\x7d', .separator '\n']
  have spelled : (queryLine index).toList = pieces.flatMap Piece.text := by
    unfold pieces queryLine queryName inputName
    simp only [List.flatMap_cons, List.flatMap_nil, Piece.text, String.toList_append,
      List.append_assoc]
    rfl
  have selected : isName ("object" ++ toString index) = true := isName_numbered (by decide) index
  have sound : ∀ piece ∈ pieces, piece.isSound = true := by
    unfold pieces
    simp only [List.forall_mem_cons, Piece.isSound, isName_queryName, isName_inputName, selected]
    decide
  exact .of_pieces spelled sound rfl ⟨⟨_, _, rfl, rfl, rfl⟩, fun left _ => rfl⟩

/-! ## Reading whole texts -/

/-- The schema that the text of a number of object types and input objects declares. -/
def schema (count : Nat) : Schema :=
  ⟨.enum status :: .scalar dateTime ::
    ((List.range count).map (fun index => .object (object count index)) ++
      (List.range count).map fun index => .input (input count index))⟩

def schemaLines (count : Nat) : List String :=
  "enum Status \x7b ACTIVE INACTIVE \x7d\n" :: "scalar DateTime\n" ::
    ((List.range count).map (objectLine count) ++ (List.range count).map (inputLine count))

theorem schemaText_eq (count : Nat) : schemaText count = String.join (schemaLines count) := by
  have front : "enum Status \x7b ACTIVE INACTIVE \x7d\nscalar DateTime\n" =
      "enum Status \x7b ACTIVE INACTIVE \x7d\n" ++ "scalar DateTime\n" := by
    decide
  unfold schemaText schemaLines
  rw [String.join_cons, String.join_cons, String.join_append, front, String.append_assoc,
    String.append_assoc]

theorem readSchema_schemaText (count : Nat) : readSchema (schemaText count) =
    .ok ((schema count).definitions.map fun definition => .type definition.tree) := by
  have chunks : List.Forall₂ (Reader.Chunk declaration startsNamed) (schemaLines count)
      ((schema count).definitions.map fun definition => .type definition.tree) := by
    unfold schema schemaLines
    rw [List.map_cons, List.map_cons, List.map_append, List.map_map, List.map_map]
    exact .cons chunk_enumLine (.cons chunk_scalarLine
      (List.rel_append (forall₂_map_map fun index _ => chunk_objectLine count index)
        (forall₂_map_map fun index _ => chunk_inputLine count index)))
  rw [schemaText_eq]
  exact Reader.Chunk.run_join chunks (List.cons_ne_nil _ _)

/-- The text declares the schema, and nothing that a schema leaves out. -/
theorem ofText_schemaText (count : Nat) :
    Schema.ofText (schemaText count) = .ok (schema count) ∧
      Schema.events (schemaText count) = [] := by
  unfold Schema.events Schema.ofText declarationsOf
  rw [readSchema_schemaText]
  exact ⟨congrArg Except.ok (schemaOf_trees _), skipEvents_trees _⟩

def document (count stride : Nat) : Document :=
  ⟨(queryIndices count stride).map query⟩

theorem zero_mem_queryIndices {count stride : Nat} (positive : 0 < count) :
    0 ∈ queryIndices count stride :=
  List.mem_filter.mpr ⟨List.mem_range.mpr positive, decide_eq_true (Nat.zero_mod _)⟩

theorem lt_of_mem_queryIndices {count stride index : Nat}
    (asked : index ∈ queryIndices count stride) : index < count :=
  List.mem_range.mp (List.mem_filter.mp asked).1

/-- The indices with a query are the multiples of the stride. -/
theorem queryIndices_succ (last stride : Nat) : queryIndices (last + 1) stride =
    (List.range (last / max stride 1 + 1)).map fun number => number * max stride 1 := by
  unfold queryIndices
  generalize max stride 1 = step
  induction last with
  | zero => simp
  | succ last inductionHypothesis =>
      rw [List.range_succ, List.filter_append, inductionHypothesis, Nat.succ_div,
        List.filter_singleton]
      by_cases multiple : step ∣ last + 1
      · have found : (last / step + 1) * step = last + 1 := by
          have quotient := Nat.succ_div_of_dvd multiple
          rw [← quotient]
          exact Nat.div_mul_cancel multiple
        have kept : decide ((last + 1) % step = 0) = true :=
          decide_eq_true (Nat.mod_eq_zero_of_dvd multiple)
        rw [if_pos multiple, kept, @List.range_succ (last / step + 1), List.map_append,
          List.map_singleton, found]
        rfl
      · have dropped : decide ((last + 1) % step = 0) = false :=
          decide_eq_false fun same => multiple (Nat.dvd_of_mod_eq_zero same)
        rw [if_neg multiple, dropped, Nat.add_zero]
        exact List.append_nil _

/-- A text with at least one query declares its queries. -/
theorem ofText_documentText {count : Nat} (positive : 0 < count) (stride : Nat) :
    Document.ofText (documentText count stride) = .ok (document count stride) := by
  have read : readDocument (documentText count stride) =
      .ok ((queryIndices count stride).map fun index => .operation (query index).tree) :=
    Reader.Chunk.run_join (forall₂_map_map fun index _ => chunk_queryLine index)
      (List.ne_nil_of_mem (List.mem_map_of_mem (zero_mem_queryIndices positive)))
  have kept := documentOf_trees ((queryIndices count stride).map query)
  rw [List.map_map] at kept
  unfold Document.ofText
  rw [read]
  exact congrArg Except.ok kept

/-! ## The rings -/

theorem next_eq {count : Nat} (positive : 0 < count) (index : Nat) :
    next count index = (index + 1) % count := by
  unfold next
  rw [Nat.max_eq_left positive]

/-- Just every fourth input object has a field of the name of the chord. -/
theorem exists_root_iff {count index : Nat} :
    (∃ declared ∈ (input count index).fields, declared.name = "root") ↔ index % 4 = 3 := by
  unfold input inputFields chord
  by_cases fourth : index % 4 = 3
  · simp [fourth]
  · simp [fourth]

/-- The text of a schema of any size declares an enum, a scalar, a ring of object types and a ring
of input objects, in this order, and nothing else.  Each object type and each input object is
followed by the next one in its ring.  Just every fourth input object has a chord to the first. -/
theorem schema_texts_declare_rings (count : Nat) :
    let objects : List (Record FieldDef) := (List.range count).map fun index =>
      ⟨"Object" ++ toString index, none,
        [⟨"id", .nonNull (.named "ID"), none⟩, ⟨"name", .named "String", none⟩,
          ⟨"tags", .nonNull (.list (.nonNull (.named "String"))), none⟩,
          ⟨"status", .named "Status", none⟩,
          ⟨"next", .list (.named ("Object" ++ toString ((index + 1) % count))), none⟩]⟩
    let inputs : List (Record FieldDef) := (List.range count).map fun index =>
      ⟨"Input" ++ toString index, none,
        [⟨"value", .nonNull (.named "Int"), none⟩, ⟨"at", .named "DateTime", none⟩,
          ⟨"statuses", .list (.nonNull (.named "Status")), none⟩,
          ⟨"next", .named ("Input" ++ toString ((index + 1) % count)), none⟩] ++
        if index % 4 = 3 then [⟨"root", .named "Input0", none⟩] else []⟩
    Schema.ofText (schemaText count) = .ok
      ⟨.enum ⟨"Status", none, [⟨"ACTIVE", none⟩, ⟨"INACTIVE", none⟩]⟩ ::
        .scalar ⟨"DateTime", none⟩ :: (objects.map .object ++ inputs.map .input)⟩ ∧
    Schema.events (schemaText count) = [] ∧
    ∀ index, (∃ declared ∈ inputs, declared.name = "Input" ++ toString index ∧
      ∃ field ∈ declared.fields, field.name = "root") ↔ index < count ∧ index % 4 = 3 := by
  intro objects inputs
  have following {index : Nat} (member : index ∈ List.range count) :
      next count index = (index + 1) % count :=
    next_eq (Nat.zero_lt_of_lt (List.mem_range.mp member)) index
  have objectsListed : objects = (List.range count).map (object count) := by
    apply List.map_congr_left
    intro index member
    rw [← following member]
    rfl
  have inputsListed : inputs = (List.range count).map (input count) := by
    apply List.map_congr_left
    intro index member
    rw [← following member]
    rfl
  have declared : schema count = ⟨.enum status :: .scalar dateTime ::
      (objects.map .object ++ inputs.map .input)⟩ := by
    rw [objectsListed, inputsListed, List.map_map, List.map_map]
    rfl
  have ⟨read, silent⟩ := ofText_schemaText count
  refine ⟨read.trans (congrArg Except.ok declared), silent, fun index => ?_⟩
  rw [inputsListed]
  constructor
  · rintro ⟨_, member, named, root⟩
    obtain ⟨other, below, rfl⟩ := List.mem_map.mp member
    obtain rfl : other = index := numbered_injective "Input" named
    exact ⟨List.mem_range.mp below, exists_root_iff.mp root⟩
  · rintro ⟨below, fourth⟩
    exact ⟨input count index, List.mem_map_of_mem (List.mem_range.mpr below), rfl,
      exists_root_iff.mpr fourth⟩

end Synthetic
end SchemaBindings
