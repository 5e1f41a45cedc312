import SchemaBindings.Proofs.Lowering
import SchemaBindings.Proofs.WrittenTokens
import SchemaBindings.Sources

namespace SchemaBindings

/-!
# Printed types

A type reference is displayed as schema and document text write it, so a text that declares
a field or a variable with the displayed reference should declare it with that reference.
It does, on both sides, if the reference is one that text can express: its name is a name,
no non-null marker stands directly around another, and there is room for its brackets
inside those of the declaration.

The proof follows the two halves of reading.  The displayed reference is written by its
tokens in the sense of the scanner, and the reader of types gives the reference back from
these tokens whatever stands behind them, as long as it is not a marker that would belong to
the type.
-/

open Graphql

namespace TypeRef

/-- The tokens of a displayed reference. -/
def lexemes : TypeRef -> List Lexeme
  | named name => [.name name]
  | list inner => .mark '[' :: inner.lexemes ++ [.mark ']']
  | nonNull inner => inner.lexemes ++ [.mark '!']

/-- How many lists stand inside each other. -/
def listDepth : TypeRef -> Nat
  | named _ => 0
  | list inner => inner.listDepth + 1
  | nonNull inner => inner.listDepth

def isNonNull : TypeRef -> Bool
  | nonNull _ => true
  | _ => false

/-- No non-null marker stands directly around another. -/
def marksOnce : TypeRef -> Bool
  | named _ => true
  | list inner => inner.marksOnce
  | nonNull inner => !inner.isNonNull && inner.marksOnce

variable (inner : TypeRef)

theorem toList_display_list (text : List Char) :
    (list inner).display.toList ++ text = '[' :: (inner.display.toList ++ ']' :: text) := by
  change ("[" ++ inner.display ++ "]").toList ++ text = _
  rw [String.toList_append, String.toList_append, List.append_assoc, List.append_assoc]
  rfl

theorem toList_display_nonNull (text : List Char) :
    (nonNull inner).display.toList ++ text = inner.display.toList ++ '!' :: text := by
  change (inner.display ++ "!").toList ++ text = _
  rw [String.toList_append, List.append_assoc]
  rfl

theorem lexemes_list (left : List Lexeme) :
    (list inner).lexemes ++ left = .mark '[' :: (inner.lexemes ++ .mark ']' :: left) := by
  change .mark '[' :: inner.lexemes ++ [.mark ']'] ++ left = _
  rw [List.append_assoc]
  rfl

theorem lexemes_nonNull (left : List Lexeme) :
    (nonNull inner).lexemes ++ left = inner.lexemes ++ .mark '!' :: left :=
  List.append_assoc _ _ _

/-- A displayed reference is written by its tokens wherever there is room for its lists and
what follows does not continue its name.  The room that an opening bracket takes is given back
by the closing one. -/
theorem writes_display (type : TypeRef) (named : isName type.typeName = true) :
    ∀ {room : Nat} {lexemes : List Lexeme} {text : List Char}, type.listDepth ≤ room ->
      text.head?.any isNamePart = false -> Writes room lexemes text ->
      Writes room (type.lexemes ++ lexemes) (type.display.toList ++ text) := by
  induction type with
  | named name =>
      intro room lexemes text depth ends rest
      exact .name named ends rest
  | list inner inductionHypothesis =>
      intro room lexemes text depth ends rest
      cases room with
      | zero => exact absurd depth (Nat.not_succ_le_zero _)
      | succ room =>
          have closed : Writes room (.mark ']' :: lexemes) (']' :: text) := .mark rfl rfl rest
          have inside := inductionHypothesis named (Nat.le_of_succ_le_succ depth) rfl closed
          rw [lexemes_list, toList_display_list]
          exact .mark rfl rfl inside
  | nonNull inner inductionHypothesis =>
      intro room lexemes text depth ends rest
      have marked : Writes room (.mark '!' :: lexemes) ('!' :: text) := .mark rfl rfl rest
      rw [lexemes_nonNull, toList_display_nonNull]
      exact inductionHypothesis named depth rfl marked

end TypeRef

namespace Graphql

open Reader

/-! ## Reading types -/

/-- The end of a type: its marker, if it has one. -/
def marked (type : WrittenType) : Reader WrittenType := do
  if ← takeIf (.mark '!') then return .nonNull type else return type

theorem marked_of_head?_ne (type : WrittenType) {left : List Lexeme}
    (unmarked : left.head? ≠ some (.mark '!')) : marked type left = .ok (type, left) :=
  bind_of_eq_ok (takeIf_of_head?_ne unmarked)

theorem typeWithin_opened (depth : Nat) (left : List Lexeme) :
    typeWithin (depth + 1) (.mark '[' :: left) =
      (do
        let inner ← typeWithin depth
        expect (.mark ']')
        marked (.list inner)) left :=
  rfl

/-- The reader of types gives back the type whose tokens it reads.  A marker is read after
all that it marks, so a type without one is first followed only up to the place where a
marker would stand. -/
theorem typeWithin_lexemes (type : TypeRef) (once : type.marksOnce = true) :
    ∀ {depth : Nat} {left : List Lexeme}, type.listDepth < depth ->
      (type.isNonNull = false ->
        typeWithin depth (type.lexemes ++ left) = marked type.tree left) ∧
      (left.head? ≠ some (.mark '!') ->
        typeWithin depth (type.lexemes ++ left) = .ok (type.tree, left)) := by
  induction type with
  | named name =>
      intro depth left within
      cases depth with
      | zero => exact absurd within (Nat.not_lt_zero _)
      | succ depth =>
          have bare : typeWithin (depth + 1) ((TypeRef.named name).lexemes ++ left) =
              marked (.named name) left := rfl
          exact ⟨fun _ => bare, fun unmarked => bare.trans (marked_of_head?_ne _ unmarked)⟩
  | list inner inductionHypothesis =>
      intro depth left within
      cases depth with
      | zero => exact absurd within (Nat.not_lt_zero _)
      | succ depth =>
          have bare : typeWithin (depth + 1) ((TypeRef.list inner).lexemes ++ left) =
              marked (.list inner.tree) left := by
            have closes : (Lexeme.mark ']' :: left).head? ≠ some (.mark '!') := by
              rw [List.head?_cons]
              decide
            have inside := (inductionHypothesis once (Nat.lt_of_succ_lt_succ within)).2 closes
            rw [TypeRef.lexemes_list, typeWithin_opened]
            exact bind_of_eq_ok inside
          exact ⟨fun _ => bare, fun unmarked => bare.trans (marked_of_head?_ne _ unmarked)⟩
  | nonNull inner inductionHypothesis =>
      intro depth left within
      have ⟨single, once⟩ := Bool.and_eq_true_iff.mp once
      refine ⟨fun bare => absurd bare.symm Bool.false_ne_true, fun unmarked => ?_⟩
      rw [TypeRef.lexemes_nonNull]
      exact (inductionHypothesis once within).1 ((Bool.not_eq_true' _).mp single)

theorem type_lexemes {type : TypeRef} {left : List Lexeme} (once : type.marksOnce = true)
    (depth : type.listDepth ≤ nestingLimit) (unmarked : left.head? ≠ some (.mark '!')) :
    Graphql.type (type.lexemes ++ left) = .ok (type.tree, left) :=
  (typeWithin_lexemes type once (Nat.lt_succ_of_le depth)).2 unmarked

/-- Of what follows a type without a marker only a marker is read, and not more than one. -/
theorem lexemes_of_marked (bare : WrittenType) {type : WrittenType} {left rest : List Lexeme}
    (once : bare.toTypeRef.marksOnce = true) (single : bare.toTypeRef.isNonNull = false)
    (read : marked bare left = .ok (type, rest)) :
    bare.toTypeRef.lexemes ++ left = type.toTypeRef.lexemes ++ rest ∧
      type.toTypeRef.marksOnce = true ∧
      type.toTypeRef.listDepth = bare.toTypeRef.listDepth ∧
      (rest.head? = some (.mark '!') -> type.toTypeRef.isNonNull = true) := by
  obtain ⟨taken, middle, took, read⟩ := bind_eq_ok_iff.mp read
  rcases takeIf_eq_ok took with ⟨rfl, rfl⟩ | ⟨rfl, rfl, unmarked⟩
  · cases read
    refine ⟨(TypeRef.lexemes_nonNull bare.toTypeRef rest).symm, ?_, rfl, fun _ => rfl⟩
    exact Bool.and_eq_true_iff.mpr ⟨(Bool.not_eq_true' _).mpr single, once⟩
  · cases read
    exact ⟨rfl, once, rfl, fun next => absurd next unmarked⟩

/-- What the reader of types has read is the type that it gives, with all that is written
around its name; it stops in front of a marker only behind another. -/
theorem lexemes_of_typeWithin {depth : Nat} :
    ∀ {tokens left : List Lexeme} {type : WrittenType},
      typeWithin depth tokens = .ok (type, left) ->
        tokens = type.toTypeRef.lexemes ++ left ∧ type.toTypeRef.marksOnce = true ∧
          type.toTypeRef.listDepth < depth ∧
          (left.head? = some (.mark '!') -> type.toTypeRef.isNonNull = true) := by
  induction depth with
  | zero =>
      intro tokens left type read
      cases read
  | succ depth inductionHypothesis =>
      intro tokens left type read
      obtain ⟨opened, inside, took, chosen⟩ := bind_eq_ok_iff.mp read
      rcases takeIf_eq_ok took with ⟨rfl, rfl⟩ | ⟨rfl, rfl, _⟩
      · rw [if_pos rfl] at chosen
        obtain ⟨inner, closing, readInner, ended⟩ := bind_eq_ok_iff.mp chosen
        obtain ⟨_, behind, closed, readMark⟩ := bind_eq_ok_iff.mp ended
        obtain ⟨written, once, within, _⟩ := inductionHypothesis readInner
        obtain ⟨same, once, depths, marker⟩ :=
          lexemes_of_marked (.list inner) once rfl readMark
        rw [written, expect_eq_ok closed, ← TypeRef.lexemes_list]
        exact ⟨same, once, depths ▸ Nat.succ_lt_succ within, marker⟩
      · rw [if_neg Bool.false_ne_true] at chosen
        obtain ⟨bare, behind, readBare, readMark⟩ := bind_eq_ok_iff.mp chosen
        rw [← bind_pure_comp] at readBare
        obtain ⟨text, _, readName, named⟩ := bind_eq_ok_iff.mp readBare
        cases named
        obtain ⟨same, once, depths, marker⟩ :=
          lexemes_of_marked (.named text) rfl rfl readMark
        rw [name_eq_ok readName]
        exact ⟨same, once, depths ▸ Nat.succ_pos depth, marker⟩

/-- A type is read from its tokens and from nothing else.  Behind its marker it ends whatever
follows. -/
theorem type_eq_ok_iff {tokens left : List Lexeme} {type : TypeRef} :
    Graphql.type tokens = .ok (type.tree, left) ↔
      tokens = type.lexemes ++ left ∧ type.marksOnce = true ∧ type.listDepth ≤ nestingLimit ∧
        (left.head? = some (.mark '!') -> type.isNonNull = true) := by
  constructor
  · intro read
    obtain ⟨written, once, within, marker⟩ := lexemes_of_typeWithin read
    rw [TypeRef.toTypeRef_tree] at written once within marker
    exact ⟨written, once, Nat.le_of_lt_succ within, marker⟩
  · rintro ⟨rfl, once, within, marker⟩
    have below := Nat.lt_succ_of_le within
    cases type with
    | nonNull inner =>
        have ⟨single, once⟩ := Bool.and_eq_true_iff.mp once
        rw [TypeRef.lexemes_nonNull]
        exact (typeWithin_lexemes inner once below).1 ((Bool.not_eq_true' _).mp single)
    | named name =>
        exact type_lexemes once within fun next => Bool.false_ne_true (marker next)
    | list inner =>
        exact type_lexemes once within fun next => Bool.false_ne_true (marker next)

/-! ## Reading declared types -/

/-- Whether the next token belongs to the declaration of a type: its marker, a default value
or a directive. -/
def continuesType (left : List Lexeme) : Bool :=
  left.head?.any fun lexeme => [.mark '!', .mark '=', .mark '@'].contains lexeme

theorem head?_ne_of_not_continuesType {left : List Lexeme} (ends : continuesType left = false) :
    ∀ lexeme ∈ [Lexeme.mark '!', .mark '=', .mark '@'], left.head? ≠ some lexeme := by
  intro lexeme listed next
  unfold continuesType at ends
  rw [next] at ends
  exact Bool.false_ne_true (ends.symm.trans (List.contains_iff_mem.mpr listed))

theorem directives_of_head?_ne {left : List Lexeme} (ends : left.head? ≠ some (.mark '@')) :
    directives left = .ok ([], left) := by
  refine many_of_not_starts ?_
  cases left with
  | nil => rfl
  | cons head left => exact decide_eq_false fun same => ends (congrArg some same)

theorem defaultValue_of_head?_ne {left : List Lexeme} (ends : left.head? ≠ some (.mark '=')) :
    defaultValue left = .ok ((), left) :=
  bind_of_eq_ok (takeIf_of_head?_ne ends)

section

variable {type : TypeRef} {left : List Lexeme} (once : type.marksOnce = true)
  (depth : type.listDepth ≤ nestingLimit) (ends : continuesType left = false)
include once depth ends

theorem field_lexemes (label : String) :
    field (.name label :: .mark ':' :: (type.lexemes ++ left)) =
      .ok (FieldDef.tree ⟨label, type, none⟩, left) := by
  change (do
    let type ← Graphql.type
    let directives ← directives
    return ⟨none, label, [], type, directives⟩ : Reader FieldDeclaration)
      (type.lexemes ++ left) = _
  have others := head?_ne_of_not_continuesType ends
  rw [bind_of_eq_ok (type_lexemes once depth (others _ (by decide))),
    bind_of_eq_ok (directives_of_head?_ne (others _ (by decide)))]
  rfl

theorem inputValue_lexemes (label : String) :
    inputValue (.name label :: .mark ':' :: (type.lexemes ++ left)) =
      .ok (FieldDef.inputTree ⟨label, type, none⟩, left) := by
  change (do
    let type ← Graphql.type
    defaultValue
    let directives ← directives
    return ⟨none, label, type, directives⟩ : Reader InputValue) (type.lexemes ++ left) = _
  have others := head?_ne_of_not_continuesType ends
  rw [bind_of_eq_ok (type_lexemes once depth (others _ (by decide))),
    bind_of_eq_ok (defaultValue_of_head?_ne (others _ (by decide))),
    bind_of_eq_ok (directives_of_head?_ne (others _ (by decide)))]
  rfl

theorem variableDefinition_lexemes (name : String) :
    variableDefinition (.mark '$' :: .name name :: .mark ':' :: (type.lexemes ++ left)) =
      .ok (VariableDef.tree ⟨name, type⟩, left) := by
  change (do
    let type ← Graphql.type
    defaultValue
    return ⟨name, type⟩ : Reader VariableDeclaration) (type.lexemes ++ left) = _
  have others := head?_ne_of_not_continuesType ends
  rw [bind_of_eq_ok (type_lexemes once depth (others _ (by decide))),
    bind_of_eq_ok (defaultValue_of_head?_ne (others _ (by decide)))]
  rfl

end

end Graphql

/-! ## Records with one field -/

/-- The two kinds of definition that have fields. -/
inductive RecordKind where
  | object
  | input

namespace RecordKind

def keyword : RecordKind -> String
  | object => "type"
  | input => "input"

def definition : RecordKind -> Record FieldDef -> Definition
  | object => .object
  | input => .input

/-- The trees of the fields of a kind. -/
def Field : RecordKind -> Type
  | object => FieldDeclaration
  | input => InputValue

def fieldReader : (kind : RecordKind) -> Reader kind.Field
  | object => field
  | input => inputValue

def fieldTree : (kind : RecordKind) -> FieldDef -> kind.Field
  | object => FieldDef.tree
  | input => FieldDef.inputTree

/-- The tree of a definition of which only its name and its fields are written. -/
def tree : (kind : RecordKind) -> String -> List kind.Field -> TypeDeclaration
  | object, owner, fields => .object ⟨none, owner, [], [], fields⟩
  | input, owner, fields => .input ⟨none, owner, [], fields⟩

/-- A definition with one field of a displayed type, as schema text. -/
def text (kind : RecordKind) (owner label : String) (type : TypeRef) : String :=
  kind.keyword ++ " " ++ owner ++ " \x7b " ++ label ++ ": " ++ type.display ++ " \x7d"

def lexemes (kind : RecordKind) (owner label : String) (type : TypeRef) : List Lexeme :=
  .name kind.keyword :: .name owner :: .mark '\x7b' :: .name label :: .mark ':' ::
    (type.lexemes ++ [.mark '\x7d'])

variable (kind : RecordKind)

theorem isName_keyword : isName kind.keyword = true := by
  cases kind <;> decide

theorem writes_text {owner label : String} {type : TypeRef} (ownerNamed : isName owner = true)
    (labelNamed : isName label = true) (named : isName type.typeName = true)
    (depth : type.listDepth < nestingLimit) :
    Writes nestingLimit (kind.lexemes owner label type) (kind.text owner label type).toList := by
  have spelled : (kind.text owner label type).toList = kind.keyword.toList ++ ' ' ::
      (owner.toList ++ ' ' :: '\x7b' :: ' ' :: (label.toList ++ ':' :: ' ' ::
        (type.display.toList ++ [' ', '\x7d']))) := by
    unfold text
    simp only [String.toList_append, List.append_assoc]
    rfl
  have closed : Writes (nestingLimit - 1) [.mark '\x7d'] [' ', '\x7d'] :=
    .separator rfl (.mark rfl rfl (.finish nestingLimit))
  have typed := type.writes_display named (Nat.le_sub_one_of_lt depth) rfl closed
  have declared : Writes (nestingLimit - 1)
      (.name label :: .mark ':' :: (type.lexemes ++ [.mark '\x7d']))
      (label.toList ++ ':' :: ' ' :: (type.display.toList ++ [' ', '\x7d'])) :=
    .name labelNamed rfl (.mark rfl rfl (.separator rfl typed))
  rw [spelled]
  exact .name kind.isName_keyword rfl (.separator rfl (.name ownerNamed rfl
    (.separator rfl (.mark rfl rfl (.separator rfl declared)))))

theorem fieldReader_lexemes {type : TypeRef} {left : List Lexeme} (once : type.marksOnce = true)
    (depth : type.listDepth ≤ nestingLimit) (ends : continuesType left = false) (label : String) :
    kind.fieldReader (.name label :: .mark ':' :: (type.lexemes ++ left)) =
      .ok (kind.fieldTree ⟨label, type, none⟩, left) := by
  cases kind with
  | object => exact field_lexemes once depth ends label
  | input => exact inputValue_lexemes once depth ends label

/-- A definition with fields and nothing else is what its keyword, its name and its fields
say. -/
theorem declaration_of_block {owner : String} {fields : List FieldDef}
    {inside left : List Lexeme}
    (read : Reader.block '\x7b' '\x7d' startsNamed kind.fieldReader (.mark '\x7b' :: inside) =
      .ok (fields.map kind.fieldTree, left)) :
    declaration (.name kind.keyword :: .name owner :: .mark '\x7b' :: inside) =
      .ok (.type (kind.definition ⟨owner, none, fields⟩).tree, left) := by
  have declared : typeDeclaration none
      (.name kind.keyword :: .name owner :: .mark '\x7b' :: inside) =
        .ok ((kind.definition ⟨owner, none, fields⟩).tree, left) := by
    have opened : typeDeclaration none
        (.name kind.keyword :: .name owner :: .mark '\x7b' :: inside) = (do
          let fields ← Reader.block '\x7b' '\x7d' startsNamed kind.fieldReader
          return kind.tree owner fields : Reader TypeDeclaration) (.mark '\x7b' :: inside) := by
      cases kind <;> rfl
    rw [opened, bind_of_eq_ok read]
    cases kind <;> rfl
  have plain : declaration (.name kind.keyword :: .name owner :: .mark '\x7b' :: inside) =
      (Declaration.type <$> typeDeclaration none)
        (.name kind.keyword :: .name owner :: .mark '\x7b' :: inside) := by
    cases kind <;> rfl
  rw [plain]
  exact map_of_eq_ok declared

theorem ofText_text {owner label : String} {type : TypeRef} (ownerNamed : isName owner = true)
    (labelNamed : isName label = true) (named : isName type.typeName = true)
    (once : type.marksOnce = true) (depth : type.listDepth < nestingLimit) :
    Schema.ofText (kind.text owner label type) =
      .ok ⟨[kind.definition ⟨owner, none, [⟨label, type, none⟩]⟩]⟩ := by
  have ends : continuesType [.mark '\x7d'] = false := by decide
  let field : FieldDef := ⟨label, type, none⟩
  have fields : Reader.block '\x7b' '\x7d' startsNamed kind.fieldReader
      (.mark '\x7b' :: .name label :: .mark ':' :: (type.lexemes ++ [.mark '\x7d'])) =
        .ok ([field].map kind.fieldTree, []) :=
    Reader.block_single (kind.fieldReader_lexemes once (Nat.le_of_lt depth) ends label) rfl
  have read : Reader.oneOrMore startsNamed declaration (kind.lexemes owner label type) =
      .ok ([.type (kind.definition ⟨owner, none, [field]⟩).tree], []) :=
    Reader.oneOrMore_single (kind.declaration_of_block fields) rfl
  have run : readSchema (kind.text owner label type) =
      .ok [.type (kind.definition ⟨owner, none, [field]⟩).tree] :=
    (kind.writes_text ownerNamed labelNamed named depth).run_eq read
  unfold Schema.ofText declarationsOf
  rw [run]
  exact congrArg Except.ok (schemaOf_trees [kind.definition ⟨owner, none, [field]⟩])

end RecordKind

/-! ## Operations with one variable -/

namespace OperationKind

variable (kind : OperationKind)

/-- An operation with one variable of a displayed type, as document text.  It selects one
field, since an operation has to select something. -/
def text (name : Option String) (label : String) (type : TypeRef) (selected : String) : String :=
  kind.keyword ++ " " ++ name.getD "" ++ "($" ++ label ++ ": " ++ type.display ++ ") \x7b "
    ++ selected ++ " \x7d"

def lexemes (name : Option String) (label : String) (type : TypeRef) (selected : String) :
    List Lexeme :=
  .name kind.keyword :: (name.toList.map Lexeme.name ++ .mark '(' :: .mark '$' :: .name label ::
    .mark ':' :: (type.lexemes ++
      [.mark ')', .mark '\x7b', .name selected, .mark '\x7d']))

theorem isName_keyword : isName kind.keyword = true := by
  cases kind <;> decide

variable {name : Option String} {label selected : String} {type : TypeRef}

theorem writes_text (nameNamed : ∀ text ∈ name, isName text = true)
    (labelNamed : isName label = true) (named : isName type.typeName = true)
    (selectedNamed : isName selected = true) (depth : type.listDepth < nestingLimit) :
    Writes nestingLimit (kind.lexemes name label type selected)
      (kind.text name label type selected).toList := by
  have spelled : (kind.text name label type selected).toList = kind.keyword.toList ++ ' ' ::
      ((name.getD "").toList ++ '(' :: '$' :: (label.toList ++ ':' :: ' ' ::
        (type.display.toList ++ ')' :: ' ' :: '\x7b' :: ' ' ::
          (selected.toList ++ [' ', '\x7d'])))) := by
    unfold text
    simp only [String.toList_append, List.append_assoc]
    rfl
  have selection : Writes nestingLimit [.mark '\x7b', .name selected, .mark '\x7d']
      (' ' :: '\x7b' :: ' ' :: (selected.toList ++ [' ', '\x7d'])) :=
    .separator rfl (.mark rfl rfl (.separator rfl (.name selectedNamed rfl
      (.separator rfl (.mark rfl rfl (.finish nestingLimit))))))
  have closed : Writes (nestingLimit - 1)
      [.mark ')', .mark '\x7b', .name selected, .mark '\x7d']
      (')' :: ' ' :: '\x7b' :: ' ' :: (selected.toList ++ [' ', '\x7d'])) :=
    .mark rfl rfl selection
  have typed := type.writes_display named (Nat.le_sub_one_of_lt depth) rfl closed
  have declared : Writes nestingLimit (.mark '(' :: .mark '$' :: .name label :: .mark ':' ::
      (type.lexemes ++ [.mark ')', .mark '\x7b', .name selected, .mark '\x7d']))
      ('(' :: '$' :: (label.toList ++ ':' :: ' ' :: (type.display.toList ++ ')' :: ' ' ::
        '\x7b' :: ' ' :: (selected.toList ++ [' ', '\x7d'])))) :=
    .mark rfl rfl (.mark rfl rfl (.name labelNamed rfl (.mark rfl rfl (.separator rfl typed))))
  rw [spelled]
  refine .name kind.isName_keyword rfl (.separator rfl ?_)
  cases name with
  | none => exact declared
  | some text => exact .name (nameNamed text rfl) rfl declared

theorem ofText_text (nameNamed : ∀ text ∈ name, isName text = true)
    (labelNamed : isName label = true) (named : isName type.typeName = true)
    (selectedNamed : isName selected = true) (once : type.marksOnce = true)
    (depth : type.listDepth < nestingLimit) :
    Document.ofText (kind.text name label type selected) =
      .ok ⟨[⟨name, kind, [⟨label, type⟩]⟩]⟩ := by
  have ends : continuesType [.mark ')', .mark '\x7b', .name selected, .mark '\x7d'] = false := rfl
  let operation : Operation VariableDef := ⟨name, kind, [⟨label, type⟩]⟩
  have parameters : Reader.block '(' ')' (· = .mark '$') variableDefinition
      (.mark '(' :: .mark '$' :: .name label :: .mark ':' ::
        (type.lexemes ++ [.mark ')', .mark '\x7b', .name selected, .mark '\x7d'])) =
          .ok (operation.parameters.map VariableDef.tree,
            [.mark '\x7b', .name selected, .mark '\x7d']) :=
    Reader.block_single (variableDefinition_lexemes once (Nat.le_of_lt depth) ends label) rfl
  have head : operationHead (name.toList.map Lexeme.name ++ .mark '(' :: .mark '$' ::
      .name label :: .mark ':' :: (type.lexemes ++
        [.mark ')', .mark '\x7b', .name selected, .mark '\x7d'])) =
          .ok (⟨name, operation.parameters.map VariableDef.tree, []⟩, []) := by
    have opened : operationHead (name.toList.map Lexeme.name ++ .mark '(' :: .mark '$' ::
        .name label :: .mark ':' :: (type.lexemes ++
          [.mark ')', .mark '\x7b', .name selected, .mark '\x7d'])) = (do
            let parameters ← Reader.block '(' ')' (· = .mark '$') variableDefinition
            let directives ← directives
            selections
            return ⟨name, parameters, directives⟩ : Reader OperationHead)
              (.mark '(' :: .mark '$' :: .name label :: .mark ':' :: (type.lexemes ++
                [.mark ')', .mark '\x7b', .name selected, .mark '\x7d'])) := by
      cases name <;> rfl
    rw [opened, bind_of_eq_ok parameters]
    rfl
  have item : executable (kind.lexemes name label type selected) =
      .ok (.operation operation.tree, []) := by
    have chosen (behind : List Lexeme) : executable (.name kind.keyword :: behind) =
        (do return .operation (kind.declaration (← operationHead)) : Reader Executable)
          behind := by
      cases kind <;> rfl
    unfold lexemes
    rw [chosen, bind_of_eq_ok head]
    rfl
  have run : readDocument (kind.text name label type selected) =
      .ok [.operation operation.tree] :=
    (kind.writes_text nameNamed labelNamed named selectedNamed depth).run_eq
      (Reader.oneOrMore_single item rfl)
  unfold Document.ofText
  rw [run]
  exact congrArg Except.ok (documentOf_trees [operation])

end OperationKind

/-- Declared with its displayed form, a type reference is read back as it was, as the type of
a field of an object type and of an input object and as the type of a variable of an operation
of any kind, named or not. -/
theorem displayed_types_are_read_back (type : TypeRef) (named : isName type.typeName = true)
    (once : type.marksOnce = true) (depth : type.listDepth < nestingLimit)
    (owner label selected : String) (name : Option String) (kind : OperationKind)
    (ownerNamed : isName owner = true) (labelNamed : isName label = true)
    (selectedNamed : isName selected = true) (nameNamed : ∀ text ∈ name, isName text = true) :
    Schema.ofText (RecordKind.object.text owner label type) =
      .ok ⟨[.object ⟨owner, none, [⟨label, type, none⟩]⟩]⟩ ∧
    Schema.ofText (RecordKind.input.text owner label type) =
      .ok ⟨[.input ⟨owner, none, [⟨label, type, none⟩]⟩]⟩ ∧
    Document.ofText (kind.text name label type selected) =
      .ok ⟨[⟨name, kind, [⟨label, type⟩]⟩]⟩ := by
  refine ⟨?object, ?input, ?operation⟩
  case object => exact RecordKind.object.ofText_text ownerNamed labelNamed named once depth
  case input => exact RecordKind.input.ofText_text ownerNamed labelNamed named once depth
  case operation => exact kind.ofText_text nameNamed labelNamed named selectedNamed once depth

/-- Lists inside lists with markers at several layers, and names that are keywords
elsewhere. -/
theorem displayed_types_are_read_back_nested :
    let type : TypeRef := .nonNull (.list (.nonNull (.list (.list (.nonNull (.named "_on1"))))))
    RecordKind.input.text "implements" "type" type =
        "input implements \x7b type: [[[_on1!]]!]! \x7d" ∧
      OperationKind.mutation.text (some "query") "type" type "on" =
        "mutation query($type: [[[_on1!]]!]!) \x7b on \x7d" ∧
      isName type.typeName = true ∧ type.marksOnce = true ∧ type.listDepth < nestingLimit ∧
      isName "implements" = true ∧ isName "type" = true ∧ isName "on" = true ∧
      (∀ text ∈ some "query", isName text = true) ∧
      Schema.ofText (RecordKind.object.text "implements" "type" type) =
        .ok ⟨[.object ⟨"implements", none, [⟨"type", type, none⟩]⟩]⟩ ∧
      Schema.ofText (RecordKind.input.text "implements" "type" type) =
        .ok ⟨[.input ⟨"implements", none, [⟨"type", type, none⟩]⟩]⟩ ∧
      Document.ofText (OperationKind.mutation.text (some "query") "type" type "on") =
        .ok ⟨[⟨some "query", .mutation, [⟨"type", type⟩]⟩]⟩ := by
  intro type
  have named : isName type.typeName = true := by decide
  have depth : type.listDepth < nestingLimit := by decide
  have owner : isName "implements" = true := by decide
  have label : isName "type" = true := by decide
  have selected : isName "on" = true := by decide
  have operation : ∀ text ∈ some "query", isName text = true := by decide
  refine ⟨by decide, by decide, named, rfl, depth, owner, label, selected, operation, ?_⟩
  exact displayed_types_are_read_back type named rfl depth "implements" "type" "on" (some "query")
    .mutation owner label selected operation

end SchemaBindings
