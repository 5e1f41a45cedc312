import SchemaBindings.Proofs.Loading
import SchemaBindings.Proofs.Pointwise
import SchemaBindings.Proofs.PrintedTypes

namespace SchemaBindings
namespace Graphql

/-!
# Ignored declarations

A schema may declare interfaces, unions, the root types, directives and extensions, and a
document may declare fragments.  Bindings are not made from them, and they do not have an
effect on those that are made: whatever is inserted of them, wherever it stands, the schema and
the operations stay the same, and so every run gives the same output.  Only the events of a run
tell that something has been left out, one event for each declaration.

What is kept is said without the functions that keep it.  `KeptAs` has a constructor for each
kind of declaration from which bindings are made, and `ReportedAs` has one for each of the
others; `SameWrappers` follows a written type through all its lists and markers.  Each
declaration is on one of the two sides, and everything here comes from this.  The same holds of
texts, since they are read as trees first.
-/

/-! ## What is kept and what is reported -/

/-- Whether bindings are not made from a declaration. -/
def Declaration.isIgnored : Declaration -> Bool
  | type (.scalar _) => false
  | type (.object _) => false
  | type (.enum _) => false
  | type (.input _) => false
  | type (.interface _) => true
  | type (.union _) => true
  | roots _ => true
  | extension _ => true
  | directive _ => true

/-- Whether bindings are not made from an item of a document. -/
def Executable.isIgnored : Executable -> Bool
  | operation _ => false
  | fragment _ => true

/-- The reference has all the lists and markers of the written type, around the same name. -/
inductive SameWrappers : WrittenType -> TypeRef -> Prop
  | named (name : String) : SameWrappers (.named name) (.named name)
  | list {written : WrittenType} {type : TypeRef} (inner : SameWrappers written type) :
      SameWrappers (.list written) (.list type)
  | nonNull {written : WrittenType} {type : TypeRef} (inner : SameWrappers written type) :
      SameWrappers (.nonNull written) (.nonNull type)

/-- The field has the description, the name and the type that are declared. -/
structure FieldKept (description : Option String) (name : String) (type : WrittenType)
    (field : FieldDef) : Prop where
  description_eq : field.description = description
  name_eq : field.name = name
  sameWrappers : SameWrappers type field.type

/-- The definition as which a declaration is kept: its description, its name, and its fields or
values one by one. -/
inductive KeptAs : Declaration -> Definition -> Prop
  | scalar (declared : ScalarDeclaration) :
      KeptAs (.type (.scalar declared)) (.scalar ⟨declared.name, declared.description⟩)
  | object (declared : ObjectDeclaration) {fields : List FieldDef}
      (each : List.Forall₂ (fun tree => FieldKept tree.description tree.name tree.type)
        declared.fields fields) :
      KeptAs (.type (.object declared)) (.object ⟨declared.name, declared.description, fields⟩)
  | enum (declared : EnumDeclaration) {values : List EnumValue}
      (each : List.Forall₂ (fun tree value => value.name = tree.name ∧
        value.description = tree.description) declared.values values) :
      KeptAs (.type (.enum declared)) (.enum ⟨declared.name, declared.description, values⟩)
  | input (declared : InputDeclaration) {fields : List FieldDef}
      (each : List.Forall₂ (fun tree => FieldKept tree.description tree.name tree.type)
        declared.fields fields) :
      KeptAs (.type (.input declared)) (.input ⟨declared.name, declared.description, fields⟩)

/-- The event that tells that a declaration is left out. -/
inductive ReportedAs : Declaration -> Event -> Prop
  | interface (declared : InterfaceDeclaration) : ReportedAs (.type (.interface declared))
      ⟨.trace, "Skipping interface definition " ++ declared.name⟩
  | union (declared : UnionDeclaration) : ReportedAs (.type (.union declared))
      ⟨.trace, "Skipping union definition " ++ declared.name⟩
  | roots (declared : RootsDeclaration) : ReportedAs (.roots declared)
      ⟨.trace, "Skipping non-type definition \"schema\""⟩
  | extension (added : TypeDeclaration) : ReportedAs (.extension added)
      ⟨.trace, "Skipping non-type definition \"extension\""⟩
  | directive (declared : DirectiveDeclaration) : ReportedAs (.directive declared)
      ⟨.trace, "Skipping non-type definition \"directive\""⟩

/-- The variables have the names and the types that are declared. -/
abbrev ParametersKept : List VariableDeclaration -> List VariableDef -> Prop :=
  List.Forall₂ fun tree kept => kept.name = tree.name ∧ SameWrappers tree.type kept.type

/-- The operation as which an item of a document is kept.  Bare selections are an anonymous
query. -/
inductive OperationKeptAs : Executable -> Operation VariableDef -> Prop
  | selections : OperationKeptAs (.operation .selections) ⟨none, .query, []⟩
  | query (head : OperationHead) {parameters : List VariableDef}
      (each : ParametersKept head.parameters parameters) :
      OperationKeptAs (.operation (.query head)) ⟨head.name, .query, parameters⟩
  | mutation (head : OperationHead) {parameters : List VariableDef}
      (each : ParametersKept head.parameters parameters) :
      OperationKeptAs (.operation (.mutation head)) ⟨head.name, .mutation, parameters⟩
  | subscription (head : OperationHead) {parameters : List VariableDef}
      (each : ParametersKept head.parameters parameters) :
      OperationKeptAs (.operation (.subscription head)) ⟨head.name, .subscription, parameters⟩

theorem sameWrappers_toTypeRef (type : WrittenType) : SameWrappers type type.toTypeRef := by
  induction type with
  | named name => exact .named name
  | list inner inductionHypothesis => exact .list inductionHypothesis
  | nonNull inner inductionHypothesis => exact .nonNull inductionHypothesis

theorem fieldKept_toField (declared : FieldDeclaration) :
    FieldKept declared.description declared.name declared.type declared.toField :=
  ⟨rfl, rfl, sameWrappers_toTypeRef declared.type⟩

theorem fieldKept_toField_inputValue (value : InputValue) :
    FieldKept value.description value.name value.type value.toField :=
  ⟨rfl, rfl, sameWrappers_toTypeRef value.type⟩

/-- A declaration is kept as a definition or reported by an event, as its kind says. -/
theorem Declaration.lower_cases (declaration : Declaration) :
    (declaration.isIgnored = false ∧
      ∃ definition, declaration.lower = .inl definition ∧ KeptAs declaration definition) ∨
    (declaration.isIgnored = true ∧
      ∃ event, declaration.lower = .inr event ∧ ReportedAs declaration event) := by
  have reported {message spelled : String} (same : message = spelled) :
      (.inr ⟨.trace, message⟩ : Definition ⊕ Event) = .inr ⟨.trace, spelled⟩ := by
    rw [same]
  have aboutRoots : "Skipping non-type definition " ++ Text.quoted "schema" =
      "Skipping non-type definition \"schema\"" := by decide +kernel
  have aboutExtension : "Skipping non-type definition " ++ Text.quoted "extension" =
      "Skipping non-type definition \"extension\"" := by decide +kernel
  have aboutDirective : "Skipping non-type definition " ++ Text.quoted "directive" =
      "Skipping non-type definition \"directive\"" := by decide +kernel
  cases declaration with
  | roots declared => exact .inr ⟨rfl, _, reported aboutRoots, .roots declared⟩
  | extension added => exact .inr ⟨rfl, _, reported aboutExtension, .extension added⟩
  | directive declared => exact .inr ⟨rfl, _, reported aboutDirective, .directive declared⟩
  | type declared =>
      cases declared with
      | scalar declared => exact .inl ⟨rfl, _, rfl, .scalar declared⟩
      | object declared =>
          exact .inl ⟨rfl, _, rfl,
            .object declared (forall₂_map_of_forall fieldKept_toField declared.fields)⟩
      | enum declared =>
          exact .inl ⟨rfl, _, rfl,
            .enum declared (forall₂_map_of_forall (fun _ => ⟨rfl, rfl⟩) declared.values)⟩
      | input declared =>
          exact .inl ⟨rfl, _, rfl, .input declared
            (forall₂_map_of_forall fieldKept_toField_inputValue declared.fields)⟩
      | interface declared => exact .inr ⟨rfl, _, rfl, .interface declared⟩
      | union declared => exact .inr ⟨rfl, _, rfl, .union declared⟩

/-- An operation is kept as the operation that it is. -/
theorem OperationDeclaration.keptAs_toOperation (declared : OperationDeclaration) :
    OperationKeptAs (.operation declared) declared.toOperation := by
  have parameters (head : OperationHead) :
      ParametersKept head.parameters (head.parameters.map VariableDeclaration.toVariable) :=
    forall₂_map_of_forall (fun tree => ⟨rfl, sameWrappers_toTypeRef tree.type⟩) head.parameters
  cases declared with
  | selections => exact .selections
  | query head => exact .query head (parameters head)
  | mutation head => exact .mutation head (parameters head)
  | subscription head => exact .subscription head (parameters head)

/-! ## Inserted items -/

/-- The second list is the first with ignored items inserted, any number at any positions. -/
inductive Inserted {Item : Type} (ignored : Item -> Bool) : List Item -> List Item -> Prop
  | nil : Inserted ignored [] []
  | keep {items padded : List Item} (item : Item) (others : Inserted ignored items padded) :
      Inserted ignored (item :: items) (item :: padded)
  | insert {items padded : List Item} {item : Item} (isIgnored : ignored item = true)
      (others : Inserted ignored items padded) : Inserted ignored items (item :: padded)

/-! ## What is left of the items -/

section

variable {Item Kept : Type} {ignored : Item -> Bool} {kept? : Item -> Option Kept}

/-- If nothing is kept of an ignored item, nothing is kept of what is inserted. -/
theorem Inserted.filterMap_eq (nothing : ∀ item, ignored item = true -> kept? item = none)
    {items padded : List Item} (inserted : Inserted ignored items padded) :
    padded.filterMap kept? = items.filterMap kept? := by
  induction inserted with
  | nil => rfl
  | keep item _ inductionHypothesis =>
      rw [List.filterMap_cons, List.filterMap_cons, inductionHypothesis]
  | insert isIgnored _ inductionHypothesis =>
      rw [List.filterMap_cons_none (nothing _ isIgnored), inductionHypothesis]

end

variable {declarations padded : List Declaration}

theorem Declaration.getLeft?_lower_of_isIgnored (declaration : Declaration)
    (isIgnored : declaration.isIgnored = true) : declaration.lower.getLeft? = none := by
  rcases declaration.lower_cases with ⟨kept, _⟩ | ⟨_, event, lowered, _⟩
  · exact absurd (isIgnored.symm.trans kept) Bool.noConfusion
  · rw [lowered]
    rfl

theorem Executable.operation?_of_isIgnored (item : Executable)
    (isIgnored : item.isIgnored = true) : item.operation? = none := by
  cases item with
  | operation declared => exact absurd isIgnored Bool.false_ne_true
  | fragment declared => rfl

theorem schemaOf_inserted (inserted : Inserted Declaration.isIgnored declarations padded) :
    schemaOf padded = schemaOf declarations :=
  congrArg Schema.mk (inserted.filterMap_eq Declaration.getLeft?_lower_of_isIgnored)

theorem documentOf_inserted {items padded : List Executable}
    (inserted : Inserted Executable.isIgnored items padded) :
    documentOf padded = documentOf items :=
  congrArg Document.mk (inserted.filterMap_eq Executable.operation?_of_isIgnored)

theorem documentsOf_inserted {documents padded : List (List Executable)}
    (each : List.Forall₂ (Inserted Executable.isIgnored) documents padded) :
    padded.map documentOf = documents.map documentOf := by
  induction each with
  | nil => rfl
  | cons first _ inductionHypothesis =>
      rw [List.map_cons, List.map_cons, documentOf_inserted first, inductionHypothesis]

/-! ## All that is kept -/

/-- The definitions of a schema are the declarations that are not ignored, in their order. -/
theorem keptAs_definitions (declarations : List Declaration) :
    List.Forall₂ KeptAs (declarations.filter fun declaration => !declaration.isIgnored)
      (schemaOf declarations).definitions := by
  refine forall₂_filterMap (fun declaration kept => ?_) (fun declaration ignored => ?_) _
  · rcases declaration.lower_cases with ⟨_, definition, lowered, keptAs⟩ | ⟨ignored, _⟩
    · exact ⟨definition, congrArg Sum.getLeft? lowered, keptAs⟩
    · rw [ignored] at kept
      exact absurd kept Bool.false_ne_true
  · exact declaration.getLeft?_lower_of_isIgnored ((Bool.not_eq_false' _).mp ignored)

/-- Each ignored declaration has an event of its own, and no other declaration has one. -/
theorem reportedAs_skipEvents (declarations : List Declaration) :
    List.Forall₂ ReportedAs (declarations.filter Declaration.isIgnored)
      (skipEvents declarations) := by
  refine forall₂_filterMap (fun declaration ignored => ?_) (fun declaration kept => ?_) _
  · rcases declaration.lower_cases with ⟨kept, _⟩ | ⟨_, event, lowered, reportedAs⟩
    · exact absurd (ignored.symm.trans kept) Bool.noConfusion
    · exact ⟨event, congrArg Sum.getRight? lowered, reportedAs⟩
  · rcases declaration.lower_cases with ⟨_, definition, lowered, _⟩ | ⟨ignored, _⟩
    · exact congrArg Sum.getRight? lowered
    · exact absurd (ignored.symm.trans kept) Bool.noConfusion

theorem keptAs_operations (items : List Executable) :
    List.Forall₂ OperationKeptAs (items.filter fun item => !item.isIgnored)
      (documentOf items).operations := by
  refine forall₂_filterMap (fun item kept => ?_) (fun item ignored => ?_) _
  · cases item with
    | operation declared => exact ⟨_, rfl, declared.keptAs_toOperation⟩
    | fragment declared => exact absurd kept Bool.false_ne_true
  · exact item.operation?_of_isIgnored ((Bool.not_eq_false' _).mp ignored)

/-! ## What is read of types -/

/-- The type is written in front of what is left, and no marker of it is left. -/
structure WrittenInFront (type : TypeRef) (tokens left : List Lexeme) : Prop where
  tokens_eq : tokens = type.lexemes ++ left
  isNonNull_of_marker : left.head? = some (.mark '!') -> type.isNonNull = true

section

variable {tokens rest : List Lexeme}

theorem type_writtenInFront {type : WrittenType}
    (read : Graphql.type tokens = .ok (type, rest)) :
    WrittenInFront type.toTypeRef tokens rest := by
  rw [← type.tree_toTypeRef] at read
  have ⟨written, _, _, marker⟩ := type_eq_ok_iff.mp read
  exact ⟨written, marker⟩

/-- The type of a field stands behind its description, its name and its arguments. -/
theorem field_writtenInFront {found : FieldDeclaration}
    (read : field tokens = .ok (found, rest)) :
    ∃ place typed left,
      description tokens = .ok (found.description, .name found.name :: place) ∧
      argumentDefinitions place = .ok (found.arguments, .mark ':' :: typed) ∧
      WrittenInFront found.toField.type typed left := by
  obtain ⟨described, named, readDescription, read⟩ := bind_eq_ok_iff.mp read
  obtain ⟨label, place, readName, read⟩ := bind_eq_ok_iff.mp read
  obtain ⟨arguments, separated, readArguments, read⟩ := bind_eq_ok_iff.mp read
  obtain ⟨_, typed, readColon, read⟩ := bind_eq_ok_iff.mp read
  obtain ⟨type, left, readType, read⟩ := bind_eq_ok_iff.mp read
  obtain ⟨_, _, _, read⟩ := bind_eq_ok_iff.mp read
  cases read
  exact ⟨place, typed, left, Reader.name_eq_ok readName ▸ readDescription,
    Reader.expect_eq_ok readColon ▸ readArguments, type_writtenInFront readType⟩

theorem inputValue_writtenInFront {found : InputValue}
    (read : inputValue tokens = .ok (found, rest)) :
    ∃ typed left,
      description tokens = .ok (found.description, .name found.name :: .mark ':' :: typed) ∧
      WrittenInFront found.toField.type typed left := by
  obtain ⟨described, named, readDescription, read⟩ := bind_eq_ok_iff.mp read
  obtain ⟨label, separated, readName, read⟩ := bind_eq_ok_iff.mp read
  obtain ⟨_, typed, readColon, read⟩ := bind_eq_ok_iff.mp read
  obtain ⟨type, left, readType, read⟩ := bind_eq_ok_iff.mp read
  obtain ⟨_, _, _, read⟩ := bind_eq_ok_iff.mp read
  obtain ⟨_, _, _, read⟩ := bind_eq_ok_iff.mp read
  cases read
  rw [Reader.name_eq_ok readName, Reader.expect_eq_ok readColon] at readDescription
  exact ⟨typed, left, readDescription, type_writtenInFront readType⟩

theorem variableDefinition_writtenInFront {found : VariableDeclaration}
    (read : variableDefinition tokens = .ok (found, rest)) :
    ∃ typed left, tokens = .mark '$' :: .name found.name :: .mark ':' :: typed ∧
      WrittenInFront found.toVariable.type typed left := by
  obtain ⟨_, named, readDollar, read⟩ := bind_eq_ok_iff.mp read
  obtain ⟨label, separated, readName, read⟩ := bind_eq_ok_iff.mp read
  obtain ⟨_, typed, readColon, read⟩ := bind_eq_ok_iff.mp read
  obtain ⟨type, left, readType, read⟩ := bind_eq_ok_iff.mp read
  obtain ⟨_, _, _, read⟩ := bind_eq_ok_iff.mp read
  cases read
  refine ⟨typed, left, ?_, type_writtenInFront readType⟩
  rw [Reader.expect_eq_ok readDollar, Reader.name_eq_ok readName, Reader.expect_eq_ok readColon]

end

/-! ## Runs over texts -/

/-- The texts of a schema and of documents declare what the lists say. -/
structure Declare (schema : String) (documents : List String) (declarations : List Declaration)
    (items : List (List Executable)) : Prop where
  schema : readSchema schema = .ok declarations
  documents : List.Forall₂ (fun text declared => readDocument text = .ok declared) documents items

namespace Declare

variable {schema : String} {documents : List String} {items : List (List Executable)}
  (declare : Declare schema documents declarations items)
include declare

theorem readSources_eq :
    readSources schema documents = .ok (schemaOf declarations, items.map documentOf) := by
  have first : Schema.ofText schema = .ok (schemaOf declarations) := by
    unfold Schema.ofText declarationsOf
    rw [declare.schema]
    rfl
  refine readSources_eq_ok first (List.forall₂_map_right_iff.mpr ?_)
  refine declare.documents.imp fun text declared read => ?_
  unfold Document.ofText
  rw [read]

theorem generateFromTexts_eq (config : Config) : generateFromTexts config schema documents =
    .ok (generate config (schemaOf declarations) (items.map documentOf)) := by
  unfold generateFromTexts
  rw [declare.readSources_eq]

theorem textsEvents_eq (config : Config) : textsEvents config schema documents =
    skipEvents declarations ++
      generateEvents config (schemaOf declarations) (items.map documentOf) := by
  unfold textsEvents Schema.events declarationsOf
  rw [declare.readSources_eq, declare.schema]
  rfl

end Declare

/-- Interfaces, unions, root types, directives, extensions and fragments have no effect.  The
definitions of a schema and the operations of a document are the others, in their order, each
kept as it is declared and with its types as they are written.  For each declaration that a
schema leaves out there is one event.  In a text the types of fields and variables are all that
stands where a type is expected.  Whatever is inserted of these declarations and of fragments,
the schema, the documents, and thus all that is generated from them, are the same in every
configuration, be it from the declarations or from texts that declare them; a run over texts
reports the same, but for the events of what its schema leaves out. -/
theorem ignored_declarations_have_no_effect (declarations : List Declaration)
    (documents : List (List Executable)) :
    let schema := schemaOf declarations
    let lowered := documents.map documentOf
    List.Forall₂ KeptAs (declarations.filter fun declaration => !declaration.isIgnored)
      schema.definitions ∧
    List.Forall₂ (fun items document =>
        List.Forall₂ OperationKeptAs (items.filter fun item => !item.isIgnored)
          document.operations) documents lowered ∧
    List.Forall₂ ReportedAs (declarations.filter Declaration.isIgnored)
      (skipEvents declarations) ∧
    (∀ tokens rest,
      (∀ found, field tokens = .ok (found, rest) -> ∃ place typed left,
        description tokens = .ok (found.description, .name found.name :: place) ∧
        argumentDefinitions place = .ok (found.arguments, .mark ':' :: typed) ∧
        WrittenInFront found.toField.type typed left) ∧
      (∀ found, inputValue tokens = .ok (found, rest) -> ∃ typed left,
        description tokens = .ok (found.description, .name found.name :: .mark ':' :: typed) ∧
        WrittenInFront found.toField.type typed left) ∧
      (∀ found, variableDefinition tokens = .ok (found, rest) -> ∃ typed left,
        tokens = .mark '$' :: .name found.name :: .mark ':' :: typed ∧
        WrittenInFront found.toVariable.type typed left)) ∧
    ∀ padded paddedDocuments, Inserted Declaration.isIgnored declarations padded ->
      List.Forall₂ (Inserted Executable.isIgnored) documents paddedDocuments ->
      schemaOf padded = schema ∧ paddedDocuments.map documentOf = lowered ∧
      ∀ config,
        let output := generate config schema lowered
        let paddedOutput := generate config (schemaOf padded) (paddedDocuments.map documentOf)
        paddedOutput = output ∧ paddedOutput.inputs = output.inputs ∧
        paddedOutput.unresolvedReferences = output.unresolvedReferences ∧
        ∀ text texts paddedText paddedTexts, Declare text texts declarations documents ->
          Declare paddedText paddedTexts padded paddedDocuments ->
          generateFromTexts config paddedText paddedTexts = .ok output ∧
          generateFromTexts config text texts = .ok output ∧
          textsEvents config paddedText paddedTexts =
            skipEvents padded ++ generateEvents config schema lowered ∧
          textsEvents config text texts =
            skipEvents declarations ++ generateEvents config schema lowered := by
  intro schema lowered
  refine ⟨keptAs_definitions declarations,
    List.forall₂_map_right_iff.mpr (List.forall₂_same.mpr fun items _ => keptAs_operations items),
    reportedAs_skipEvents declarations, fun _ _ => ⟨fun _ => field_writtenInFront,
      fun _ => inputValue_writtenInFront, fun _ => variableDefinition_writtenInFront⟩, ?_⟩
  intro padded paddedDocuments inserted eachInserted
  have sameSchema : schemaOf padded = schema := schemaOf_inserted inserted
  have sameDocuments : paddedDocuments.map documentOf = lowered :=
    documentsOf_inserted eachInserted
  refine ⟨sameSchema, sameDocuments, fun config => ?_⟩
  intro output paddedOutput
  have same : paddedOutput = output := by
    unfold paddedOutput
    rw [sameSchema, sameDocuments]
  refine ⟨same, congrArg Output.inputs same, congrArg Output.unresolvedReferences same, ?_⟩
  intro text texts paddedText paddedTexts declare declarePadded
  refine ⟨?_, declare.generateFromTexts_eq config, ?_, declare.textsEvents_eq config⟩
  · rw [declarePadded.generateFromTexts_eq config]
    exact congrArg Except.ok same
  · rw [declarePadded.textsEvents_eq config, sameSchema, sameDocuments]

/-- Every kind of declaration.  Those that are ignored stand in front of, between and behind the
others, and take the names of some of them. -/
theorem ignored_declarations_have_no_effect_allKinds :
    let date : Declaration := .type (.scalar ⟨none, "D", []⟩)
    let node : Declaration := .type (.object ⟨none, "N", [], [],
      [⟨none, "n", [], .nonNull (.list (.list (.named "N"))), []⟩]⟩)
    let state : Declaration := .type (.enum ⟨none, "S", [], [⟨none, "O", []⟩]⟩)
    let filter : Declaration := .type (.input ⟨none, "F", [],
      [⟨none, "s", .list (.nonNull (.named "S")), []⟩]⟩)
    let query : Executable := .operation (.query ⟨some "Q", [⟨"f", .named "F"⟩], []⟩)
    let text := "scalar D type N \x7b n: [[N]]! \x7d enum S \x7b O \x7d input F \x7b s: [S!] \x7d"
    let texts := ["query Q($f: F) \x7b n \x7d", "\x7b n \x7d"]
    let paddedText := "schema \x7b query: N \x7d interface S \x7b n: N \x7d scalar D union D = N"
      ++ " type N \x7b n: [[N]]! \x7d enum S \x7b O \x7d extend input F \x7b d: D \x7d"
      ++ " input F \x7b s: [S!] \x7d directive @N on ENUM"
    let paddedTexts := ["fragment Q on N \x7b n \x7d query Q($f: F) \x7b n \x7d", "\x7b n \x7d"]
    let output := generate ⟨.empty, true⟩ (schemaOf [date, node, state, filter])
      [documentOf [query], documentOf [.operation .selections]]
    generateFromTexts ⟨.empty, true⟩ paddedText paddedTexts = .ok output ∧
      generateFromTexts ⟨.empty, true⟩ text texts = .ok output ∧
      (textsEvents ⟨.empty, true⟩ paddedText paddedTexts).length =
        (textsEvents ⟨.empty, true⟩ text texts).length + 5 ∧
      output.inputs.map Record.name = ["F"] ∧ output.schema.enumNames = ["S"] := by
  intro date node state filter query text texts paddedText paddedTexts output
  let roots : Declaration := .roots ⟨[], [("query", "N")]⟩
  let interface : Declaration :=
    .type (.interface ⟨none, "S", [], [], [⟨none, "n", [], .named "N", []⟩]⟩)
  let union : Declaration := .type (.union ⟨none, "D", [], ["N"]⟩)
  let extension : Declaration :=
    .extension (.input ⟨none, "F", [], [⟨none, "d", .named "D", []⟩]⟩)
  let directive : Declaration := .directive ⟨none, "N", [], false, ["ENUM"]⟩
  let bare : Executable := .operation .selections
  let fragment : Executable := .fragment ⟨"Q", "N", []⟩
  have inserted : Inserted Declaration.isIgnored [date, node, state, filter]
      [roots, interface, date, union, node, state, extension, filter, directive] :=
    .insert rfl (.insert rfl (.keep date (.insert rfl (.keep node (.keep state
      (.insert rfl (.keep filter (.insert rfl .nil))))))))
  have insertedFragment : Inserted Executable.isIgnored [query] [fragment, query] :=
    .insert rfl (.keep query .nil)
  have unpadded : Inserted Executable.isIgnored [bare] [bare] := .keep bare .nil
  have declare : Declare text texts [date, node, state, filter] [[query], [bare]] :=
    ⟨by decide +kernel, .cons (by decide +kernel) (.cons (by decide +kernel) .nil)⟩
  have declarePadded : Declare paddedText paddedTexts
      [roots, interface, date, union, node, state, extension, filter, directive]
      [[fragment, query], [bare]] :=
    ⟨by decide +kernel, .cons (by decide +kernel) (.cons (by decide +kernel) .nil)⟩
  obtain ⟨_, _, _, _, unchanged⟩ :=
    ignored_declarations_have_no_effect [date, node, state, filter] [[query], [bare]]
  obtain ⟨_, _, same⟩ :=
    unchanged _ _ inserted (.cons insertedFragment (.cons unpadded .nil))
  obtain ⟨_, _, _, runs⟩ := same ⟨.empty, true⟩
  obtain ⟨padded, plain, paddedEvents, events⟩ := runs _ _ _ _ declare declarePadded
  refine ⟨padded, plain, ?_, by decide +kernel, by decide +kernel⟩
  rw [paddedEvents, events, List.length_append, List.length_append, Nat.add_right_comm]
  rfl

end Graphql
end SchemaBindings
