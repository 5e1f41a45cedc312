import Mathlib.Data.List.Forall2
import SchemaBindings.Sources

namespace SchemaBindings

/-!
# Loading files

A run that starts from files takes its steps one after the other: it reads the schema file
and the document files, and only then parses the schema and the documents.  The first step
that fails ends the run, and the run reports what went wrong there.  A file that cannot be
read is thus reported before any fault in a text, wherever it stands among the documents.

What goes wrong in a step depends on the file of the step alone and is stated without the
readers' order: a file is missing, or has bytes that encode no text, or has a text with a
fault at a position.  If nothing of this holds for any step, the run generates what the
parsed texts give.
-/

/-! ## The first fault among several -/

section

variable {Item Fault Result : Type}

/-- The fault of a result that is one. -/
def fault? : Except Fault Result -> Option Fault
  | .ok _ => none
  | .error fault => some fault

theorem fault?_eq_some_iff {result : Except Fault Result} {fault : Fault} :
    fault? result = some fault ↔ result = .error fault := by
  cases result with
  | error found =>
      exact ⟨fun same => congrArg Except.error (Option.some.inj same), congrArg fault?⟩
  | ok found => exact ⟨nofun, nofun⟩

theorem fault?_eq_none_iff {result : Except Fault Result} :
    fault? result = none ↔ ∃ found, result = .ok found := by
  cases result with
  | error fault => exact ⟨nofun, nofun⟩
  | ok found => exact ⟨fun _ => ⟨found, rfl⟩, fun _ => rfl⟩

theorem fault?_mapM (function : Item -> Except Fault Result) (items : List Item) :
    fault? (items.mapM function) = items.findSome? fun item => fault? (function item) := by
  induction items with
  | nil => rfl
  | cons item items inductionHypothesis =>
      rw [List.mapM_cons, List.findSome?_cons, ← inductionHypothesis]
      cases function item with
      | error fault => rfl
      | ok result =>
          cases items.mapM function with
          | error fault => rfl
          | ok results => rfl

theorem both_eq_ok {Other Value : Type} {first : Except Fault Result}
    {second : Except Fault Other} {combine : Result -> Other -> Value} {value : Value}
    (found : (do return combine (← first) (← second)) = Except.ok value) :
    ∃ result other, first = .ok result ∧ second = .ok other ∧ combine result other = value := by
  cases first with
  | error fault => cases found
  | ok result =>
      cases second with
      | error fault => cases found
      | ok other => exact ⟨result, other, rfl, rfl, Except.ok.inj found⟩

theorem forall₂_of_mapM_eq_ok {function : Item -> Except Fault Result} {items : List Item} :
    ∀ {results : List Result}, items.mapM function = .ok results ->
      List.Forall₂ (fun item result => function item = .ok result) items results := by
  induction items with
  | nil =>
      intro results found
      cases found
      exact .nil
  | cons item items inductionHypothesis =>
      intro results found
      rw [List.mapM_cons] at found
      rcases both_eq_ok found with ⟨result, others, first, traversed, rfl⟩
      exact .cons first (inductionHypothesis traversed)

theorem mapM_eq_ok {function : Item -> Except Fault Result} {items : List Item}
    {results : List Result}
    (each : List.Forall₂ (fun item result => function item = .ok result) items results) :
    items.mapM function = .ok results := by
  induction each with
  | nil => rfl
  | cons first _ inductionHypothesis =>
      rw [List.mapM_cons, first, inductionHypothesis]
      rfl

end

section

variable {Stage Fault : Type} {fails : Stage -> Fault -> Prop} {fault : Fault}

/-- What goes wrong in the first stage that fails, where nothing goes wrong in those before. -/
def FirstFailure (fails : Stage -> Fault -> Prop) (stages : List Stage) (fault : Fault) : Prop :=
  ∃ before stage after, stages = before ++ stage :: after ∧
    (∀ earlier ∈ before, ∀ fault, ¬ fails earlier fault) ∧ fails stage fault

variable {faultOf? : Stage -> Option Fault} {stages : List Stage}
  (computed : ∀ stage fault, fails stage fault ↔ faultOf? stage = some fault)
include computed

theorem faultOf?_eq_none_iff (stage : Stage) :
    faultOf? stage = none ↔ ∀ fault, ¬ fails stage fault := by
  rw [Option.eq_none_iff_forall_ne_some]
  exact forall_congr' fun fault => not_congr (computed stage fault).symm

theorem findSome?_eq_some_iff_firstFailure :
    stages.findSome? faultOf? = some fault ↔ FirstFailure fails stages fault := by
  rw [List.findSome?_eq_some_iff]
  refine exists_congr fun before => exists_congr fun stage => exists_congr fun after =>
    and_congr_right fun _ => ?_
  rw [and_comm]
  exact and_congr (forall₂_congr fun earlier _ => faultOf?_eq_none_iff computed earlier)
    (computed stage fault).symm

theorem findSome?_eq_none_iff_noFailure :
    stages.findSome? faultOf? = none ↔ ∀ stage ∈ stages, ∀ fault, ¬ fails stage fault := by
  rw [List.findSome?_eq_none_iff]
  exact forall₂_congr fun stage _ => faultOf?_eq_none_iff computed stage

end

/-! ## Files with a text -/

namespace File

/-- The file of a text. -/
def ofText (text : String) : File :=
  .present text.toUTF8

theorem text_ofText (text : String) : (ofText text).text = .ok text := by
  have decoded : String.fromUTF8? text.toUTF8 = some text := dif_pos text.isValidUTF8
  unfold ofText File.text
  dsimp only
  rw [decoded]

theorem text_of_not_unicode {bytes : ByteArray}
    (undecodable : ∀ text : String, text.toUTF8 ≠ bytes) :
    (present bytes).text = .error .notUnicode := by
  have undecoded : String.fromUTF8? bytes = none :=
    dif_neg fun valid => undecodable ⟨bytes, valid⟩ rfl
  unfold File.text
  dsimp only
  rw [undecoded]

/-- A file is missing, or has a text, or has bytes that encode none. -/
theorem missing_or_ofText_or (file : File) :
    file = .missing ∨ (∃ text, file = ofText text) ∨
      ∃ bytes, file = .present bytes ∧ ∀ text : String, text.toUTF8 ≠ bytes := by
  cases file with
  | missing => exact Or.inl rfl
  | present bytes =>
      by_cases encoded : ∃ text : String, text.toUTF8 = bytes
      · rcases encoded with ⟨text, same⟩
        exact Or.inr (Or.inl ⟨text, congrArg present same.symm⟩)
      · exact Or.inr (Or.inr ⟨bytes, rfl, not_exists.mp encoded⟩)

theorem eq_ofText_of_text_eq_ok {file : File} {text : String} (read : file.text = .ok text) :
    file = ofText text := by
  rcases file.missing_or_ofText_or with rfl | ⟨other, rfl⟩ | ⟨bytes, rfl, undecodable⟩
  · cases read
  · rw [text_ofText] at read
    cases read
    rfl
  · rw [text_of_not_unicode undecodable] at read
    cases read

end File

/-! ## Steps of a run -/

/-- The place of the fault in a text, if it has one. -/
def SourceKind.faultIn? : SourceKind -> String -> Option Text.Position
  | schema, text => fault? (Graphql.readSchema text)
  | document, text => fault? (Graphql.readDocument text)

/-- A step of a run that loads its files: read one, or parse the text of one. -/
inductive LoadingStep where
  | read (file : File)
  | parse (kind : SourceKind) (file : File)

/-- All steps in the order of a run. -/
def loadingSteps (schema : File) (documents : List File) : List LoadingStep :=
  (schema :: documents).map .read ++ .parse .schema schema :: documents.map (.parse .document)

namespace LoadingStep

/-- What goes wrong in a step. -/
inductive Fails : LoadingStep -> Failure -> Prop where
  | missing : Fails (.read .missing) (.file .missing)
  | notUnicode (bytes : ByteArray) (undecodable : ∀ text : String, text.toUTF8 ≠ bytes) :
      Fails (.read (.present bytes)) (.file .notUnicode)
  | ungrammatical (kind : SourceKind) (text : String) (position : Text.Position)
      (faulty : kind.faultIn? text = some position) :
      Fails (.parse kind (.ofText text)) (.source ⟨kind, position⟩)

/-- What goes wrong in a step, computed.  A text that cannot be had has no fault. -/
def failure? : LoadingStep -> Option Failure
  | read file => (fault? file.text).map .file
  | parse kind file =>
      match file.text with
      | .ok text => (kind.faultIn? text).map fun position => .source ⟨kind, position⟩
      | .error _ => none

theorem failure?_parse_ofText (kind : SourceKind) (text : String) :
    (parse kind (.ofText text)).failure? =
      (kind.faultIn? text).map fun position => .source ⟨kind, position⟩ := by
  unfold failure?
  dsimp only
  rw [File.text_ofText]

theorem fails_iff (step : LoadingStep) (failure : Failure) :
    step.Fails failure ↔ step.failure? = some failure := by
  constructor
  · intro fails
    cases fails with
    | missing => rfl
    | notUnicode bytes undecodable =>
        unfold failure?
        dsimp only
        rw [File.text_of_not_unicode undecodable]
        rfl
    | ungrammatical kind text position faulty =>
        rw [failure?_parse_ofText, faulty]
        rfl
  · intro found
    cases step with
    | read file =>
        unfold failure? at found
        dsimp only at found
        rcases file.missing_or_ofText_or with rfl | ⟨text, rfl⟩ | ⟨bytes, rfl, undecodable⟩
        · cases found
          exact .missing
        · rw [File.text_ofText] at found
          cases found
        · rw [File.text_of_not_unicode undecodable] at found
          cases found
          exact .notUnicode bytes undecodable
    | parse kind file =>
        rcases file.missing_or_ofText_or with rfl | ⟨text, rfl⟩ | ⟨bytes, rfl, undecodable⟩
        · cases found
        · rw [failure?_parse_ofText] at found
          rcases Option.map_eq_some_iff.mp found with ⟨position, faulty, rfl⟩
          exact .ungrammatical kind text position faulty
        · unfold failure? at found
          dsimp only at found
          rw [File.text_of_not_unicode undecodable] at found
          cases found

end LoadingStep

/-! ## The first failure of a run -/

theorem fault?_readFiles (schema : File) (documents : List File) :
    (fault? (readFiles schema documents)).map Failure.file =
      ((schema :: documents).map LoadingStep.read).findSome? LoadingStep.failure? := by
  have traversed : fault? (readFiles schema documents) =
      (schema :: documents).findSome? fun file => fault? file.text := by
    rw [← fault?_mapM, List.mapM_cons]
    unfold readFiles
    cases schema.text with
    | error failure => rfl
    | ok text =>
        cases documents.mapM File.text with
        | error failure => rfl
        | ok texts => rfl
  rw [traversed, List.map_findSome?, List.findSome?_map]
  rfl

theorem fault?_documentOfText (text : String) :
    (fault? (Document.ofText text)).map Failure.source =
      (LoadingStep.parse .document (.ofText text)).failure? := by
  rw [LoadingStep.failure?_parse_ofText]
  unfold Document.ofText SourceKind.faultIn?
  dsimp only
  cases Graphql.readDocument text with
  | error position => rfl
  | ok items => rfl

theorem fault?_readSources (schema : String) (documents : List String) :
    (fault? (readSources schema documents)).map Failure.source =
      (.parse .schema (.ofText schema) ::
        (documents.map File.ofText).map (.parse .document)).findSome? LoadingStep.failure? := by
  have ofDocuments : (fault? (documents.mapM Document.ofText)).map Failure.source =
      ((documents.map File.ofText).map (.parse .document)).findSome? LoadingStep.failure? := by
    rw [fault?_mapM, List.map_findSome?, List.findSome?_map, List.findSome?_map]
    exact congrArg (documents.findSome? ·) (funext fault?_documentOfText)
  rw [List.findSome?_cons, LoadingStep.failure?_parse_ofText, ← ofDocuments]
  unfold readSources Schema.ofText declarationsOf SourceKind.faultIn?
  dsimp only
  cases Graphql.readSchema schema with
  | error position => rfl
  | ok declarations =>
      cases documents.mapM Document.ofText with
      | error fault => rfl
      | ok parsed => rfl

/-- Files that are read have texts. -/
theorem readFiles_eq_ok {schema : File} {documents : List File} {text : String}
    {texts : List String} (read : readFiles schema documents = .ok (text, texts)) :
    schema = .ofText text ∧ documents = texts.map .ofText := by
  rcases both_eq_ok read with ⟨_, _, first, others, same⟩
  cases same
  refine ⟨File.eq_ofText_of_text_eq_ok first, ?_⟩
  rw [← List.forall₂_eq_eq_eq, List.forall₂_map_right_iff]
  exact (forall₂_of_mapM_eq_ok others).imp fun _ _ => File.eq_ofText_of_text_eq_ok

theorem fault?_generateFromFiles (config : Config) (schema : File) (documents : List File) :
    fault? (generateFromFiles config schema documents) =
      (loadingSteps schema documents).findSome? LoadingStep.failure? := by
  unfold loadingSteps generateFromFiles
  rw [List.findSome?_append, ← fault?_readFiles]
  cases read : readFiles schema documents with
  | error failure => rfl
  | ok texts =>
      rcases texts with ⟨text, texts⟩
      have ⟨schemaSame, documentsSame⟩ := readFiles_eq_ok read
      rw [schemaSame, documentsSame, ← fault?_readSources]
      dsimp only
      unfold generateFromTexts
      cases readSources text texts with
      | error fault => rfl
      | ok parsed => rfl

theorem generateFromFiles_eq_ok {config : Config} {schema : File} {documents : List File}
    {output : Output} (generated : generateFromFiles config schema documents = .ok output) :
    ∃ text texts, schema = .ofText text ∧ documents = texts.map .ofText ∧
      generateFromTexts config text texts = .ok output := by
  unfold generateFromFiles at generated
  cases read : readFiles schema documents with
  | error failure =>
      rw [read] at generated
      cases generated
  | ok texts =>
      rw [read] at generated
      have ⟨schemaFile, documentFiles⟩ := readFiles_eq_ok read
      exact ⟨texts.1, texts.2, schemaFile, documentFiles, generated⟩

theorem generateFromTexts_eq_ok {config : Config} {schema : String} {documents : List String}
    {output : Output} (generated : generateFromTexts config schema documents = .ok output) :
    ∃ parsedSchema parsedDocuments, Schema.ofText schema = .ok parsedSchema ∧
      List.Forall₂ (fun text document => Document.ofText text = .ok document) documents
        parsedDocuments ∧
      output = generate config parsedSchema parsedDocuments := by
  unfold generateFromTexts at generated
  cases parsed : readSources schema documents with
  | error fault =>
      rw [parsed] at generated
      cases generated
  | ok sources =>
      rw [parsed] at generated
      cases generated
      rcases both_eq_ok parsed with ⟨parsedSchema, parsedDocuments, first, others, rfl⟩
      exact ⟨parsedSchema, parsedDocuments, first, forall₂_of_mapM_eq_ok others, rfl⟩

theorem readSources_eq_ok {schema : String} {documents : List String} {parsedSchema : Schema}
    {parsedDocuments : List Document} (first : Schema.ofText schema = .ok parsedSchema)
    (others : List.Forall₂ (fun text document => Document.ofText text = .ok document) documents
      parsedDocuments) :
    readSources schema documents = .ok (parsedSchema, parsedDocuments) := by
  unfold readSources
  rw [first, mapM_eq_ok others]
  rfl

/-- A run reports what goes wrong in the first step that fails.  If none fails, each file has
a text, each text parses, and the run generates what the parsed texts give. -/
theorem generateFromFiles_reports_first_failure (config : Config) (schema : File)
    (documents : List File) :
    (∀ failure, generateFromFiles config schema documents = .error failure ↔
      FirstFailure LoadingStep.Fails (loadingSteps schema documents) failure) ∧
    ((∀ step ∈ loadingSteps schema documents, ∀ failure, ¬ step.Fails failure) ->
      ∃ text texts parsedSchema parsedDocuments,
        schema = .ofText text ∧ documents = texts.map .ofText ∧
        Schema.ofText text = .ok parsedSchema ∧
        List.Forall₂ (fun text document => Document.ofText text = .ok document) texts
          parsedDocuments ∧
        generateFromFiles config schema documents =
          .ok (generate config parsedSchema parsedDocuments) ∧
        generateFromTexts config text texts =
          .ok (generate config parsedSchema parsedDocuments)) := by
  have first := fault?_generateFromFiles config schema documents
  constructor
  · intro failure
    rw [← findSome?_eq_some_iff_firstFailure LoadingStep.fails_iff, ← first]
    exact fault?_eq_some_iff.symm
  · intro succeed
    have noFault := (findSome?_eq_none_iff_noFailure LoadingStep.fails_iff).mpr succeed
    rcases fault?_eq_none_iff.mp (first.trans noFault) with ⟨output, generated⟩
    rcases generateFromFiles_eq_ok generated with
      ⟨text, texts, schemaFile, documentFiles, viaTexts⟩
    rcases generateFromTexts_eq_ok viaTexts with
      ⟨parsedSchema, parsedDocuments, schemaParsed, documentsParsed, rfl⟩
    exact ⟨text, texts, parsedSchema, parsedDocuments, schemaFile, documentFiles, schemaParsed,
      documentsParsed, generated, viaTexts⟩

/-- A missing document is reported before the faults in the texts ahead of it, and files that
all parse give bindings. -/
theorem generateFromFiles_reports_first_failure_samples :
    let documents := [File.ofText "\x7d", .missing, .present ⟨#[0xff]⟩]
    let schema := File.ofText "type Query \x7b items: [Int!] \x7d"
    let items := File.ofText "query Items($first: Int) \x7b items \x7d"
    FirstFailure LoadingStep.Fails (loadingSteps (.ofText "type") documents) (.file .missing) ∧
      generateFromFiles {} (.ofText "type") documents = .error (.file .missing) ∧
      (∀ step ∈ loadingSteps schema [items], ∀ failure, ¬ step.Fails failure) ∧
      ∃ parsedSchema parsedDocuments, generateFromFiles {} schema [items] =
        .ok (generate {} parsedSchema parsedDocuments) := by
  intro documents schema items
  have first : FirstFailure LoadingStep.Fails (loadingSteps (.ofText "type") documents)
      (.file .missing) := by
    rw [← findSome?_eq_some_iff_firstFailure LoadingStep.fails_iff]
    decide +kernel
  have succeed : ∀ step ∈ loadingSteps schema [items], ∀ failure, ¬ step.Fails failure := by
    rw [← findSome?_eq_none_iff_noFailure LoadingStep.fails_iff]
    decide +kernel
  have missing := ((generateFromFiles_reports_first_failure {} _ documents).1 _).mpr first
  rcases (generateFromFiles_reports_first_failure {} schema [items]).2 succeed with
    ⟨_, _, parsedSchema, parsedDocuments, _, _, _, _, generated, _⟩
  exact ⟨first, missing, succeed, parsedSchema, parsedDocuments, generated⟩

end SchemaBindings
