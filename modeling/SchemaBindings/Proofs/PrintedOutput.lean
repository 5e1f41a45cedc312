import Mathlib.Algebra.GroupWithZero.Nat
import SchemaBindings.CommandLine
import SchemaBindings.Proofs.Collecting
import SchemaBindings.Proofs.Loading
import SchemaBindings.Proofs.Names
import SchemaBindings.Proofs.SingleLines

namespace SchemaBindings
namespace CommandLine

/-!
# Printed output

The program decodes its arguments, the name of the program among them, and an argument that is
not Unicode ends it at once, without any output and with an exit code of its own.  A run of the
command line then checks its arguments, then its configuration, and then generates.  It prints
nothing before all three have succeeded: the first failure is reported with exit code 1 and no
output.  A run without a failure prints all that it was given and exits with code 0.  Nobody
asks at that point whether the references of the schema are resolved, so unresolved ones change
neither the exit code nor the number of lines.

What is printed follows the declarations.  Every configured scalar has a line, every object
type and every emitted input object has a line for each field between a first and a last
one, and every operation has a line.  As long as no target of a scalar brings a line feed
of its own, these are the lines of the whole output, since names and type expressions
stand on one line each.
-/

open Text (SingleLine singleLine_append)

/-! ## Checks -/

/-- The configuration of a run: without a file the default one, else that of the text of
the file. -/
inductive Configured : Option (String × File) -> Config -> Prop where
  | default : Configured none {}
  | file (path text : String) (config : Config) (accepted : Config.ofText text = .ok config) :
      Configured (some (path, .ofText text)) config

/-- What a run checks before it prints. -/
inductive Check where
  | arguments
  | configuration
  | generation

namespace Check

/-- The order of the checks. -/
def all : List Check := [arguments, configuration, generation]

/-- What a check refuses.  Generation is refused only where there is something to generate
from. -/
inductive Fails (files : List File) (given : Option (String × File)) :
    Check -> Refusal -> Prop where
  | usage (nothing : files = []) : Fails files given .arguments .usage
  | unreadable (path : String) (file : File) (named : given = some (path, file))
      (unreadable : ∀ text, file ≠ .ofText text) :
      Fails files given .configuration (.unreadableConfig path)
  | rejected (path text : String) (fault : Json.Fault) (named : given = some (path, .ofText text))
      (rejected : Config.ofText text = .error fault) :
      Fails files given .configuration (.failure (.config fault))
  | generation (schema : File) (documents : List File) (config : Config) (failure : Failure)
      (named : files = schema :: documents) (configured : Configured given config)
      (failed : generateFromFiles config schema documents = .error failure) :
      Fails files given .generation (.failure failure)

end Check

/-! ## Reading the configuration -/

theorem readConfig_ofText (path text : String) : readConfig (some (path, .ofText text)) =
    (Config.ofText text).mapError fun fault => .failure (.config fault) := by
  unfold readConfig
  dsimp only
  rw [File.text_ofText]
  dsimp only
  cases Config.ofText text with
  | error fault => rfl
  | ok config => rfl

theorem readConfig_of_unreadable {file : File} (path : String)
    (unreadable : ∀ text, file ≠ .ofText text) :
    readConfig (some (path, file)) = .error (.unreadableConfig path) := by
  unfold readConfig
  dsimp only
  cases read : file.text with
  | error failure => rfl
  | ok text => exact absurd (File.eq_ofText_of_text_eq_ok read) (unreadable text)

/-- Reading the configuration finds one that the run is given, or a reason to refuse it. -/
theorem readConfig_sound (files : List File) (given : Option (String × File)) :
    (∃ config, readConfig given = .ok config ∧ Configured given config) ∨
      ∃ refusal, readConfig given = .error refusal ∧
        Check.Fails files given .configuration refusal := by
  cases given with
  | none => exact Or.inl ⟨{}, rfl, .default⟩
  | some named =>
      rcases named with ⟨path, file⟩
      by_cases readable : ∃ text, file = .ofText text
      · rcases readable with ⟨text, rfl⟩
        rw [readConfig_ofText]
        cases parsed : Config.ofText text with
        | error fault => exact Or.inr ⟨_, rfl, .rejected path text fault rfl parsed⟩
        | ok config => exact Or.inl ⟨config, rfl, .file path text config parsed⟩
      · have unreadable := not_exists.mp readable
        exact Or.inr ⟨_, readConfig_of_unreadable path unreadable,
          .unreadable path file rfl unreadable⟩

theorem readConfig_eq_ok_iff {given : Option (String × File)} {config : Config} :
    readConfig given = .ok config ↔ Configured given config := by
  constructor
  · intro read
    rcases readConfig_sound [] given with ⟨found, same, configured⟩ | ⟨refusal, same, _⟩
    · cases same.symm.trans read
      exact configured
    · cases same.symm.trans read
  · rintro (_ | ⟨path, text, _, accepted⟩)
    · rfl
    · rw [readConfig_ofText, accepted]
      rfl

theorem readConfig_eq_error_iff {files : List File} {given : Option (String × File)}
    {refusal : Refusal} :
    readConfig given = .error refusal ↔ Check.Fails files given .configuration refusal := by
  constructor
  · intro read
    rcases readConfig_sound files given with ⟨config, same, _⟩ | ⟨found, same, fails⟩
    · cases same.symm.trans read
    · cases same.symm.trans read
      exact fails
  · rintro (_ | ⟨path, file, rfl, unreadable⟩ | ⟨path, text, fault, rfl, rejected⟩)
    · exact readConfig_of_unreadable path unreadable
    · rw [readConfig_ofText, rejected]
      rfl

/-! ## The first refusal of a run -/

namespace Check

variable (files : List File) (given : Option (String × File))

/-- What a check refuses, computed.  Without a schema or a configuration there is nothing to
generate. -/
def refusal? : Check -> Option Refusal
  | arguments => if files.isEmpty then some .usage else none
  | configuration => fault? (readConfig given)
  | generation =>
      match files, readConfig given with
      | schema :: documents, .ok config =>
          (fault? (generateFromFiles config schema documents)).map .failure
      | _, _ => none

theorem fails_iff (check : Check) (refusal : Refusal) :
    check.Fails files given refusal ↔ check.refusal? files given = some refusal := by
  cases check with
  | arguments =>
      cases files with
      | nil =>
          constructor
          · intro fails
            cases fails
            rfl
          · intro found
            cases found
            exact .usage rfl
      | cons schema documents =>
          constructor
          · intro fails
            cases fails with
            | usage nothing => cases nothing
          · exact nofun
  | configuration => exact readConfig_eq_error_iff.symm.trans fault?_eq_some_iff.symm
  | generation =>
      constructor
      · intro fails
        cases fails with
        | generation schema documents config failure named configured failed =>
            subst named
            unfold refusal?
            rw [readConfig_eq_ok_iff.mpr configured]
            dsimp only
            rw [failed]
            rfl
      · intro found
        cases files with
        | nil => cases found
        | cons schema documents =>
            unfold refusal? at found
            dsimp only at found
            cases read : readConfig given with
            | error refusal =>
                rw [read] at found
                cases found
            | ok config =>
                rw [read] at found
                rcases Option.map_eq_some_iff.mp found with ⟨failure, failed, rfl⟩
                exact .generation schema documents config failure rfl
                  (readConfig_eq_ok_iff.mp read) (fault?_eq_some_iff.mp failed)

theorem fault?_generateFrom : fault? (generateFrom files given) =
    all.findSome? (refusal? files given) := by
  cases files with
  | nil => rfl
  | cons schema documents =>
      unfold all generateFrom
      rw [List.findSome?_cons, List.findSome?_cons, List.findSome?_cons]
      unfold refusal?
      dsimp only
      cases readConfig given with
      | error refusal => rfl
      | ok config =>
          dsimp only
          cases generateFromFiles config schema documents with
          | error failure => rfl
          | ok output => rfl

end Check

/-- What files and a configuration file state: the configuration and the parsed sources. -/
structure Loaded (files : List File) (given : Option (String × File)) (config : Config)
    (schema : Schema) (documents : List Document) : Prop where
  configured : Configured given config
  sources : ∃ text texts, files = .ofText text :: texts.map .ofText ∧
    Schema.ofText text = .ok schema ∧
    List.Forall₂ (fun text document => Document.ofText text = .ok document) texts documents

theorem exists_loaded_of_generateFrom {files : List File} {given : Option (String × File)}
    {output : Output} (generated : generateFrom files given = .ok output) :
    ∃ config schema documents, Loaded files given config schema documents ∧
      output = generate config schema documents := by
  cases files with
  | nil => cases generated
  | cons schema documents =>
      unfold generateFrom at generated
      dsimp only at generated
      cases read : readConfig given with
      | error refusal =>
          rw [read] at generated
          cases generated
      | ok config =>
          rw [read] at generated
          dsimp only at generated
          cases found : generateFromFiles config schema documents with
          | error failure =>
              rw [found] at generated
              cases generated
          | ok fromFiles =>
              rw [found] at generated
              cases generated
              rcases generateFromFiles_eq_ok found with ⟨text, texts, rfl, rfl, viaTexts⟩
              rcases generateFromTexts_eq_ok viaTexts with
                ⟨parsedSchema, parsedDocuments, schemaParsed, documentsParsed, rfl⟩
              exact ⟨config, parsedSchema, parsedDocuments, ⟨readConfig_eq_ok_iff.mp read,
                text, texts, rfl, schemaParsed, documentsParsed⟩, rfl⟩

/-! ## Lines of an output -/

/-- Lines between a first line and one with a closing brace. -/
def block (header : String) (lines : List String) : List String :=
  header :: lines ++ ["\x7d"]

section

variable (config : Config) (schema : Schema) (emitted : List (Record FieldDef))
  (operations : List (Operation VariableDef))

/-- The lines of an output by what they are printed for: the configured scalars, the declared
object types, the emitted ones among the declared input objects, and the operations. -/
def printedLines : List String :=
  let resolver := schema.resolver config
  config.scalars.entries.map scalarLine
    ++ schema.objects.flatMap (fun object => block ("module " ++ object.name ++ " \x7b")
      (object.fields.map fun field => objectFieldLine (resolver.resolveField field)))
    ++ emitted.flatMap (fun input => block ("input " ++ Identifier.typeName input.name ++ " \x7b")
      (input.fields.map fun field => inputFieldLine (resolver.resolveField field)))
    ++ operations.map fun operation =>
      operation.kind.keyword ++ " " ++ Identifier.moduleName operation.name ++ "("
        ++ ", ".intercalate (operation.parameters.map fun parameter =>
          (resolver.resolveVariable parameter).labeledArgument) ++ ")"

/-- How many lines that makes. -/
def lineCount : Nat :=
  config.scalars.entries.length
    + (schema.objects.map fun object => object.fields.length + 2).sum
    + (emitted.map fun input => input.fields.length + 2).sum
    + operations.length

theorem length_block (header : String) (lines : List String) :
    (block header lines).length = lines.length + 2 := by
  unfold block
  rw [List.length_append, List.length_cons, List.length_singleton]

theorem length_printedLines :
    (printedLines config schema emitted operations).length =
      lineCount config schema emitted operations := by
  unfold printedLines lineCount
  simp only [List.length_append, List.length_map, List.length_flatMap, length_block]

end

theorem objectLines_resolveRecord (resolver : Resolver) (object : Record FieldDef) :
    objectLines (resolver.resolveRecord object) = block ("module " ++ object.name ++ " \x7b")
      (object.fields.map fun field => objectFieldLine (resolver.resolveField field)) := by
  unfold objectLines Resolver.resolveRecord block
  rw [List.map_map]
  rfl

theorem inputLines_resolveRecord (resolver : Resolver) (input : Record FieldDef) :
    inputLines (resolver.resolveRecord input) =
      block ("input " ++ Identifier.typeName input.name ++ " \x7b")
        (input.fields.map fun field => inputFieldLine (resolver.resolveField field)) := by
  unfold inputLines Resolver.resolveRecord block
  rw [List.map_map]
  rfl

theorem operationLine_resolveOperation (resolver : Resolver) (operation : Operation VariableDef) :
    operationLine (resolver.resolveOperation operation) =
      operation.kind.keyword ++ " " ++ Identifier.moduleName operation.name ++ "("
        ++ ", ".intercalate (operation.parameters.map fun parameter =>
          (resolver.resolveVariable parameter).labeledArgument) ++ ")" := by
  unfold operationLine Resolver.resolveOperation
  rw [List.map_map]
  rfl

theorem outputLines_generate {config : Config} {schema : Schema} {documents : List Document}
    {emitted : List (Record FieldDef)} (emits : (generate config schema documents).inputs =
      emitted.map (schema.resolver config).resolveRecord) :
    outputLines (generate config schema documents) =
      printedLines config schema emitted (documents.flatMap Document.operations) := by
  unfold outputLines printedLines
  rw [generate_schema_objects, emits, generate_operations, List.flatMap_map, List.flatMap_map,
    List.map_map]
  simp only [objectLines_resolveRecord, inputLines_resolveRecord, Function.comp_def,
    operationLine_resolveOperation]
  rfl

/-! ## Line feeds -/

/-- What is written for some lines: each of them and a line feed. -/
def printedText (lines : List String) : List Char :=
  lines.flatMap fun line => line.toList ++ ['\n']

theorem count_printedText {lines : List String} (single : ∀ line ∈ lines, SingleLine line) :
    (printedText lines).count '\n' = lines.length := by
  induction lines with
  | nil => rfl
  | cons line lines inductionHypothesis =>
      have ⟨first, others⟩ := List.forall_mem_cons.mp single
      have feeds : (line.toList ++ ['\n']).count '\n' = 1 := by
        rw [List.count_append, List.count_eq_zero.mpr first]
        rfl
      have later : (printedText lines).count '\n' = lines.length := inductionHypothesis others
      unfold printedText at later ⊢
      rw [List.flatMap_cons, List.count_append, feeds, later, List.length_cons, Nat.add_comm]

theorem singleLine_of_isName {name : String} (named : Graphql.isName name = true) :
    SingleLine name :=
  fun member => absurd (Graphql.isNamePart_of_mem named _ member) (by decide)

theorem singleLine_of_mem_objects {text : String} {schema : Schema}
    (parsed : Schema.ofText text = .ok schema) :
    ∀ object ∈ schema.objects, SingleLine object.name := by
  intro object member
  rcases List.mem_filterMap.mp member with ⟨definition, declared, kept⟩
  unfold Schema.ofText declarationsOf at parsed
  cases read : Graphql.readSchema text with
  | error position =>
      rw [read] at parsed
      cases parsed
  | ok declarations =>
      rw [read] at parsed
      cases parsed
      have named := Graphql.definitionNamed_of_readSchema read definition declared
      cases definition with
      | object found =>
          cases kept
          exact singleLine_of_isName named.1
      | _ => cases kept

theorem singleLine_of_mem_block {header : String} {lines : List String}
    (first : SingleLine header) (inside : ∀ line ∈ lines, SingleLine line) :
    ∀ line ∈ block header lines, SingleLine line := by
  refine List.forall_mem_append.mpr ⟨List.forall_mem_cons.mpr ⟨first, inside⟩, ?_⟩
  intro line member
  rw [List.mem_singleton.mp member]
  decide

section

variable {field : Descriptor} (single : field.SingleLineTarget)
include single

theorem singleLine_objectFieldLine : SingleLine (objectFieldLine field) := by
  have name := Identifier.singleLine_fieldName field.name
  unfold objectFieldLine
  simp only [singleLine_append]
  exact ⟨⟨⟨⟨⟨by decide, name⟩, by decide⟩, single.accessorType⟩, by decide⟩, single.getterName⟩

theorem singleLine_inputFieldLine : SingleLine (inputFieldLine field) := by
  have name := Identifier.singleLine_fieldName field.name
  unfold inputFieldLine
  simp only [singleLine_append]
  exact ⟨⟨⟨by decide, name⟩, by decide⟩, single.inputFieldType⟩

end

/-- An output has no line feed inside a line if no configured target has one. -/
theorem singleLine_of_mem_printedLines {config : Config} {schema : Schema}
    {emitted : List (Record FieldDef)} {operations : List (Operation VariableDef)}
    (targets : config.SingleLineTargets)
    (names : ∀ object ∈ schema.objects, SingleLine object.name) :
    ∀ line ∈ printedLines config schema emitted operations, SingleLine line := by
  have resolved := singleLineTarget_resolve targets schema
  intro line member
  unfold printedLines at member
  dsimp only at member
  rw [List.mem_append, List.mem_append, List.mem_append] at member
  rcases member with ((inScalars | inObjects) | inInputs) | inOperations
  · rcases List.mem_map.mp inScalars with ⟨entry, listed, rfl⟩
    have name := Identifier.singleLine_typeName entry.1
    unfold scalarLine
    simp only [singleLine_append]
    exact ⟨⟨⟨⟨by decide, name⟩, by decide⟩, targets entry listed⟩, by decide⟩
  · rcases List.mem_flatMap.mp inObjects with ⟨object, declared, inBlock⟩
    refine singleLine_of_mem_block ?_ ?_ line inBlock
    · simp only [singleLine_append]
      exact ⟨⟨by decide, names object declared⟩, by decide⟩
    · intro inner listed
      rcases List.mem_map.mp listed with ⟨field, _, rfl⟩
      exact singleLine_objectFieldLine (resolved field.name field.type)
  · rcases List.mem_flatMap.mp inInputs with ⟨input, _, inBlock⟩
    refine singleLine_of_mem_block ?_ ?_ line inBlock
    · simp only [singleLine_append]
      exact ⟨⟨by decide, Identifier.singleLine_typeName _⟩, by decide⟩
    · intro inner listed
      rcases List.mem_map.mp listed with ⟨field, _, rfl⟩
      exact singleLine_inputFieldLine (resolved field.name field.type)
  · rcases List.mem_map.mp inOperations with ⟨operation, _, rfl⟩
    have keyword : SingleLine operation.kind.keyword := by cases operation.kind <;> decide
    have arguments : SingleLine (", ".intercalate (operation.parameters.map fun parameter =>
        ((schema.resolver config).resolveVariable parameter).labeledArgument)) := by
      refine Text.singleLine_intercalate (by decide) ?_
      intro argument listed
      rcases List.mem_map.mp listed with ⟨parameter, _, rfl⟩
      exact (resolved parameter.name parameter.type).labeledArgument
    simp only [singleLine_append]
    exact ⟨⟨⟨⟨⟨keyword, by decide⟩, Identifier.singleLine_moduleName _⟩, by decide⟩, arguments⟩,
      by decide⟩

/-! ## Runs -/

section

variable {files : List File} {given : Option (String × File)}

theorem run_of_firstFailure {refusal : Refusal}
    (fails : FirstFailure (Check.Fails files given) Check.all refusal) :
    run files given = ⟨1, [], ["Error: " ++ refusal.message]⟩ := by
  have first := Check.fault?_generateFrom files given
  rw [(findSome?_eq_some_iff_firstFailure (Check.fails_iff files given)).mpr fails] at first
  unfold run
  rw [fault?_eq_some_iff.mp first]

/-- A run without a failure prints what the declarations say.  The filter drops input objects
from the resolved ones, so what it keeps is resolved from some of the declared ones, in their
order. -/
theorem run_of_noFailure
    (succeed : ∀ check ∈ Check.all, ∀ refusal, ¬ check.Fails files given refusal) :
    ∃ config schema documents emitted, Loaded files given config schema documents ∧
      emitted.Sublist schema.inputs ∧
      (generate config schema documents).inputs =
        emitted.map (schema.resolver config).resolveRecord ∧
      run files given = ⟨0, printedLines config schema emitted
        (documents.flatMap Document.operations), []⟩ := by
  have first := Check.fault?_generateFrom files given
  rw [(findSome?_eq_none_iff_noFailure (Check.fails_iff files given)).mpr succeed] at first
  rcases fault?_eq_none_iff.mp first with ⟨output, generated⟩
  rcases exists_loaded_of_generateFrom generated with
    ⟨config, schema, documents, loaded, rfl⟩
  have fewer := generate_inputs_sublist config schema documents
  rw [generate_schema_inputs] at fewer
  rcases List.sublist_map_iff.mp fewer with ⟨emitted, sublist, emits⟩
  refine ⟨config, schema, documents, emitted, loaded, sublist, emits, ?_⟩
  unfold run
  rw [generated]
  dsimp only
  rw [outputLines_generate emits]

/-- If no configured target has a line feed, what is printed has as many as it has lines. -/
theorem count_printedText_of_loaded {config : Config} {schema : Schema}
    {documents : List Document} {emitted : List (Record FieldDef)}
    (loaded : Loaded files given config schema documents) (targets : config.SingleLineTargets) :
    (printedText (printedLines config schema emitted
      (documents.flatMap Document.operations))).count '\n' =
        lineCount config schema emitted (documents.flatMap Document.operations) := by
  rcases loaded.sources with ⟨text, texts, _, parsed, _⟩
  rw [count_printedText (singleLine_of_mem_printedLines targets
    (singleLine_of_mem_objects parsed))]
  exact length_printedLines _ _ _ _

end

/-! ## Starting the program -/

theorem decode_eq_ok {argument : ByteArray} {text : String}
    (decoded : String.fromUTF8? argument = some text) : decode argument = .ok text := by
  unfold decode
  rw [decoded]

theorem decode_eq_error {argument : ByteArray} (undecoded : String.fromUTF8? argument = none) :
    decode argument = .error argument := by
  unfold decode
  rw [undecoded]

section

variable {disk : String -> File} {arguments : List ByteArray} {given : Option (String × File)}

theorem start_of_not_unicode
    (undecoded : ∃ argument ∈ arguments, String.fromUTF8? argument = none) :
    ∃ argument, start disk arguments given = .aborted argument := by
  rcases undecoded with ⟨argument, member, undecoded⟩
  have found : ((arguments.findSome? fun argument => fault? (decode argument)).isSome) = true := by
    rw [List.findSome?_isSome_iff]
    exact ⟨argument, member, by rw [decode_eq_error undecoded]; rfl⟩
  rw [← fault?_mapM] at found
  rcases Option.isSome_iff_exists.mp found with ⟨first, refused⟩
  refine ⟨first, ?_⟩
  unfold start
  rw [fault?_eq_some_iff.mp refused]

theorem start_of_unicode {texts : List String} (decoded : List.Forall₂
      (fun argument text => String.fromUTF8? argument = some text) arguments texts) :
    start disk arguments given = .finished (run (texts.tail.map disk) given) := by
  unfold start
  rw [mapM_eq_ok (decoded.imp fun _ _ => decode_eq_ok)]

end

/-- An argument that is not Unicode, be it the name of the program, ends the program with exit
code 101 and without output, whatever is on the disk.  If all arguments are Unicode, those
behind the name of the program give the files of a run.  A run that fails reports its first
failure with exit code 1 and prints nothing.  A run that does not fail exits with code 0 and
prints every line, whatever its references refer to; and if no configured target has a line
feed, what it prints has that many lines. -/
theorem start_prints_everything_or_nothing (disk : String -> File) (arguments : List ByteArray)
    (given : Option (String × File)) :
    let ending := start disk arguments given
    ((∃ argument ∈ arguments, String.fromUTF8? argument = none) ->
      (∃ argument, ending = .aborted argument) ∧ ending.exitCode = 101 ∧ ending.output = []) ∧
    ∀ texts, List.Forall₂ (fun argument text => String.fromUTF8? argument = some text)
        arguments texts ->
      let files := texts.tail.map disk
      (∀ refusal, FirstFailure (Check.Fails files given) Check.all refusal ->
        ending = .finished ⟨1, [], ["Error: " ++ refusal.message]⟩) ∧
      ((∀ check ∈ Check.all, ∀ refusal, ¬ check.Fails files given refusal) ->
        ∃ config schema documents emitted, Loaded files given config schema documents ∧
          emitted.Sublist schema.inputs ∧
          (generate config schema documents).inputs =
            emitted.map (schema.resolver config).resolveRecord ∧
          ending = .finished ⟨0, printedLines config schema emitted
            (documents.flatMap Document.operations), []⟩ ∧
          (config.scalars.entries.Pairwise fun left right => left.1 < right.1) ∧
          ending.output.length =
            lineCount config schema emitted (documents.flatMap Document.operations) ∧
          (config.SingleLineTargets -> (printedText ending.output).count '\n' =
            lineCount config schema emitted (documents.flatMap Document.operations))) := by
  intro ending
  constructor
  · intro undecoded
    obtain ⟨argument, aborted⟩ : ∃ argument, ending = .aborted argument :=
      start_of_not_unicode undecoded
    rw [aborted]
    exact ⟨⟨argument, rfl⟩, rfl, rfl⟩
  · intro texts decoded files
    have finished : ending = .finished (run files given) := start_of_unicode decoded
    constructor
    · intro refusal fails
      rw [finished, run_of_firstFailure fails]
    · intro succeed
      obtain ⟨config, schema, documents, emitted, loaded, sublist, emits, outcome⟩ :=
        run_of_noFailure succeed
      have printed : ending = .finished ⟨0, printedLines config schema emitted
          (documents.flatMap Document.operations), []⟩ := by
        rw [finished, outcome]
      refine ⟨config, schema, documents, emitted, loaded, sublist, emits, printed,
        config.scalars.sorted, ?_, ?_⟩
      · rw [printed]
        exact length_printedLines _ _ _ _
      · intro targets
        rw [printed]
        exact count_printedText_of_loaded loaded targets

/-- With a path that is not Unicode the program neither succeeds nor reports a failure. -/
theorem start_aborts_on_path :
    let ending := start (fun _ => .missing) ["generate".toUTF8, ⟨#[0xFF]⟩] none
    ¬ (ending.exitCode = 0 ∨ ending.exitCode = 1) ∧ ending.output = [] := by
  decide +kernel

/-- A path that is not Unicode stands behind one that is.  A configuration that cannot be read is
reported before a missing schema.  A schema that refers to a type nobody declares is printed all
the same. -/
theorem start_prints_everything_or_nothing_samples :
    let query := File.ofText "type Query \x7b user: User \x7d"
    let disk (path : String) : File := if path = "q" then query else .missing
    let dates := some ("c.json", File.ofText "\x7b\"scalars\": \x7b\"Date\": \"string\"\x7d\x7d")
    let config : Config := ⟨.ofPairs [("Date", "string")], false⟩
    let unreadable := some ("c.json", File.missing)
    let missing := start disk ["generate".toUTF8, "p".toUTF8] unreadable
    let printed := start disk ["generate".toUTF8, "q".toUTF8] dates
    (start disk ["generate".toUTF8, "q".toUTF8, ⟨#[0xFF]⟩] dates).exitCode = 101 ∧
    missing = .finished ⟨1, [], ["Error: reading config c.json"]⟩ ∧
    (generateFromFiles config query []).toOption.map Output.unresolvedReferences =
      some [⟨"Query", "user", "User"⟩] ∧
    config.SingleLineTargets ∧ printed.exitCode = 0 ∧
    ∃ schema documents emitted, Loaded [query] dates config schema documents ∧
      (printedText printed.output).count '\n' =
        lineCount config schema emitted (documents.flatMap Document.operations) := by
  intro query disk dates config unreadable missing printed
  have decoded (text : String) : String.fromUTF8? text.toUTF8 = some text :=
    dif_pos text.isValidUTF8
  have undecoded : String.fromUTF8? ⟨#[0xFF]⟩ = none := by decide +kernel
  have first : FirstFailure (Check.Fails [.missing] unreadable) Check.all
      (.unreadableConfig "c.json") := by
    rw [← findSome?_eq_some_iff_firstFailure (Check.fails_iff _ _)]
    decide +kernel
  have succeed : ∀ check ∈ Check.all, ∀ refusal, ¬ check.Fails [query] dates refusal := by
    rw [← findSome?_eq_none_iff_noFailure (Check.fails_iff _ _)]
    decide +kernel
  have unresolved : (generateFromFiles config query []).toOption.map Output.unresolvedReferences =
      some [⟨"Query", "user", "User"⟩] := by decide +kernel
  have targets : config.SingleLineTargets := by
    unfold Config.SingleLineTargets
    decide +kernel
  obtain ⟨_, exit, _⟩ := (start_prints_everything_or_nothing disk
    ["generate".toUTF8, "q".toUTF8, ⟨#[0xFF]⟩] dates).1 ⟨_, by simp, undecoded⟩
  obtain ⟨refused, _⟩ := (start_prints_everything_or_nothing disk
    ["generate".toUTF8, "p".toUTF8] unreadable).2 ["generate", "p"]
      (.cons (decoded _) (.cons (decoded _) .nil))
  obtain ⟨_, runs⟩ := (start_prints_everything_or_nothing disk
    ["generate".toUTF8, "q".toUTF8] dates).2 ["generate", "q"]
      (.cons (decoded _) (.cons (decoded _) .nil))
  obtain ⟨found, schema, documents, emitted, loaded, _, _, outcome, _, _, counted⟩ := runs succeed
  have accepted : readConfig dates = .ok config := by decide +kernel
  have same : config = found :=
    Except.ok.inj (accepted.symm.trans (readConfig_eq_ok_iff.mpr loaded.configured))
  subst same
  refine ⟨exit, refused _ first, unresolved, targets, ?_, schema, documents, emitted, loaded,
    counted targets⟩
  unfold printed
  rw [outcome]
  rfl

end CommandLine
end SchemaBindings
