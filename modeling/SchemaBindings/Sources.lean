import SchemaBindings.Failure
import SchemaBindings.Generation
import SchemaBindings.Graphql.DocumentText
import SchemaBindings.Graphql.Lowering
import SchemaBindings.Graphql.SchemaText

namespace SchemaBindings

/-!
Generation from source texts and from files.

The schema comes first and the documents follow in order; the first failure ends
the run.  All files are read before any text is looked into.
-/

def declarationsOf (text : String) : Except SourceFault (List Graphql.Declaration) :=
  (Graphql.readSchema text).mapError fun position => ⟨.schema, position⟩

def Schema.ofText (text : String) : Except SourceFault Schema :=
  (declarationsOf text).map Graphql.schemaOf

/-- What reading a schema text reports: the declarations that the schema leaves
out.  A text that cannot be read reports nothing. -/
def Schema.events (text : String) : List Event :=
  match declarationsOf text with
  | .ok declarations => Graphql.skipEvents declarations
  | .error _ => []

def Document.ofText (text : String) : Except SourceFault Document :=
  match Graphql.readDocument text with
  | .ok items => .ok (Graphql.documentOf items)
  | .error position => .error ⟨.document, position⟩

/-- Read a schema text and document texts, in this order. -/
def readSources (schema : String) (documents : List String) :
    Except SourceFault (Schema × List Document) := do
  let schema ← Schema.ofText schema
  let documents ← documents.mapM Document.ofText
  return (schema, documents)

def generateFromTexts (config : Config) (schema : String) (documents : List String) :
    Except Failure Output :=
  match readSources schema documents with
  | .ok (schema, documents) => .ok (generate config schema documents)
  | .error fault => .error (.source fault)

def textsEvents (config : Config) (schema : String) (documents : List String) : List Event :=
  Schema.events schema ++
    match readSources schema documents with
    | .ok (schema, documents) => generateEvents config schema documents
    | .error _ => []

/-! ## Files -/

/-- A file as a run finds it: not there, or with its bytes. -/
inductive File where
  | missing
  | present (bytes : ByteArray)

def File.text : File -> Except FileFailure String
  | missing => .error .missing
  | present bytes =>
      match String.fromUTF8? bytes with
      | some text => .ok text
      | none => .error .notUnicode

/-- The texts of a schema file and of document files, in this order. -/
def readFiles (schema : File) (documents : List File) : Except FileFailure (String × List String) := do
  let schema ← schema.text
  let documents ← documents.mapM File.text
  return (schema, documents)

def generateFromFiles (config : Config) (schema : File) (documents : List File) :
    Except Failure Output :=
  match readFiles schema documents with
  | .ok (schema, documents) => generateFromTexts config schema documents
  | .error failure => .error (.file failure)

def filesEvents (config : Config) (schema : File) (documents : List File) : List Event :=
  match readFiles schema documents with
  | .ok (schema, documents) => textsEvents config schema documents
  | .error _ => []

end SchemaBindings
