import SchemaBindings.Config.Reading
import SchemaBindings.Rendering.Shapes
import SchemaBindings.Sources

namespace SchemaBindings
namespace CommandLine

/-!
The command line.

A run prints everything or, if anything fails, nothing but the cause.  References
to unknown types are no failure.  The arguments of the program are bytes; one that is
not Unicode stops the program before there is anything to run.
-/

/-- What a run leaves behind: the exit code and the lines on both outputs. -/
structure Outcome where
  exitCode : Nat
  output : List String
  errors : List String
  deriving DecidableEq

/-- Why a run fails before or during generation. -/
inductive Refusal where
  | usage
  | unreadableConfig (path : String)
  | failure (cause : Failure)
  deriving DecidableEq

def Refusal.message : Refusal -> String
  | usage => "usage: generate <schema.graphql> [documents...]"
  | unreadableConfig path => "reading config " ++ path
  | failure cause => cause.message

/-! ## Printing -/

def scalarLine (entry : String × String) : String :=
  "type " ++ Identifier.typeName entry.1 ++ " = " ++ entry.2 ++ ";"

def objectFieldLine (field : Descriptor) : String :=
  "  " ++ Identifier.fieldName field.name ++ ": " ++ field.accessorType ++ " = " ++ field.getterName

def objectLines (object : Record Descriptor) : List String :=
  ("module " ++ object.name ++ " \x7b") :: object.fields.map objectFieldLine ++ ["\x7d"]

def inputFieldLine (field : Descriptor) : String :=
  "  \"" ++ Identifier.fieldName field.name ++ "\": " ++ field.inputFieldType

def inputLines (input : Record Descriptor) : List String :=
  ("input " ++ Identifier.typeName input.name ++ " \x7b") :: input.fields.map inputFieldLine
    ++ ["\x7d"]

def operationLine (operation : Operation Descriptor) : String :=
  operation.kind.keyword ++ " " ++ Identifier.moduleName operation.name ++ "("
    ++ ", ".intercalate (operation.parameters.map Descriptor.labeledArgument) ++ ")"

def outputLines (output : Output) : List String :=
  output.customScalars.entries.map scalarLine
    ++ output.schema.objects.flatMap objectLines
    ++ output.inputs.flatMap inputLines
    ++ output.operations.map operationLine

/-! ## Running -/

/-- The configuration of a run: the default one, or that of a file at a path. -/
def readConfig : Option (String × File) -> Except Refusal Config
  | none => .ok {}
  | some (path, file) =>
      match file.text with
      | .error _ => .error (.unreadableConfig path)
      | .ok text =>
          match Config.ofText text with
          | .ok config => .ok config
          | .error fault => .error (.failure (.config fault))

/-- Generate from the files that the arguments name, the schema first. -/
def generateFrom (files : List File) (config : Option (String × File)) : Except Refusal Output :=
  match files with
  | [] => .error .usage
  | schema :: documents =>
      match readConfig config with
      | .error refusal => .error refusal
      | .ok config =>
          match generateFromFiles config schema documents with
          | .ok output => .ok output
          | .error failure => .error (.failure failure)

def run (files : List File) (config : Option (String × File)) : Outcome :=
  match generateFrom files config with
  | .ok output => ⟨0, outputLines output, []⟩
  | .error refusal => ⟨1, [], ["Error: " ++ refusal.message]⟩

/-! ## Starting -/

/-- The environment variable that can name a configuration file. -/
def configVariable : String := "GQLSHAPE_CONFIG"

/-- How the program ends: with a run, or by an abort over an argument. -/
inductive Ending where
  | finished (outcome : Outcome)
  | aborted (argument : ByteArray)

namespace Ending

def exitCode : Ending -> Nat
  | finished outcome => outcome.exitCode
  | aborted _ => 101

def output : Ending -> List String
  | finished outcome => outcome.output
  | aborted _ => []

end Ending

/-- An argument as a text, or the argument itself if it is not Unicode. -/
def decode (argument : ByteArray) : Except ByteArray String :=
  match String.fromUTF8? argument with
  | some text => .ok text
  | none => .error argument

/-- Start the program.  All arguments are decoded first.  The first of them is the name of
the program; the others are paths to files on a disk. -/
def start (disk : String -> File) (arguments : List ByteArray) (config : Option (String × File)) :
    Ending :=
  match arguments.mapM decode with
  | .error argument => .aborted argument
  | .ok texts => .finished (run (texts.tail.map disk) config)

end CommandLine
end SchemaBindings
