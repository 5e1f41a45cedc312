import SchemaBindings.Json.Fault
import SchemaBindings.References
import SchemaBindings.Text.Position

namespace SchemaBindings

/-!
Why a run fails, and the words for it.
-/

inductive SourceKind where
  | schema
  | document
  deriving DecidableEq

/-- A source text that does not follow the grammar, and the place of the fault. -/
structure SourceFault where
  kind : SourceKind
  position : Text.Position
  deriving DecidableEq

def SourceFault.message (fault : SourceFault) : String :=
  (match fault.kind with
    | .schema => "schema syntax error: schema parse error: "
    | .document => "document syntax error: query parse error: ")
    ++ "Parse error at " ++ fault.position.display

/-- What can be wrong with a schema: its text, or what it refers to. -/
inductive SchemaFailure where
  | source (fault : SourceFault)
  | unresolved (reference : UnresolvedReference)
  deriving DecidableEq

def SchemaFailure.message : SchemaFailure -> String
  | source fault => "parse error: " ++ fault.message
  | unresolved reference => reference.message

/-- Why the text of a file cannot be had. -/
inductive FileFailure where
  | missing
  | notUnicode
  deriving DecidableEq

def FileFailure.message : FileFailure -> String
  | missing => "No such file or directory (os error 2)"
  | notUnicode => "stream did not contain valid UTF-8"

inductive Failure where
  | source (fault : SourceFault)
  | schema (failure : SchemaFailure)
  | file (failure : FileFailure)
  | config (fault : Json.Fault)
  deriving DecidableEq

def Failure.message : Failure -> String
  | source fault => "schema parse error: " ++ fault.message
  | schema failure => "schema error: " ++ failure.message
  | file failure => "IO error: " ++ failure.message
  | config fault => "invalid configuration: " ++ fault.message

end SchemaBindings
