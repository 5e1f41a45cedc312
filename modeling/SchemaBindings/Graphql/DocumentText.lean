import SchemaBindings.Graphql.Tree
import SchemaBindings.Graphql.TypeText

namespace SchemaBindings
namespace Graphql

/-!
Document text: operations and fragments.

What an operation or a fragment selects has to be well formed and is then
forgotten.
-/

open Reader

/-! ## Selections -/

def startsSelection (lexeme : Lexeme) : Bool :=
  lexeme.isName || lexeme = .spread

/-- A list of selections in brackets nested less deep than a number. -/
def selectionsWithin : Nat -> Reader Unit
  | 0 => fail
  | depth + 1 => do
      expect (.mark '\x7b')
      let _ ← oneOrMore startsSelection do
        if ← takeIf .spread then
          if ← takeIf (.name "on") then
            let _ ← name
            let _ ← directives
            selectionsWithin depth
          else if ← nextIs Lexeme.isName then
            let _ ← name
            let _ ← directives
          else
            let _ ← directives
            selectionsWithin depth
        else
          let _ ← name
          if ← takeIf (.mark ':') then
            let _ ← name
          arguments
          let _ ← directives
          if ← nextIs (· = .mark '\x7b') then selectionsWithin depth
      expect (.mark '\x7d')

def selections : Reader Unit :=
  selectionsWithin (nestingLimit + 1)

/-! ## Operations and fragments -/

def variableDefinition : Reader VariableDeclaration := do
  expect (.mark '$')
  let name ← name
  expect (.mark ':')
  let type ← type
  defaultValue
  return ⟨name, type⟩

/-- An operation behind the word for its kind. -/
def operationHead : Reader OperationHead := do
  let name ←
    if ← nextIs Lexeme.isName then some <$> name else pure none
  let parameters ← block '(' ')' (· = .mark '$') variableDefinition
  let directives ← directives
  selections
  return ⟨name, parameters, directives⟩

def fragmentDeclaration : Reader FragmentDeclaration := do
  expect (.name "fragment")
  let fragment ← name
  expect (.name "on")
  let condition ← name
  let directives ← directives
  selections
  return ⟨fragment, condition, directives⟩

/-- An item of a document: bare selections, an operation of some kind, or a
fragment. -/
def executable : Reader Executable := do
  if ← nextIs (· = .mark '\x7b') then
    selections
    return .operation .selections
  else if ← takeIf (.name "query") then
    return .operation (.query (← operationHead))
  else if ← takeIf (.name "mutation") then
    return .operation (.mutation (← operationHead))
  else if ← takeIf (.name "subscription") then
    return .operation (.subscription (← operationHead))
  else
    Executable.fragment <$> fragmentDeclaration

def startsExecutable (lexeme : Lexeme) : Bool :=
  lexeme.isName || lexeme = .mark '\x7b'

/-- The items of a document text; a fault is reported at its place. -/
def readDocument (text : String) : Except Text.Position (List Executable) :=
  (Reader.oneOrMore startsExecutable executable).run text

end Graphql
end SchemaBindings
