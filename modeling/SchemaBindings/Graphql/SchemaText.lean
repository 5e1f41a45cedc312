import SchemaBindings.Graphql.Tree
import SchemaBindings.Graphql.TypeText

namespace SchemaBindings
namespace Graphql

/-!
Schema text and its declarations.

A schema text declares more than bindings are made from.  Interfaces, unions,
directives, extensions and the choice of root types have to be well formed like the
rest.
-/

open Reader

/-! ## Fields -/

/-- The description in front of a declaration, a field or a value. -/
def description : Reader (Option String)
  | .string text :: left => .ok (some text, left)
  | left => .ok (none, left)

/-- Whether something named, perhaps with a description, can start with a
token. -/
def startsNamed (lexeme : Lexeme) : Bool :=
  lexeme.isName || lexeme.isString

/-- An argument of a field or a field of an input object. -/
def inputValue : Reader InputValue := do
  let description ← description
  let name ← name
  expect (.mark ':')
  let type ← type
  defaultValue
  let directives ← directives
  return ⟨description, name, type, directives⟩

/-- The arguments that a field or a directive declares. -/
def argumentDefinitions : Reader (List InputValue) :=
  block '(' ')' startsNamed inputValue

def field : Reader FieldDeclaration := do
  let description ← description
  let name ← name
  let arguments ← argumentDefinitions
  expect (.mark ':')
  let type ← type
  let directives ← directives
  return ⟨description, name, arguments, type, directives⟩

def enumValue : Reader ValueDeclaration := do
  let description ← description
  let name ← name
  let directives ← directives
  return ⟨description, name, directives⟩

def implementedInterfaces : Reader (List String) := do
  if ← takeIf (.name "implements") then separated (.mark '&') name else return []

def unionMembers : Reader (List String) := do
  if ← takeIf (.mark '=') then separated (.mark '|') name else return []

/-! ## Declarations -/

def typeDeclaration (description : Option String) : Reader TypeDeclaration := do
  if ← takeIf (.name "scalar") then
    let name ← name
    let directives ← directives
    return .scalar ⟨description, name, directives⟩
  else if ← takeIf (.name "type") then
    let name ← name
    let interfaces ← implementedInterfaces
    let directives ← directives
    let fields ← block '\x7b' '\x7d' startsNamed field
    return .object ⟨description, name, interfaces, directives, fields⟩
  else if ← takeIf (.name "interface") then
    let name ← name
    let interfaces ← implementedInterfaces
    let directives ← directives
    let fields ← block '\x7b' '\x7d' startsNamed field
    return .interface ⟨description, name, interfaces, directives, fields⟩
  else if ← takeIf (.name "union") then
    let name ← name
    let directives ← directives
    let members ← unionMembers
    return .union ⟨description, name, directives, members⟩
  else if ← takeIf (.name "enum") then
    let name ← name
    let directives ← directives
    let values ← block '\x7b' '\x7d' startsNamed enumValue
    return .enum ⟨description, name, directives, values⟩
  else if ← takeIf (.name "input") then
    let name ← name
    let directives ← directives
    let fields ← block '\x7b' '\x7d' startsNamed inputValue
    return .input ⟨description, name, directives, fields⟩
  else
    fail

def directiveLocations : List String :=
  ["QUERY", "MUTATION", "SUBSCRIPTION", "FIELD", "FRAGMENT_DEFINITION", "FRAGMENT_SPREAD",
    "INLINE_FRAGMENT", "SCHEMA", "SCALAR", "OBJECT", "FIELD_DEFINITION", "ARGUMENT_DEFINITION",
    "INTERFACE", "UNION", "ENUM", "ENUM_VALUE", "INPUT_OBJECT", "INPUT_FIELD_DEFINITION",
    "VARIABLE_DEFINITION"]

def directiveLocation : Reader String := do
  let place ← get
  let location ← name
  if directiveLocations.contains location then return location else failAt place

def directiveDeclaration (description : Option String) : Reader DirectiveDeclaration := do
  expect (.name "directive")
  expect (.mark '@')
  let directive ← name
  let arguments ← argumentDefinitions
  let isRepeatable ← takeIf (.name "repeatable")
  expect (.name "on")
  let locations ←
    if ← nextIs fun lexeme => lexeme.isName || lexeme = .mark '|' then
      separated (.mark '|') directiveLocation
    else
      pure []
  return ⟨description, directive, arguments, isRepeatable, locations⟩

/-- The kinds of operation for which a schema can choose a root type. -/
def rootKinds : List String := ["query", "mutation", "subscription"]

/-- The choice of root types.  A kind that is unknown or chosen twice is a fault of
the whole declaration. -/
def rootsDeclaration : Reader RootsDeclaration := do
  let place ← get
  expect (.name "schema")
  let directives ← directives
  expect (.mark '\x7b')
  let roots ← many Lexeme.isName do
    let kind ← name
    expect (.mark ':')
    let type ← name
    return (kind, type)
  expect (.mark '\x7d')
  let kinds := roots.map Prod.fst
  if kinds.all rootKinds.contains && kinds.Nodup then return ⟨directives, roots⟩
  else failAt place

/-- The extension of a type.  One that adds nothing is a fault of the declaration
that follows the first word. -/
def extensionDeclaration : Reader TypeDeclaration := do
  expect (.name "extend")
  let place ← get
  let added ← typeDeclaration none
  if added.isEmpty then failAt place else return added

def declaration : Reader Declaration := do
  if ← nextIs (· = .name "schema") then Declaration.roots <$> rootsDeclaration
  else if ← nextIs (· = .name "extend") then Declaration.extension <$> extensionDeclaration
  else
    let description ← description
    if ← nextIs (· = .name "directive") then
      Declaration.directive <$> directiveDeclaration description
    else Declaration.type <$> typeDeclaration description

/-- The declarations of a schema text; a fault is reported at its place. -/
def readSchema (text : String) : Except Text.Position (List Declaration) :=
  (Reader.oneOrMore startsNamed declaration).run text

end Graphql
end SchemaBindings
