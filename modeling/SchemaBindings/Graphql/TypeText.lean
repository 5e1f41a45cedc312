import SchemaBindings.Graphql.Reader
import SchemaBindings.Graphql.Tree

namespace SchemaBindings
namespace Graphql

/-!
The parts of the grammar that schemas and documents share: types, values and
directives.

Nesting is bounded by the brackets that a text may have open, so each reader that
calls itself counts down from that limit.  Values and directives are read only to
find their end.
-/

open Reader

/-! ## Types -/

/-- A type with brackets nested less deep than a number. -/
def typeWithin : Nat -> Reader WrittenType
  | 0 => fail
  | depth + 1 => do
      let type ←
        if ← takeIf (.mark '[') then
          let inner ← typeWithin depth
          expect (.mark ']')
          pure (WrittenType.list inner)
        else
          WrittenType.named <$> name
      if ← takeIf (.mark '!') then return .nonNull type else return type

def type : Reader WrittenType :=
  typeWithin (nestingLimit + 1)

/-! ## Values -/

/-- Whether a value can start with a token.  A constant cannot be a variable. -/
def startsValue (constant : Bool) : Lexeme -> Bool
  | .mark symbol => symbol = '[' || symbol = '\x7b' || (symbol = '$' && !constant)
  | .spread => false
  | _ => true

/-- A value with brackets nested less deep than a number. -/
def valueWithin (constant : Bool) : Nat -> Reader Unit
  | 0 => fail
  | depth + 1 => do
      if !(← nextIs (startsValue constant)) then fail
      else if ← takeIf (.mark '$') then
        let _ ← name
      else if ← takeIf (.mark '[') then
        let _ ← many (startsValue constant) (valueWithin constant depth)
        expect (.mark ']')
      else if ← takeIf (.mark '\x7b') then
        let _ ← many Lexeme.isName do
          let _ ← name
          expect (.mark ':')
          valueWithin constant depth
        expect (.mark '\x7d')
      else
        skip

/-- A value, which may mention variables unless it has to be constant. -/
def value (constant : Bool) : Reader Unit :=
  valueWithin constant (nestingLimit + 1)

def defaultValue : Reader Unit := do
  if ← takeIf (.mark '=') then value true

/-! ## Directives -/

def arguments : Reader Unit := do
  let _ ← block '(' ')' Lexeme.isName do
    let _ ← name
    expect (.mark ':')
    value false

def directives : Reader (List String) :=
  behindEach (.mark '@') do
    let directive ← name
    arguments
    return directive

end Graphql
end SchemaBindings
