import SchemaBindings.Json.Number
import SchemaBindings.Text.Quoted

namespace SchemaBindings
namespace Json

/-!
Why a JSON text cannot be read.

A text may end too early, it may be no JSON, or it may be JSON of the wrong form.
-/

/-- What a text that ends too early has left open. -/
inductive Unfinished where
  | value
  | string
  | list
  | object
  deriving DecidableEq

/-- What a text has that is no JSON. -/
inductive Malformed where
  | noValue
  | noLiteral
  | badNumber
  | numberTooLarge
  | noColon
  | noListEnd
  | noObjectEnd
  | keyNoString
  | trailingComma
  | trailingText
  | badEscape
  | controlCharacter
  | loneSurrogate
  | brokenSurrogatePair
  deriving DecidableEq

/-- A value as a message about it tells. -/
inductive Found where
  | null
  | bool (value : Bool)
  | number (value : Number)
  | string (text : String)
  | list
  | object
  deriving DecidableEq

/-- What a reader expects in the place of a value. -/
inductive Expected where
  | configuration
  | object
  | bool
  | string
  deriving DecidableEq

inductive Fault where
  | unfinished (part : Unfinished)
  | malformed (cause : Malformed)
  | mismatch (found : Found) (expected : Expected)
  | duplicate (name : String)
  deriving DecidableEq

inductive Category where
  | unfinished
  | malformed
  | data
  deriving DecidableEq

def Fault.category : Fault -> Category
  | unfinished _ => .unfinished
  | malformed _ => .malformed
  | mismatch _ _ => .data
  | duplicate _ => .data

/-! ## In words -/

def Unfinished.describe : Unfinished -> String
  | value => "EOF while parsing a value"
  | string => "EOF while parsing a string"
  | list => "EOF while parsing a list"
  | object => "EOF while parsing an object"

def Malformed.describe : Malformed -> String
  | noValue => "expected value"
  | noLiteral => "expected ident"
  | badNumber => "invalid number"
  | numberTooLarge => "number out of range"
  | noColon => "expected `:`"
  | noListEnd => "expected `,` or `]`"
  | noObjectEnd => "expected `,` or `\x7d`"
  | keyNoString => "key must be a string"
  | trailingComma => "trailing comma"
  | trailingText => "trailing characters"
  | badEscape => "invalid escape"
  | controlCharacter => "control character (\\u0000-\\u001F) found while parsing a string"
  | loneSurrogate => "lone leading surrogate in hex escape"
  | brokenSurrogatePair => "unexpected end of hex escape"

def Found.describe : Found -> String
  | null => "null"
  | bool value => "boolean `" ++ toString value ++ "`"
  | number value => value.describe
  | string text => "string " ++ Text.quoted text
  | list => "sequence"
  | object => "map"

def Expected.describe : Expected -> String
  | configuration => "struct CodegenConfig"
  | object => "a map"
  | bool => "a boolean"
  | string => "a string"

def Fault.message : Fault -> String
  | unfinished part => part.describe
  | malformed cause => cause.describe
  | mismatch found expected =>
      "invalid type: " ++ found.describe ++ ", expected " ++ expected.describe
  | duplicate name => "duplicate field `" ++ name ++ "`"

end Json
end SchemaBindings
