import SchemaBindings.Json.Fault
import SchemaBindings.Text.Blank

namespace SchemaBindings
namespace Json

/-!
Reading JSON text from left to right.

The first fault decides, so nothing behind it is looked at.  A value that nobody
asks for is skipped: it has to be well formed, but the escapes in its strings need
not pair up to characters and its numbers may have any size.
-/

open Text (hexValue? byteCount)

/-- A reader of the front of a text. -/
abbrev Reader (Result : Type) := StateT (List Char) (Except Fault) Result

namespace Reader

def fail (fault : Fault) : Reader Result := throw fault

/-- Whether a character may stand between the parts of a value. -/
def isGap (c : Char) : Bool :=
  c = ' ' || c = '\t' || c = '\n' || c = '\r'

/-- The next character that is no gap, which is not taken. -/
def peek : Reader (Option Char) := fun text =>
  let text := text.dropWhile isGap
  .ok (text.head?, text)

/-- Take the next character, whatever it is. -/
def skip : Reader Unit := modify List.tail

/-! ## Literals and numbers -/

def literal : List Char -> Reader Unit
  | [] => pure ()
  | expected :: others => do
      match ← get with
      | [] => fail (.unfinished .value)
      | c :: text =>
          if c = expected then
            set text
            literal others
          else fail (.malformed .noLiteral)

def isDigit (c : Char) : Bool :=
  '0' ≤ c && c ≤ '9'

/-- One digit or more; `atEnd` is the fault if the text ends instead. -/
def digits (atEnd : Fault) : Reader (List Char) := do
  let text ← get
  let run := text.takeWhile isDigit
  if text.isEmpty then fail atEnd
  else if run.isEmpty then fail (.malformed .badNumber)
  else
    set (text.dropWhile isDigit)
    return run

/-- Take the next character if it is one of some characters. -/
def takeOneOf (choices : List Char) : Reader (Option Char) := do
  match ← get with
  | [] => return none
  | c :: text =>
      if choices.contains c then
        set text
        return some c
      else return none

/-- The digits behind the point, if there is one. -/
def fraction (atEnd : Fault) : Reader (Option (List Char)) := do
  if (← takeOneOf ['.']).isSome then
    let run ← digits atEnd
    return some run
  else return none

/-- Whether the exponent is negative, and its digits, if there is one. -/
def exponent (atEnd : Fault) : Reader (Option (Bool × List Char)) := do
  if (← takeOneOf ['e', 'E']).isSome then
    let sign ← takeOneOf ['+', '-']
    let size ← digits atEnd
    return some (sign == some '-', size)
  else return none

/-- A number after its sign. -/
def numberText (atEnd : Fault) : Reader NumberText := do
  let whole ← digits atEnd
  if whole.head? = some '0' && whole.length != 1 then fail (.malformed .badNumber)
  let fraction ← fraction atEnd
  let exponent ← exponent atEnd
  return ⟨whole, fraction, exponent⟩

/-- The value of a number, after its sign. -/
def number (negative : Bool) : Reader Number := do
  let text ← numberText (.unfinished .value)
  match text.value? negative with
  | some value => return value
  | none => fail (.malformed .numberTooLarge)

/-! ## Strings -/

/-- The character that a letter after a backslash stands for. -/
def escaped? (c : Char) : Option Char :=
  match c with
  | '"' => some '"'
  | '\\' => some '\\'
  | '/' => some '/'
  | 'b' => some '\x08'
  | 'f' => some '\x0c'
  | 'n' => some '\n'
  | 'r' => some '\r'
  | 't' => some '\t'
  | _ => none

/-- The fault of an escape by code that has too little text left for its four
digits. -/
def shortEscape (text : List Char) : Fault :=
  if byteCount text < 4 then .unfinished .string else .malformed .badEscape

/-- The fault of a leading surrogate that no second escape follows. -/
def brokenPair : List Char -> Fault
  | [] => .unfinished .string
  | ['\\'] => .unfinished .string
  | '\\' :: 'u' :: text => shortEscape text
  | _ => .malformed .brokenSurrogatePair

/-- Whether a code is the first of a surrogate pair. -/
def isLeading (code : Nat) : Bool := 0xD800 ≤ code && code ≤ 0xDBFF

/-- Whether a code is the second of a surrogate pair. -/
def isTrailing (code : Nat) : Bool := 0xDC00 ≤ code && code ≤ 0xDFFF

/-- The character of a surrogate pair. -/
def pairCharacter (leading trailing : Nat) : Char :=
  Char.ofNat (0x10000 + (leading - 0xD800) * 0x400 + (trailing - 0xDC00))

/-- The characters of a string after its opening quote, and the text after its
closing one.  Surrogates have to come in pairs only if the string is used. -/
def stringAfter (used : Bool) : List Char -> Except Fault (List Char × List Char)
  | [] => .error (.unfinished .string)
  | '"' :: text => .ok ([], text)
  | '\\' :: 'u' :: first :: second :: third :: fourth :: text =>
      match hexValue? [first, second, third, fourth] with
      | none => .error (.malformed .badEscape)
      | some code =>
          if used && isTrailing code then .error (.malformed .loneSurrogate)
          else if used && isLeading code then
            match text with
            | '\\' :: 'u' :: first :: second :: third :: fourth :: text =>
                match hexValue? [first, second, third, fourth] with
                | none => .error (.malformed .badEscape)
                | some trailing =>
                    if isTrailing trailing then do
                      let (characters, text) ← stringAfter used text
                      return (pairCharacter code trailing :: characters, text)
                    else .error (.malformed .loneSurrogate)
            | text => .error (brokenPair text)
          else do
            let (characters, text) ← stringAfter used text
            return (Char.ofNat code :: characters, text)
  | '\\' :: 'u' :: text => .error (shortEscape text)
  | ['\\'] => .error (.unfinished .string)
  | '\\' :: letter :: text =>
      match escaped? letter with
      | none => .error (.malformed .badEscape)
      | some c => do
          let (characters, text) ← stringAfter used text
          return (c :: characters, text)
  | c :: text =>
      if c.toNat < 0x20 then .error (.malformed .controlCharacter)
      else do
        let (characters, text) ← stringAfter used text
        return (c :: characters, text)

/-- A string after its opening quote. -/
def string (used : Bool) : Reader String := fun text =>
  (stringAfter used text).map fun (characters, text) => (String.ofList characters, text)

/-! ## Values that are skipped -/

/-- Take the colon after the name of a member. -/
def colon : Reader Unit := do
  match ← peek with
  | some ':' => skip
  | some _ => fail (.malformed .noColon)
  | none => fail (.unfinished .object)

/-- Take a value that has no parts, given its first character. -/
def skipAtom (c : Char) : Reader Unit := do
  let _ ←
    if c = 'n' then skip *> literal ['u', 'l', 'l']
    else if c = 't' then skip *> literal ['r', 'u', 'e']
    else if c = 'f' then skip *> literal ['a', 'l', 's', 'e']
    else if c = '-' then skip *> discard (numberText (.malformed .badNumber))
    else if isDigit c then discard (numberText (.malformed .badNumber))
    else if c = '"' then skip *> discard (string false)
    else fail (.malformed .noValue)

mutual

/-- Take a value with less than a given number of parts. -/
def skipValueWithin : Nat -> Reader Unit
  | 0 => fail (.unfinished .value)
  | bound + 1 => do
      match ← peek with
      | none => fail (.unfinished .value)
      | some '[' => do
          skip
          match ← peek with
          | none => fail (.unfinished .list)
          | some ']' => skip
          | some _ => skipItemsWithin bound
      | some '\x7b' => do
          skip
          match ← peek with
          | some '\x7d' => skip
          | _ => skipMembersWithin bound
      | some c => skipAtom c

/-- Take the rest of a list from one of its items on. -/
def skipItemsWithin : Nat -> Reader Unit
  | 0 => fail (.unfinished .list)
  | bound + 1 => do
      skipValueWithin bound
      match ← peek with
      | some ',' => do
          skip
          skipItemsWithin bound
      | some ']' => skip
      | some _ => fail (.malformed .noListEnd)
      | none => fail (.unfinished .list)

/-- Take the rest of an object from one of its members on. -/
def skipMembersWithin : Nat -> Reader Unit
  | 0 => fail (.unfinished .object)
  | bound + 1 => do
      match ← peek with
      | some '"' => do
          skip
          let _ ← string false
          colon
          skipValueWithin bound
          match ← peek with
          | some ',' => do
              skip
              skipMembersWithin bound
          | some '\x7d' => skip
          | some _ => fail (.malformed .noObjectEnd)
          | none => fail (.unfinished .object)
      | some _ => fail (.malformed .keyNoString)
      | none => fail (.unfinished .object)

end

/-- Take a value and forget it.  Each part of a value takes at least one
character, so the text is long enough to count them by. -/
def skipValue : Reader Unit := fun text =>
  skipValueWithin (2 * text.length + 1) text

/-! ## Values that are used -/

/-- What the value at the front is.  A value without parts is read to its end, since
it may be malformed; of a list or an object only the opening bracket is looked
at. -/
def found (c : Char) : Reader Found := do
  if c = 'n' then
    skip
    literal ['u', 'l', 'l']
    return .null
  else if c = 't' then
    skip
    literal ['r', 'u', 'e']
    return .bool true
  else if c = 'f' then
    skip
    literal ['a', 'l', 's', 'e']
    return .bool false
  else if c = '-' then
    skip
    return .number (← number true)
  else if isDigit c then
    return .number (← number false)
  else if c = '"' then
    skip
    return .string (← string true)
  else if c = '[' then return .list
  else if c = '\x7b' then return .object
  else fail (.malformed .noValue)

/-- Fail because the value at the front is not what is expected. -/
def mismatch (c : Char) (expected : Expected) : Reader Result := do
  fail (.mismatch (← found c) expected)

/-- The next character, where a value has to start. -/
def valueStart : Reader Char := do
  match ← peek with
  | some c => return c
  | none => fail (.unfinished .value)

def bool : Reader Bool := do
  let c ← valueStart
  if c = 't' then
    skip
    literal ['r', 'u', 'e']
    return true
  else if c = 'f' then
    skip
    literal ['a', 'l', 's', 'e']
    return false
  else mismatch c .bool

/-- A string in the place of a value. -/
def text : Reader String := do
  let c ← valueStart
  if c = '"' then
    skip
    string true
  else mismatch c .string

/-- The name of the next member of an object that is used, or nothing before the
closing bracket. -/
def nextName (isFirst : Bool) : Reader (Option String) := do
  match ← peek with
  | none => fail (.unfinished .object)
  | some '\x7d' => return none
  | some c =>
      if isFirst then
        if c = '"' then
          skip
          some <$> string true
        else fail (.malformed .keyNoString)
      else if c = ',' then
        skip
        match ← peek with
        | some '"' =>
            skip
            some <$> string true
        | some '\x7d' => fail (.malformed .trailingComma)
        | some _ => fail (.malformed .keyNoString)
        | none => fail (.unfinished .value)
      else fail (.malformed .noObjectEnd)

/-- Whether a list that is used has another item, which is then next. -/
def nextItem (isFirst : Bool) : Reader Bool := do
  match ← peek with
  | none => fail (.unfinished .list)
  | some ']' => return false
  | some c =>
      if isFirst then return true
      else if c = ',' then
        skip
        match ← peek with
        | some ']' => fail (.malformed .trailingComma)
        | some _ => return true
        | none => fail (.unfinished .value)
      else fail (.malformed .noListEnd)

/-- Take the end of a list that has all the items it may have. -/
def listEnd : Reader Unit := do
  match ← peek with
  | some ']' => skip
  | some ',' =>
      skip
      match ← peek with
      | some ']' => fail (.malformed .trailingComma)
      | _ => fail (.malformed .trailingText)
  | some _ => fail (.malformed .trailingText)
  | none => fail (.unfinished .list)

/-- Read the members of an object, at most a given number of them, after its opening
bracket.  `member` is given what has been read so far and the name of the member,
and takes the colon and the value. -/
def membersWithin (member : State -> String -> Reader State) (isFirst : Bool) (state : State) :
    Nat -> Reader State
  | 0 => pure state
  | bound + 1 => do
      match ← nextName isFirst with
      | none =>
          skip
          return state
      | some name =>
          let state ← member state name
          membersWithin member false state bound

/-- Read the members of an object after its opening bracket.  Each takes some
characters of the text, so there are fewer members than characters. -/
def members (member : State -> String -> Reader State) (state : State) : Reader State := fun text =>
  membersWithin member true state (text.length + 1) text

def run (reader : Reader Result) (text : String) : Except Fault Result := do
  let (result, rest) ← reader text.toList
  match rest.dropWhile isGap with
  | [] => return result
  | _ => throw (.malformed .trailingText)

end Reader

end Json
end SchemaBindings
