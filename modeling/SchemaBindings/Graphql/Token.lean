import SchemaBindings.Graphql.Literal
import SchemaBindings.Text.Position

namespace SchemaBindings
namespace Graphql

/-!
Tokens of schema and document text.

A text is cut into tokens up to its end or up to the first place where no token
starts.  What counts as no token depends on the text before it in one way:
brackets nested too deep are none.
-/

open Text

/-- A token without its place.  A number keeps no value, since nothing asks for
it; a string has been decoded. -/
inductive Lexeme where
  | mark (symbol : Char)
  | spread
  | name (text : String)
  | number
  | string (value : String)
  deriving DecidableEq

structure Token where
  position : Position
  lexeme : Lexeme
  deriving DecidableEq

/-- The tokens of a text, where they stop, and whether the text stops there
too. -/
structure Tokens where
  tokens : List Token
  finish : Position
  complete : Bool
  deriving DecidableEq

/-! ## Between tokens -/

/-- Skip what stands between tokens, and inside a comment up to its end.  A byte
order mark and a carriage return take no column, a tab takes eight.  A comment
ends with a carriage return or a line feed, either of which starts a new line; one
that the text ends leaves the place at its first character. -/
def skipIgnored (inComment : Bool) (position : Position) : List Char -> Position × List Char
  | [] => (position, [])
  | c :: rest =>
      if inComment then
        if c = '\r' || c = '\n' then skipIgnored false position.nextLine rest
        else skipIgnored true position rest
      else if c = '\uFEFF' || c = '\r' then skipIgnored false position rest
      else if c = ' ' || c = ',' then skipIgnored false (position.right 1) rest
      else if c = '\t' then skipIgnored false (position.right 8) rest
      else if c = '\n' then skipIgnored false position.nextLine rest
      else if c = '#' then skipIgnored true position rest
      else (position, c :: rest)

theorem skipIgnored_length (text : List Char) :
    ∀ inComment position, (skipIgnored inComment position text).2.length ≤ text.length := by
  induction text with
  | nil => simp [skipIgnored]
  | cons head tail ih =>
      intro inComment position
      unfold skipIgnored
      repeat' split
      all_goals first
        | exact Nat.le_succ_of_le (ih _ _)
        | exact Nat.le_refl _

/-! ## One token -/

/-- Whether a character is a token of its own. -/
def isMark (c : Char) : Bool :=
  ['!', '$', ':', '=', '@', '|', '&', '(', ')', '[', ']', '\x7b', '\x7d'].contains c

def isNameStart (c : Char) : Bool :=
  c = '_' || ('A' ≤ c && c ≤ 'Z') || ('a' ≤ c && c ≤ 'z')

def isNamePart (c : Char) : Bool :=
  isNameStart c || isDigit c

/-- Whether a number can go on with a character, right or wrong. -/
def isNumberPart (c : Char) : Bool :=
  !(isMark c || [' ', '\n', '\r', '\t', ',', '#'].contains c)

/-- The characters of a quoted string up to its closing quote and the text after
it, given whether a backslash stands before them. -/
def quotedBody? (escaped : Bool) : List Char -> Option (List Char × List Char)
  | [] => none
  | c :: rest =>
      if c = '\n' then none
      else if c = '"' && !escaped then some ([], rest)
      else (quotedBody? (c = '\\' && !escaped) rest).map fun found => (c :: found.1, found.2)

/-- The characters of a block string up to its closing quotes and the text after
them, given whether a backslash stands before them. -/
def blockBody? (escaped : Bool) : List Char -> Option (List Char × List Char)
  | [] => none
  | '"' :: '"' :: '"' :: rest =>
      if escaped then
        (blockBody? false rest).map fun found => ('"' :: '"' :: '"' :: found.1, found.2)
      else some ([], rest)
  | c :: rest => (blockBody? (c = '\\') rest).map fun found => (c :: found.1, found.2)

/-- A token at the front of a text: the token, its characters, the rest. -/
structure Scanned where
  lexeme : Lexeme
  taken : List Char
  rest : List Char

/-- The string whose opening quote has been read. -/
def scanString? (rest : List Char) : Option Scanned :=
  match rest with
  | '"' :: '"' :: body =>
      (blockBody? false body).map fun (inside, rest) =>
        let quotes := ['"', '"', '"']
        ⟨.string (String.ofList (blockValue inside)), quotes ++ inside ++ quotes, rest⟩
  | _ => do
      let (inside, rest) ← quotedBody? false rest
      let value ← unescape? inside
      return ⟨.string (String.ofList value), '"' :: inside ++ ['"'], rest⟩

/-- The token that a text starts with; `none` if no token starts there. -/
def scan? (c : Char) (rest : List Char) : Option Scanned :=
  if isMark c then some ⟨.mark c, [c], rest⟩
  else if isNameStart c then
    let name := c :: rest.takeWhile isNamePart
    some ⟨.name (String.ofList name), name, rest.dropWhile isNamePart⟩
  else if c = '-' || isDigit c then
    let number := c :: rest.takeWhile isNumberPart
    if isNumber number then some ⟨.number, number, rest.dropWhile isNumberPart⟩ else none
  else if c = '"' then scanString? rest
  else
    match c, rest with
    | '.', '.' :: '.' :: rest => some ⟨.spread, ['.', '.', '.'], rest⟩
    | _, _ => none

theorem quotedBody?_length {text inside rest : List Char} :
    ∀ {escaped}, quotedBody? escaped text = some (inside, rest) -> rest.length ≤ text.length := by
  induction text generalizing inside with
  | nil => simp [quotedBody?]
  | cons head tail ih =>
      intro escaped found
      unfold quotedBody? at found
      split at found
      · simp at found
      · split at found
        · simp only [Option.some.injEq, Prod.mk.injEq] at found
          simp [← found.2]
        · obtain ⟨⟨body, others⟩, deeper, same⟩ := Option.map_eq_some_iff.mp found
          simp only [Prod.mk.injEq] at same
          exact Nat.le_succ_of_le (ih (same.2 ▸ deeper))

theorem blockBody?_length {text inside rest : List Char} {escaped : Bool}
    (found : blockBody? escaped text = some (inside, rest)) : rest.length ≤ text.length := by
  fun_induction blockBody? escaped text generalizing inside with
  | case1 => simp at found
  | case2 tail ih =>
      obtain ⟨⟨body, others⟩, deeper, same⟩ := Option.map_eq_some_iff.mp found
      simp only [Prod.mk.injEq] at same
      have bound := ih (same.2 ▸ deeper)
      simp only [List.length_cons]
      omega
  | case3 tail =>
      simp only [Option.some.injEq, Prod.mk.injEq] at found
      simp only [← found.2, List.length_cons]
      omega
  | case4 _ head tail _ ih =>
      obtain ⟨⟨body, others⟩, deeper, same⟩ := Option.map_eq_some_iff.mp found
      simp only [Prod.mk.injEq] at same
      exact Nat.le_succ_of_le (ih (same.2 ▸ deeper))

theorem scanString?_length {text : List Char} {scanned : Scanned}
    (found : scanString? text = some scanned) : scanned.rest.length ≤ text.length := by
  unfold scanString? at found
  split at found
  · obtain ⟨⟨inside, others⟩, block, same⟩ := Option.map_eq_some_iff.mp found
    have bound := blockBody?_length block
    simp only [← same, List.length_cons]
    omega
  · simp only [bind, Option.bind_eq_some_iff] at found
    obtain ⟨⟨inside, others⟩, quoted, value, _, same⟩ := found
    simp only [Option.pure_def, Option.some.injEq] at same
    simpa [← same] using quotedBody?_length quoted

theorem length_dropWhile_le (test : Char -> Bool) (text : List Char) :
    (text.dropWhile test).length ≤ text.length :=
  (List.dropWhile_sublist test).length_le

theorem scan?_length {c : Char} {text : List Char} {scanned : Scanned}
    (found : scan? c text = some scanned) : scanned.rest.length ≤ text.length := by
  unfold scan? at found
  split at found
  · cases found
    exact Nat.le_refl _
  · split at found
    · cases found
      exact length_dropWhile_le _ _
    · split at found
      · dsimp only at found
        split at found
        · cases found
          exact length_dropWhile_le _ _
        · cases found
      · split at found
        · exact scanString?_length found
        · split at found
          · cases found
            exact Nat.le_trans (Nat.le_succ _) (Nat.le_succ _)
          · cases found

/-! ## All tokens -/

/-- How many brackets may be open at once. -/
def nestingLimit : Nat := 50

/-- The room for further brackets after a token; `none` if the token is a
bracket for which there is no room.  A closing bracket makes room, also one that
closes nothing. -/
def roomAfter? (room : Nat) : Lexeme -> Option Nat
  | .mark symbol =>
      if ['(', '[', '\x7b'].contains symbol then
        match room with
        | 0 => none
        | room + 1 => some room
      else if [')', ']', '\x7d'].contains symbol then some (room + 1)
      else some room
  | _ => some room

/-- The tokens of a text that starts at a given place. -/
def tokensFrom (room : Nat) (position : Position) (text : List Char) : Tokens :=
  match _skipped : skipIgnored false position text with
  | (here, []) => ⟨[], here, true⟩
  | (here, c :: rest) =>
      match _scanned : scan? c rest with
      | none => ⟨[], here, false⟩
      | some found =>
          match roomAfter? room found.lexeme with
          | none => ⟨[], here, false⟩
          | some room =>
              let later := tokensFrom room (here.after found.taken) found.rest
              { later with tokens := ⟨here, found.lexeme⟩ :: later.tokens }
termination_by text.length
decreasing_by
  have shorter := skipIgnored_length text false position
  have rest := scan?_length _scanned
  simp only [_skipped, List.length_cons] at shorter
  omega

def Tokens.ofText (text : String) : Tokens :=
  tokensFrom nestingLimit Position.start text.toList

def Tokens.lexemes (tokens : Tokens) : List Lexeme :=
  tokens.tokens.map Token.lexeme

/-- The place of the first of the last tokens, or where the tokens stop if no
tokens are left. -/
def Tokens.positionBefore (tokens : Tokens) (left : Nat) : Position :=
  match tokens.tokens.drop (tokens.tokens.length - left) with
  | [] => tokens.finish
  | token :: _ => token.position

end Graphql
end SchemaBindings
