import SchemaBindings.Proofs.Names

namespace SchemaBindings
namespace Graphql

/-!
# Texts that write given tokens

The scanner of tokens goes from left to right and has to decide where each token ends.  For
texts that consist of names, marks and separators the outcome can be said from the side of
the writer: a name ends where a character follows that no name goes on with, a mark is a token
of its own, a separator is passed over, and a bracket is a token as long as there is room
for it.  A text that is written by these rules is cut into just the tokens that were written.
-/

/-! ## Characters that start a token -/

/-- Whether a character is neither passed over between tokens nor the start of a comment. -/
def startsToken (c : Char) : Bool :=
  !(['\uFEFF', '\r', ' ', ',', '\t', '\n', '#'].contains c)

theorem skipIgnored_of_startsToken {c : Char} (starts : startsToken c = true)
    (position : Text.Position) (text : List Char) :
    skipIgnored false position (c :: text) = (position, c :: text) := by
  simp [startsToken] at starts
  simp [skipIgnored, starts]

theorem startsToken_of_isMark {c : Char} (mark : isMark c = true) : startsToken c = true := by
  have marks : ['!', '$', ':', '=', '@', '|', '&', '(', ')', '[', ']', '\x7b', '\x7d'].all
      startsToken = true := by decide
  exact List.all_eq_true.mp marks c (List.contains_iff_mem.mp mark)

theorem startsToken_of_isNameStart {c : Char} (start : isNameStart c = true) :
    startsToken c = true := by
  have others : ['\uFEFF', '\r', ' ', ',', '\t', '\n', '#'].all (! isNameStart ·) = true := by
    decide
  refine (Bool.not_eq_true' _).mpr (Bool.eq_false_iff.mpr fun listed => ?_)
  have other := List.all_eq_true.mp others c (List.contains_iff_mem.mp listed)
  rw [start] at other
  exact Bool.false_ne_true other

theorem not_isMark_of_isNameStart {c : Char} (start : isNameStart c = true) :
    ¬ isMark c = true := by
  have marks : ['!', '$', ':', '=', '@', '|', '&', '(', ')', '[', ']', '\x7b', '\x7d'].all
      (! isNameStart ·) = true := by decide
  intro mark
  have other := List.all_eq_true.mp marks c (List.contains_iff_mem.mp mark)
  rw [start] at other
  exact Bool.false_ne_true other

/-! ## One step of the scanner -/

section

variable {room left : Nat} {position : Text.Position} {c : Char} {text : List Char}

theorem tokensFrom_of_skipped {next : Text.Position}
    (skipped : skipIgnored false position (c :: text) = skipIgnored false next text) :
    tokensFrom room position (c :: text) = tokensFrom room next text := by
  rw [tokensFrom, tokensFrom, skipped]

theorem tokensFrom_of_scanned {found : Scanned} (starts : startsToken c = true)
    (scanned : scan? c text = some found) (allowed : roomAfter? room found.lexeme = some left) :
    tokensFrom room position (c :: text) =
      let later := tokensFrom left (position.after found.taken) found.rest
      { later with tokens := ⟨position, found.lexeme⟩ :: later.tokens } := by
  have kept := skipIgnored_of_startsToken starts position text
  rw [tokensFrom]
  split
  case h_1 here none =>
    rw [kept] at none
    cases none
  case h_2 here head rest same =>
    rw [kept] at same
    cases same
    split
    case h_1 none =>
      rw [scanned] at none
      cases none
    case h_2 other same =>
      rw [scanned] at same
      cases same
      rw [allowed]

end

/-- What separates tokens and does nothing else. -/
def isSeparator (c : Char) : Bool :=
  [' ', ',', '\n'].contains c

theorem tokensFrom_separator {room : Nat} {position : Text.Position} {c : Char} {text : List Char}
    (separates : isSeparator c = true) :
    ∃ next, tokensFrom room position (c :: text) = tokensFrom room next text := by
  have separators : ∀ c ∈ [' ', ',', '\n'], ∃ next, ∀ text,
      skipIgnored false position (c :: text) = skipIgnored false next text := by
    intro c member
    rw [List.mem_cons, List.mem_cons, List.mem_singleton] at member
    rcases member with rfl | rfl | rfl
    · exact ⟨position.right 1, fun _ => rfl⟩
    · exact ⟨position.right 1, fun _ => rfl⟩
    · exact ⟨position.nextLine, fun _ => rfl⟩
  rcases separators c (List.contains_iff_mem.mp separates) with ⟨next, skipped⟩
  exact ⟨next, tokensFrom_of_skipped (skipped text)⟩

theorem scan?_mark {c : Char} (mark : isMark c = true) (text : List Char) :
    scan? c text = some ⟨.mark c, [c], text⟩ :=
  if_pos mark

theorem scan?_name {first : Char} {letters text : List Char} (start : isNameStart first = true)
    (parts : ∀ c ∈ letters, isNamePart c = true) (ends : text.head?.any isNamePart = false) :
    scan? first (letters ++ text) =
      some ⟨.name (String.ofList (first :: letters)), first :: letters, text⟩ := by
  have ⟨nothing, all⟩ : text.takeWhile isNamePart = [] ∧ text.dropWhile isNamePart = text := by
    cases text with
    | nil => exact ⟨rfl, rfl⟩
    | cons next text =>
        have other : ¬ isNamePart next = true := Bool.eq_false_iff.mp ends
        exact ⟨List.takeWhile_cons_of_neg other, List.dropWhile_cons_of_neg other⟩
  have taken : (letters ++ text).takeWhile isNamePart = letters := by
    rw [List.takeWhile_append_of_pos parts, nothing, List.append_nil]
  have dropped : (letters ++ text).dropWhile isNamePart = text := by
    rw [List.dropWhile_append_of_pos parts, all]
  unfold scan?
  rw [if_neg (not_isMark_of_isNameStart start), if_pos start, taken, dropped]

/-! ## Whole texts -/

/-- A text writes tokens if it spells them one after the other, with a given room for
brackets in front of the first. -/
inductive Writes : Nat -> List Lexeme -> List Char -> Prop
  | finish (room : Nat) : Writes room [] []
  | separator {room : Nat} {lexemes : List Lexeme} {c : Char} {text : List Char}
      (separates : isSeparator c = true) (rest : Writes room lexemes text) :
      Writes room lexemes (c :: text)
  | mark {room left : Nat} {lexemes : List Lexeme} {c : Char} {text : List Char}
      (mark : isMark c = true) (allowed : roomAfter? room (.mark c) = some left)
      (rest : Writes left lexemes text) : Writes room (.mark c :: lexemes) (c :: text)
  | name {room : Nat} {lexemes : List Lexeme} {name : String} {text : List Char}
      (named : isName name = true) (ends : text.head?.any isNamePart = false)
      (rest : Writes room lexemes text) :
      Writes room (.name name :: lexemes) (name.toList ++ text)

namespace Writes

/-- What is written is read, at whatever place it stands. -/
theorem tokens {room : Nat} {lexemes : List Lexeme} {text : List Char}
    (written : Writes room lexemes text) :
    ∀ position, (tokensFrom room position text).lexemes = lexemes ∧
      (tokensFrom room position text).complete = true := by
  induction written with
  | finish room =>
      intro position
      rw [tokensFrom]
      exact ⟨rfl, rfl⟩
  | separator separates rest inductionHypothesis =>
      intro position
      rcases tokensFrom_separator separates with ⟨next, same⟩
      rw [same]
      exact inductionHypothesis next
  | mark mark allowed rest inductionHypothesis =>
      intro position
      rw [tokensFrom_of_scanned (startsToken_of_isMark mark) (scan?_mark mark _) allowed]
      exact ⟨congrArg (List.cons _) (inductionHypothesis _).1, (inductionHypothesis _).2⟩
  | name named ends rest inductionHypothesis =>
      intro position
      rcases exists_cons_of_isName named with ⟨first, letters, rfl, start, parts⟩
      rw [String.toList_ofList, List.cons_append,
        tokensFrom_of_scanned (startsToken_of_isNameStart start) (scan?_name start parts ends) rfl]
      exact ⟨congrArg (List.cons _) (inductionHypothesis _).1, (inductionHypothesis _).2⟩

/-- A reader of the tokens that a text writes reads the text. -/
theorem run_eq {Result : Type} {reader : Reader Result} {result : Result}
    {lexemes : List Lexeme} {text : String} (written : Writes nestingLimit lexemes text.toList)
    (read : reader lexemes = .ok (result, [])) : reader.run text = .ok result := by
  have ⟨cut, complete⟩ := written.tokens Text.Position.start
  unfold Reader.run Tokens.ofText
  dsimp only
  rw [cut, read]
  exact if_pos complete

end Writes

/-! ## Texts in pieces -/

/-- What a text is put together from. -/
inductive Piece where
  | separator (c : Char)
  | mark (c : Char)
  | name (text : String)

namespace Piece

def text : Piece -> List Char
  | separator c => [c]
  | mark c => [c]
  | name text => text.toList

def lexemes : Piece -> List Lexeme
  | separator _ => []
  | mark c => [.mark c]
  | name text => [.name text]

/-- Whether the piece is what it is taken for. -/
def isSound : Piece -> Bool
  | separator c => isSeparator c
  | mark c => isMark c
  | name text => isName text

/-- Whether a name ends in front of the pieces. -/
def endName : List Piece -> Bool
  | separator _ :: _ => true
  | mark _ :: _ => true
  | _ => false

/-- The room for brackets behind the pieces, if there is room for all of them and every name
ends where the next piece starts. -/
def roomBehind? : Nat -> List Piece -> Option Nat
  | room, [] => some room
  | room, separator _ :: pieces => roomBehind? room pieces
  | room, mark c :: pieces =>
      (roomAfter? room (.mark c)).bind fun left => roomBehind? left pieces
  | room, name _ :: pieces => if endName pieces then roomBehind? room pieces else none

theorem not_isNamePart_of_endName {pieces : List Piece}
    (sound : ∀ piece ∈ pieces, piece.isSound = true) (ends : endName pieces = true)
    (rest : List Char) : (pieces.flatMap text ++ rest).head?.any isNamePart = false := by
  have others : [' ', ',', '\n', '!', '$', ':', '=', '@', '|', '&', '(', ')', '[', ']', '\x7b',
      '\x7d'].all (! isNamePart ·) = true := by decide
  have other {c : Char} (listed : c ∈ [' ', ',', '\n', '!', '$', ':', '=', '@', '|', '&', '(', ')',
      '[', ']', '\x7b', '\x7d']) : isNamePart c = false :=
    (Bool.not_eq_true' _).mp (List.all_eq_true.mp others c listed)
  cases pieces with
  | nil => cases ends
  | cons piece pieces =>
      have first := sound piece List.mem_cons_self
      cases piece with
      | separator c =>
          exact other (List.mem_append_left _ (List.contains_iff_mem.mp first))
      | mark c =>
          exact other (List.mem_append_right [' ', ',', '\n'] (List.contains_iff_mem.mp first))
      | name text => cases ends

/-- A text in pieces writes the tokens of its pieces. -/
theorem writes {pieces : List Piece} {left : Nat} {others : List Lexeme} {rest : List Char}
    (sound : ∀ piece ∈ pieces, piece.isSound = true) (written : Writes left others rest) :
    ∀ {room : Nat}, roomBehind? room pieces = some left ->
      Writes room (pieces.flatMap lexemes ++ others) (pieces.flatMap text ++ rest) := by
  induction pieces with
  | nil =>
      intro room fits
      cases fits
      exact written
  | cons piece pieces inductionHypothesis =>
      intro room fits
      have ⟨first, later⟩ := List.forall_mem_cons.mp sound
      cases piece with
      | separator c => exact .separator first (inductionHypothesis later fits)
      | mark c =>
          obtain ⟨after, allowed, fits⟩ := Option.bind_eq_some_iff.mp fits
          exact .mark first allowed (inductionHypothesis later fits)
      | name text =>
          rw [roomBehind?] at fits
          split at fits
          · next ends =>
              rw [List.flatMap_cons, List.flatMap_cons, List.append_assoc, List.append_assoc]
              exact .name first (not_isNamePart_of_endName later ends rest)
                (inductionHypothesis later fits)
          · cases fits

end Piece

end Graphql
end SchemaBindings
