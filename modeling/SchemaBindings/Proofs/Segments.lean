import Mathlib.Data.List.Forall2
import SchemaBindings.Proofs.Readers
import SchemaBindings.Proofs.WrittenTokens

namespace SchemaBindings
namespace Graphql
namespace Reader

/-!
# Repeated items

A reader of repeated items goes on as long as the next token can start another item, and an item
may end only where the token behind it shows that it does not go on.  So what an item is read
from depends on what follows.  A segment is a list of tokens from which an item is read in front
of all tokens of a kind, and whose own first token is of this kind.  Segments can then stand one
behind another in any number: each shows where the one before it ends.
-/

variable {Item : Type} {item : Reader Item} {starts follows : Lexeme -> Bool}

/-- Tokens from which an item is read, whatever follows of those that may follow. -/
structure Segment (item : Reader Item) (starts follows : Lexeme -> Bool) (lexemes : List Lexeme)
    (result : Item) : Prop where
  opens : ∃ first rest, lexemes = first :: rest ∧ starts first = true ∧ follows first = true
  read : ∀ left, left.head?.all follows = true -> item (lexemes ++ left) = .ok (result, left)

namespace Segment

variable {segments : List (List Lexeme)} {results : List Item} {left : List Lexeme}

theorem length_le (each : List.Forall₂ (Segment item starts follows) segments results) :
    segments.length ≤ segments.flatten.length := by
  induction each with
  | nil => exact Nat.le_refl 0
  | @cons lexemes result segments results segment _ inductionHypothesis =>
      rcases segment.opens with ⟨first, rest, rfl, _⟩
      simp only [List.flatten_cons, List.length_append, List.length_cons]
      omega

/-- The tokens behind a segment may follow it, whether they are another segment or not. -/
theorem head?_all (each : List.Forall₂ (Segment item starts follows) segments results)
    (ends : left.head?.all follows = true) :
    (segments.flatten ++ left).head?.all follows = true := by
  cases each with
  | nil => exact ends
  | cons segment _ =>
      rcases segment.opens with ⟨first, rest, rfl, _, may⟩
      exact may

section

variable (each : List.Forall₂ (Segment item starts follows) segments results)
  (ends : left.head?.all follows = true) (stops : left.head?.any starts = false)
include each ends stops

theorem upTo : ∀ {bound : List Lexeme}, segments.length ≤ bound.length ->
    Reader.upTo starts item bound (segments.flatten ++ left) = .ok (results, left) := by
  induction each with
  | nil =>
      intro bound _
      cases bound with
      | nil => rfl
      | cons _ bound =>
          have next : nextIs starts left = .ok (false, left) :=
            congrArg (fun answer => Except.ok (answer, left)) stops
          exact bind_of_eq_ok next
  | @cons lexemes result segments results segment others inductionHypothesis =>
      intro bound within
      cases bound with
      | nil => exact absurd within (Nat.not_succ_le_zero _)
      | cons _ bound =>
          have next : nextIs starts ((lexemes :: segments).flatten ++ left) =
              .ok (true, (lexemes :: segments).flatten ++ left) := by
            rcases segment.opens with ⟨first, rest, rfl, opening, _⟩
            exact congrArg (fun answer => Except.ok (answer, _)) opening
          have later := inductionHypothesis (Nat.le_of_succ_le_succ within)
          rw [Reader.upTo, bind_of_eq_ok next, if_pos rfl, List.flatten_cons, List.append_assoc,
            bind_of_eq_ok (segment.read _ (head?_all others ends)), bind_of_eq_ok later]
          rfl

/-- As many items are read as there are segments. -/
theorem many : Reader.many starts item (segments.flatten ++ left) = .ok (results, left) := by
  refine upTo each ends stops ?_
  rw [List.length_append]
  exact Nat.le_add_right_of_le (length_le each)

theorem oneOrMore (nonempty : segments ≠ []) :
    Reader.oneOrMore starts item (segments.flatten ++ left) = .ok (results, left) := by
  cases each with
  | nil => exact absurd rfl nonempty
  | cons segment others =>
      unfold Reader.oneOrMore
      rw [List.flatten_cons, List.append_assoc,
        bind_of_eq_ok (segment.read _ (head?_all others ends)),
        bind_of_eq_ok (many others ends stops)]
      rfl

end

theorem block {opening closing : Char}
    (each : List.Forall₂ (Segment item starts follows) segments results)
    (ends : follows (.mark closing) = true) (stops : starts (.mark closing) = false)
    (nonempty : segments ≠ []) :
    Reader.block opening closing starts item
      (.mark opening :: (segments.flatten ++ .mark closing :: left)) = .ok (results, left) := by
  have inside : Reader.oneOrMore starts item (segments.flatten ++ .mark closing :: left) =
      .ok (results, .mark closing :: left) := oneOrMore each ends stops nonempty
  unfold Reader.block
  rw [bind_of_eq_ok (takeIf_cons _ _), if_pos rfl, bind_of_eq_ok inside,
    bind_of_eq_ok (expect_cons _ _)]
  rfl

end Segment

/-! ## Texts of segments -/

/-- A text that writes a segment wherever it stands in a longer text.  It has to end with what
separates tokens or with a mark, since the end of a name would depend on what follows. -/
structure Chunk (item : Reader Item) (starts : Lexeme -> Bool) (text : String) (result : Item) :
    Prop where
  exists_segment : ∃ lexemes, Segment item starts starts lexemes result ∧
    ∀ {others : List Lexeme} {rest : List Char}, Writes nestingLimit others rest ->
      Writes nestingLimit (lexemes ++ others) (text.toList ++ rest)

namespace Chunk

variable {texts : List String} {results : List Item}

/-- A text in pieces is a chunk if the tokens of its pieces are a segment. -/
theorem of_pieces {text : String} {result : Item} {pieces : List Piece}
    (spelled : text.toList = pieces.flatMap Piece.text)
    (sound : ∀ piece ∈ pieces, piece.isSound = true)
    (fits : Piece.roomBehind? nestingLimit pieces = some nestingLimit)
    (segment : Segment item starts starts (pieces.flatMap Piece.lexemes) result) :
    Chunk item starts text result := by
  refine ⟨pieces.flatMap Piece.lexemes, segment, fun written => ?_⟩
  rw [spelled]
  exact Piece.writes sound written fits

theorem exists_segments (each : List.Forall₂ (Chunk item starts) texts results) :
    ∃ segments, List.Forall₂ (Segment item starts starts) segments results ∧
      Writes nestingLimit segments.flatten (String.join texts).toList := by
  induction each with
  | nil => exact ⟨[], .nil, .finish nestingLimit⟩
  | cons first _ inductionHypothesis =>
      obtain ⟨lexemes, segment, writes⟩ := first.exists_segment
      obtain ⟨segments, others, written⟩ := inductionHypothesis
      refine ⟨lexemes :: segments, .cons segment others, ?_⟩
      rw [String.join_cons, String.toList_append, List.flatten_cons]
      exact writes written

/-- From texts one behind another the items of all of them are read. -/
theorem run_join (each : List.Forall₂ (Chunk item starts) texts results) (nonempty : texts ≠ []) :
    (Reader.oneOrMore starts item).run (String.join texts) = .ok results := by
  obtain ⟨segments, others, written⟩ := exists_segments each
  have first : segments ≠ [] := by
    rintro rfl
    cases others
    cases each
    exact nonempty rfl
  have read : Reader.oneOrMore starts item (segments.flatten ++ []) = .ok (results, []) :=
    Segment.oneOrMore others rfl rfl first
  rw [List.append_nil] at read
  exact written.run_eq read

end Chunk

end Reader
end Graphql
end SchemaBindings
