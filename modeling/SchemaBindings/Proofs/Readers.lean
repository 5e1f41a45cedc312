import SchemaBindings.Graphql.Reader
import SchemaBindings.Proofs.Sequences

namespace SchemaBindings
namespace Graphql
namespace Reader

/-!
# Steps of readers

A reader is a sequence of steps, each of which takes tokens from the front or looks at the
next one.  What a step does on given tokens is said here once, so that a reader can be
followed over the tokens of a text without opening the steps again.
-/

variable {Item Result : Type}

/-! ## Single tokens -/

theorem expect_cons (lexeme : Lexeme) (left : List Lexeme) :
    expect lexeme (lexeme :: left) = .ok ((), left) :=
  if_pos rfl

theorem takeIf_cons (lexeme : Lexeme) (left : List Lexeme) :
    takeIf lexeme (lexeme :: left) = .ok (true, left) :=
  if_pos rfl

theorem takeIf_of_head?_ne {lexeme : Lexeme} {left : List Lexeme}
    (other : left.head? ≠ some lexeme) : takeIf lexeme left = .ok (false, left) := by
  cases left with
  | nil => rfl
  | cons head left =>
      have different : head ≠ lexeme := fun same => other (congrArg some same)
      exact if_neg different

/-! What a step has taken, if it did not fail. -/

section

variable {lexeme : Lexeme} {left rest : List Lexeme}

theorem expect_eq_ok (read : expect lexeme left = .ok ((), rest)) : left = lexeme :: rest := by
  cases left with
  | nil => cases read
  | cons head left =>
      rw [expect] at read
      split at read
      · next same =>
          cases read
          rw [same]
      · cases read

theorem name_eq_ok {text : String} (read : name left = .ok (text, rest)) :
    left = .name text :: rest := by
  unfold name at read
  split at read
  · cases read
    rfl
  · cases read

theorem takeIf_eq_ok {taken : Bool} (read : takeIf lexeme left = .ok (taken, rest)) :
    (taken = true ∧ left = lexeme :: rest) ∨
      (taken = false ∧ left = rest ∧ left.head? ≠ some lexeme) := by
  cases left with
  | nil =>
      cases read
      exact .inr ⟨rfl, rfl, nofun⟩
  | cons head left =>
      by_cases same : head = lexeme
      · subst same
        rw [takeIf_cons] at read
        cases read
        exact .inl ⟨rfl, rfl⟩
      · have other : (head :: left).head? ≠ some lexeme := fun next => same (Option.some.inj next)
        rw [takeIf_of_head?_ne other] at read
        cases read
        exact .inr ⟨rfl, rfl, other⟩

end

/-! ## Repetitions -/

variable {starts : Lexeme -> Bool} {item : Reader Item}

theorem many_of_not_starts {left : List Lexeme} (stops : left.head?.any starts = false) :
    many starts item left = .ok ([], left) := by
  cases left with
  | nil => rfl
  | cons head left =>
      have other : starts head = false := stops
      have next : nextIs starts (head :: left) = .ok (false, head :: left) :=
        congrArg (fun answer => Except.ok (answer, head :: left)) other
      exact bind_of_eq_ok next

theorem oneOrMore_single {lexemes left : List Lexeme} {result : Item}
    (read : item lexemes = .ok (result, left)) (stops : left.head?.any starts = false) :
    oneOrMore starts item lexemes = .ok ([result], left) := by
  unfold oneOrMore
  rw [bind_of_eq_ok read, bind_of_eq_ok (many_of_not_starts stops)]
  rfl

theorem block_single {opening closing : Char} {lexemes left : List Lexeme} {result : Item}
    (read : item lexemes = .ok (result, .mark closing :: left))
    (stops : starts (.mark closing) = false) :
    block opening closing starts item (.mark opening :: lexemes) = .ok ([result], left) := by
  unfold block
  rw [bind_of_eq_ok (takeIf_cons _ _), if_pos rfl, bind_of_eq_ok (oneOrMore_single read stops),
    bind_of_eq_ok (expect_cons _ _)]
  rfl

/-! ## Whole texts -/

/-- What is read from a text is read from all of its tokens. -/
theorem of_run_eq_ok {reader : Reader Result} {text : String} {result : Result}
    (read : reader.run text = .ok result) :
    reader (Tokens.ofText text).lexemes = .ok (result, []) := by
  unfold Reader.run at read
  dsimp only at read
  split at read
  · next found taken =>
      split at read
      · cases read
        exact taken
      · cases read
  · cases read
  · cases read

end Reader
end Graphql
end SchemaBindings
