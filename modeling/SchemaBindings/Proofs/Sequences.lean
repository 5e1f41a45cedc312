namespace SchemaBindings

/-!
# Sequences of readers

A reader takes something from the front of what is left, or it fails.  The readers of
tokens and the readers of JSON text differ in what they take and in how they fail, and a
sequence of two readers works in the same way for both.
-/

variable {Left Fault First Next : Type}

/-- A sequence of two readers succeeds just if the first does and the second does on what
the first leaves. -/
theorem bind_eq_ok_iff {reader : StateT Left (Except Fault) First}
    {next : First -> StateT Left (Except Fault) Next} {left rest : Left} {result : Next} :
    (reader >>= next) left = .ok (result, rest) ↔
      ∃ value middle, reader left = .ok (value, middle) ∧
        next value middle = .ok (result, rest) := by
  change (reader left >>= fun found => next found.1 found.2) = _ ↔ _
  cases reader left with
  | error fault =>
      constructor
      · intro same
        cases same
      · rintro ⟨_, _, same, _⟩
        cases same
  | ok found =>
      constructor
      · exact fun same => ⟨found.1, found.2, rfl, same⟩
      · rintro ⟨value, middle, same, read⟩
        cases same
        exact read

/-- A sequence goes on with what its first reader finds. -/
theorem bind_of_eq_ok {reader : StateT Left (Except Fault) First}
    {next : First -> StateT Left (Except Fault) Next} {left middle : Left} {value : First}
    (read : reader left = .ok (value, middle)) : (reader >>= next) left = next value middle := by
  change (reader left >>= fun found => next found.1 found.2) = _
  rw [read]
  rfl

/-- A sequence whose first reader, if it does not fail, leaves the same whatever it finds. -/
theorem bind_of_eq_map {reader : StateT Left (Except Fault) First}
    {next : First -> StateT Left (Except Fault) Next} {left middle : Left}
    {found : Except Fault First} (read : reader left = (fun value => (value, middle)) <$> found) :
    (reader >>= next) left = found >>= fun value => next value middle := by
  change (reader left >>= fun found => next found.1 found.2) = _
  rw [read]
  cases found with
  | error fault => rfl
  | ok value => rfl

theorem map_of_eq_ok {reader : StateT Left (Except Fault) First} {function : First -> Next}
    {left rest : Left} {value : First} (read : reader left = .ok (value, rest)) :
    (function <$> reader) left = .ok (function value, rest) := by
  rw [← bind_pure_comp]
  exact bind_of_eq_ok read

end SchemaBindings
