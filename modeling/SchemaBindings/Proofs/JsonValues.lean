import SchemaBindings.Proofs.JsonNumbers

namespace SchemaBindings
namespace Json

/-!
# Written values are skipped

A reader that does not want a value skips it.  Skipping follows the value part by part and is
given a number of parts that it may meet; a written value has no more parts than characters.
So each written value, however deep, is skipped to its end and no farther.

The first character of a written value decides how it is skipped, and for a value that is
used it decides whether the reader gets what it wants.  `Starts` says what can be told from
it.
-/

namespace Reader

/-! ## First characters -/

/-- The first character of a written value is no gap and tells what kind of value it is. -/
structure Starts (value : Json) (c : Char) : Prop where
  visible : isGap c = false
  noEnd : c ≠ ']'
  bool_of : c = 't' ∨ c = 'f' -> ∃ flag, value = .bool flag
  string_of : c = '"' -> ∃ text, value = .string text
  object_of : c = '\x7b' -> ∃ members, value = .object members

theorem toList_write_list (items : List Json) :
    (write (.list items)).toList = '[' :: ((writeItems items).toList ++ [']']) := by
  simp [write]

theorem starts_digit (numeral : Numeral) {c : Char} (digit : isDigit c = true) :
    Starts (.number numeral) c where
  visible := isGap_of_isDigit digit
  noEnd := ne_of_isDigit digit _ rfl
  bool_of letter :=
    absurd letter (not_or.mpr ⟨ne_of_isDigit digit _ rfl, ne_of_isDigit digit _ rfl⟩)
  string_of quote := absurd quote (ne_of_isDigit digit _ rfl)
  object_of bracket := absurd bracket (ne_of_isDigit digit _ rfl)

theorem exists_starts (value : Json) :
    ∃ c text, value.write.toList = c :: text ∧ Starts value c := by
  cases value with
  | null => exact ⟨'n', _, toList_write_null, by constructor <;> simp [isGap]⟩
  | bool flag =>
      cases flag with
      | true => exact ⟨'t', _, toList_write_true, by constructor <;> simp [isGap]⟩
      | false => exact ⟨'f', _, toList_write_false, by constructor <;> simp [isGap]⟩
  | number numeral =>
      rw [write, numeral.toList_write]
      by_cases negative : numeral.negative = true
      · rw [if_pos negative]
        exact ⟨'-', _, rfl, by constructor <;> simp [isGap]⟩
      · rcases numeral.exists_cons_unsignedText with ⟨c, text, spelled, digit⟩
        rw [if_neg negative, spelled]
        exact ⟨c, _, rfl, starts_digit numeral digit⟩
  | string text =>
      rw [write, toList_quoted]
      exact ⟨'"', _, rfl, by constructor <;> simp [isGap]⟩
  | list items =>
      exact ⟨'[', _, toList_write_list items, by constructor <;> simp [isGap]⟩
  | object members =>
      exact ⟨'\x7b', _, toList_write_object members, by constructor <;> simp [isGap]⟩

/-! ## Values that are skipped -/

/-- The text of the items that follow another one. -/
def laterItems (items : List Json) : List Char :=
  items.flatMap fun item => ',' :: item.write.toList

theorem toList_writeItems_cons (item : Json) (items : List Json) :
    (writeItems (item :: items)).toList = item.write.toList ++ laterItems items := by
  induction items generalizing item with
  | nil => simp [writeItems, laterItems]
  | cons next items inductionHypothesis =>
      have later := inductionHypothesis next
      simp [writeItems, laterItems, later]

theorem laterItems_cons (item : Json) (items : List Json) :
    laterItems (item :: items) = ',' :: (item.write.toList ++ laterItems items) :=
  rfl

theorem endsNumber_laterItems (items : List Json) (rest : List Char) :
    EndsNumber (laterItems items ++ ']' :: rest) := by
  cases items with
  | nil =>
      rintro c (_ | _)
      decide
  | cons item items =>
      rintro c (_ | _)
      decide

theorem endsNumber_laterText (entries : List (String × Json)) (rest : List Char) :
    EndsNumber (laterText entries ++ '\x7d' :: rest) := by
  cases entries with
  | nil =>
      rintro c (_ | _)
      decide
  | cons entry entries =>
      rintro c (_ | _)
      decide

theorem discard_of_eq_ok {Result : Type} {reader : Reader Result} {left rest : List Char}
    {value : Result} (read : reader left = .ok (value, rest)) :
    (discard reader : Reader Unit) left = .ok ((), rest) :=
  map_of_eq_ok read

/-- A value without parts is skipped whatever is left for its parts. -/
theorem skipValueWithin_atom {c : Char} {text rest : List Char} (visible : isGap c = false)
    (noList : c ≠ '[') (noObject : c ≠ '\x7b')
    (skipped : skipAtom c (c :: text) = .ok ((), rest)) (bound : Nat) :
    skipValueWithin (bound + 1) (c :: text) = .ok ((), rest) := by
  rw [skipValueWithin, bind_of_eq_ok (peek_cons visible text)]
  generalize same : some c = next
  split
  case h_1 => contradiction
  case h_2 => exact absurd (Option.some.inj same) noList
  case h_3 => exact absurd (Option.some.inj same) noObject
  case h_4 => exact Option.some.inj same ▸ skipped

theorem skipValueWithin_null (bound : Nat) (rest : List Char) :
    skipValueWithin (bound + 1) ((write .null).toList ++ rest) = .ok ((), rest) := by
  rw [toList_write_null, List.cons_append]
  apply skipValueWithin_atom rfl (by decide) (by decide)
  unfold skipAtom
  rw [if_pos rfl]
  exact bind_of_eq_ok (literal_append _ rest)

theorem skipValueWithin_bool (value : Bool) (bound : Nat) (rest : List Char) :
    skipValueWithin (bound + 1) ((write (.bool value)).toList ++ rest) = .ok ((), rest) := by
  cases value with
  | true =>
      rw [toList_write_true, List.cons_append]
      apply skipValueWithin_atom rfl (by decide) (by decide)
      unfold skipAtom
      rw [if_neg (by decide), if_pos rfl]
      exact bind_of_eq_ok (literal_append _ rest)
  | false =>
      rw [toList_write_false, List.cons_append]
      apply skipValueWithin_atom rfl (by decide) (by decide)
      unfold skipAtom
      rw [if_neg (by decide), if_neg (by decide), if_pos rfl]
      exact bind_of_eq_ok (literal_append _ rest)

theorem skipValueWithin_string (value : String) (bound : Nat) (rest : List Char) :
    skipValueWithin (bound + 1) ((write (.string value)).toList ++ rest) = .ok ((), rest) := by
  rw [write, toList_quoted, List.cons_append]
  apply skipValueWithin_atom rfl (by decide) (by decide)
  unfold skipAtom
  rw [if_neg (by decide), if_neg (by decide), if_neg (by decide), if_neg (by decide),
    if_neg (by decide), if_pos rfl]
  exact bind_of_eq_ok (discard_of_eq_ok (string_quotedRest false value rest))

theorem skipValueWithin_number (numeral : Numeral) (bound : Nat) {rest : List Char}
    (ends : EndsNumber rest) :
    skipValueWithin (bound + 1) ((write (.number numeral)).toList ++ rest) = .ok ((), rest) := by
  have read := numberText_append ends numeral (.malformed .badNumber)
  rw [write, numeral.toList_write, List.append_assoc]
  by_cases negative : numeral.negative = true
  · rw [if_pos negative]
    apply skipValueWithin_atom (c := '-') rfl (by decide) (by decide)
    unfold skipAtom
    rw [if_neg (by decide), if_neg (by decide), if_neg (by decide), if_pos rfl]
    exact bind_of_eq_ok (discard_of_eq_ok read)
  · rcases numeral.exists_cons_unsignedText with ⟨c, text, spelled, digit⟩
    rw [if_neg negative]
    rw [spelled] at read ⊢
    apply skipValueWithin_atom (isGap_of_isDigit digit) (ne_of_isDigit digit _ rfl)
      (ne_of_isDigit digit _ rfl)
    unfold skipAtom
    rw [if_neg (ne_of_isDigit digit _ rfl), if_neg (ne_of_isDigit digit _ rfl),
      if_neg (ne_of_isDigit digit _ rfl), if_neg (ne_of_isDigit digit _ rfl), if_pos digit]
    exact bind_of_eq_ok (discard_of_eq_ok read)

/-- With a given number of parts, written values are skipped, and so is what is left of a list
or an object from one of its items or members on, in front of any text that does not go on
with a number. -/
structure SkipsWritten (bound : Nat) : Prop where
  value : ∀ (value : Json) (rest : List Char), EndsNumber rest ->
    value.write.toList.length ≤ bound ->
    skipValueWithin bound (value.write.toList ++ rest) = .ok ((), rest)
  items : ∀ (item : Json) (items : List Json) (rest : List Char),
    (item.write.toList ++ laterItems items).length < bound ->
    skipItemsWithin bound (item.write.toList ++ (laterItems items ++ ']' :: rest)) = .ok ((), rest)
  members : ∀ (name : String) (value : Json) (entries : List (String × Json)) (rest : List Char),
    (memberText name value ++ laterText entries).length < bound ->
    skipMembersWithin bound (memberText name value ++ laterText entries ++ '\x7d' :: rest) =
      .ok ((), rest)

namespace SkipsWritten

variable {bound : Nat} (skips : SkipsWritten bound)
include skips

theorem list (items : List Json) (rest : List Char)
    (enough : (write (.list items)).toList.length ≤ bound + 1) :
    skipValueWithin (bound + 1) ((write (.list items)).toList ++ rest) = .ok ((), rest) := by
  rw [toList_write_list] at enough ⊢
  rw [List.cons_append, skipValueWithin, bind_of_eq_ok (peek_cons rfl _)]
  change (skip >>= fun _ => peek >>= _) _ = _
  rw [bind_of_eq_ok (skip_cons _ _)]
  cases items with
  | nil => exact bind_of_eq_ok (peek_cons rfl rest)
  | cons item items =>
      rcases exists_starts item with ⟨c, text, spelled, starts⟩
      have within : (item.write.toList ++ laterItems items).length < bound := by
        rw [toList_writeItems_cons] at enough
        simp only [List.length_cons, List.length_append, List.length_nil] at enough ⊢
        omega
      have skipped := skips.items item items rest within
      rw [toList_writeItems_cons, List.append_assoc, List.append_assoc, List.singleton_append]
      rw [spelled] at skipped ⊢
      rw [List.cons_append, bind_of_eq_ok (peek_cons starts.visible _)]
      generalize same : some c = next
      split
      case h_1 => contradiction
      case h_2 => exact absurd (Option.some.inj same) starts.noEnd
      case h_3 => exact skipped

theorem object (entries : List (String × Json)) (rest : List Char)
    (enough : (write (.object entries)).toList.length ≤ bound + 1) :
    skipValueWithin (bound + 1) ((write (.object entries)).toList ++ rest) = .ok ((), rest) := by
  rw [toList_write_object] at enough ⊢
  rw [List.cons_append, skipValueWithin, bind_of_eq_ok (peek_cons rfl _)]
  change (skip >>= fun _ => peek >>= _) _ = _
  rw [bind_of_eq_ok (skip_cons _ _)]
  cases entries with
  | nil => exact bind_of_eq_ok (peek_cons rfl rest)
  | cons entry entries =>
      have within : (memberText entry.1 entry.2 ++ laterText entries).length < bound := by
        rw [toList_writeMembers_cons] at enough
        simp only [List.length_cons, List.length_append, List.length_nil] at enough ⊢
        omega
      have skipped := skips.members entry.1 entry.2 entries rest within
      rw [toList_writeMembers_cons, List.append_assoc, List.singleton_append]
      rw [memberText_append, toList_quoted, List.cons_append] at skipped ⊢
      rw [bind_of_eq_ok (peek_cons rfl _)]
      exact skipped

theorem value_succ (value : Json) (rest : List Char) (ends : EndsNumber rest)
    (enough : value.write.toList.length ≤ bound + 1) :
    skipValueWithin (bound + 1) (value.write.toList ++ rest) = .ok ((), rest) := by
  cases value with
  | null => exact skipValueWithin_null bound rest
  | bool flag => exact skipValueWithin_bool flag bound rest
  | number numeral => exact skipValueWithin_number numeral bound ends
  | string text => exact skipValueWithin_string text bound rest
  | list items => exact skips.list items rest enough
  | object entries => exact skips.object entries rest enough

theorem items_succ (item : Json) (items : List Json) (rest : List Char)
    (enough : (item.write.toList ++ laterItems items).length < bound + 1) :
    skipItemsWithin (bound + 1) (item.write.toList ++ (laterItems items ++ ']' :: rest)) =
      .ok ((), rest) := by
  have within : item.write.toList.length ≤ bound := by
    rw [List.length_append] at enough
    omega
  rw [skipItemsWithin,
    bind_of_eq_ok (skips.value item _ (endsNumber_laterItems items rest) within)]
  cases items with
  | nil => exact bind_of_eq_ok (peek_cons rfl rest)
  | cons next items =>
      have later : (next.write.toList ++ laterItems items).length < bound := by
        rw [laterItems_cons, List.length_append, List.length_cons] at enough
        omega
      rw [laterItems_cons, List.cons_append, bind_of_eq_ok (peek_cons rfl _), List.append_assoc]
      exact skips.items next items rest later

theorem members_succ (name : String) (value : Json) (entries : List (String × Json))
    (rest : List Char) (enough : (memberText name value ++ laterText entries).length < bound + 1) :
    skipMembersWithin (bound + 1) (memberText name value ++ laterText entries ++ '\x7d' :: rest) =
      .ok ((), rest) := by
  have within : value.write.toList.length ≤ bound := by
    simp only [memberText, List.length_append, List.length_cons] at enough
    omega
  rw [memberText_append, toList_quoted, List.cons_append, skipMembersWithin,
    bind_of_eq_ok (peek_cons rfl _)]
  change (skip >>= fun _ => string false >>= _) _ = _
  rw [bind_of_eq_ok (skip_cons _ _), bind_of_eq_ok (string_quotedRest false name _),
    bind_of_eq_ok (colon_cons _),
    bind_of_eq_ok (skips.value value _ (endsNumber_laterText entries rest) within)]
  cases entries with
  | nil => exact bind_of_eq_ok (peek_cons rfl rest)
  | cons next entries =>
      have later : (memberText next.1 next.2 ++ laterText entries).length < bound := by
        simp only [laterText, List.flatMap_cons, List.length_append, List.length_cons] at enough ⊢
        omega
      have skipped := skips.members next.1 next.2 entries rest later
      rw [memberText_append] at skipped
      rw [laterText_cons, bind_of_eq_ok (peek_cons rfl _)]
      exact skipped

end SkipsWritten

theorem skipsWritten (bound : Nat) : SkipsWritten bound := by
  induction bound with
  | zero =>
      refine ⟨fun value rest _ enough => ?_, fun _ _ _ enough => absurd enough (Nat.not_lt_zero _),
        fun _ _ _ _ enough => absurd enough (Nat.not_lt_zero _)⟩
      rcases exists_starts value with ⟨c, text, spelled, _⟩
      rw [spelled] at enough
      exact absurd enough (Nat.not_succ_le_zero _)
  | succ bound skips => exact ⟨skips.value_succ, skips.items_succ, skips.members_succ⟩

/-- A written value of any depth is skipped to its end and no farther. -/
theorem skipValue_write (value : Json) {rest : List Char} (ends : EndsNumber rest) :
    skipValue (value.write.toList ++ rest) = .ok ((), rest) := by
  unfold skipValue
  apply (skipsWritten _).value value rest ends
  rw [List.length_append]
  omega

end Reader

end Json
end SchemaBindings
