import SchemaBindings.Json.Reader
import SchemaBindings.Json.Value
import SchemaBindings.Proofs.Sequences

namespace SchemaBindings
namespace Json

/-!
# Written JSON is read

The reader of JSON text meets what the writer has written, in front of any further text.  A
character between quotes is read from its escape whatever class of escape it has: a letter
after a backslash, a code of four digits, or the character itself.  Hence a written string
is read to its closing quote and no farther.  The text of an object is taken apart here into
the names and values of its members, the first of which has no comma in front.
-/

namespace Reader

/-! ## Strings -/

theorem hexDigits_of_lt : ∀ value < 16, Text.hexDigits value = [Nat.digitChar value] := by
  decide

/-- The four digits of a control character stand for its code. -/
theorem hexValue?_control : ∀ code < 0x20,
    Text.hexValue? ['0', '0', if code < 0x10 then '0' else '1', Nat.digitChar (code % 16)] =
      some code := by
  decide

section

variable {used : Bool} {text rest characters : List Char}
  (read : stringAfter used text = .ok (characters, rest))
include read

theorem stringAfter_of_escaped {letter c : Char} (escape : escaped? letter = some c) :
    stringAfter used ('\\' :: letter :: text) = .ok (c :: characters, rest) := by
  have noCode : letter ≠ 'u' := by
    rintro rfl
    cases escape
  rw [stringAfter.eq_6 _ _ _ (fun _ _ _ _ _ code _ => noCode code) noCode, escape, read]
  rfl

theorem stringAfter_of_code {first second third fourth : Char} {code : Nat}
    (value : Text.hexValue? [first, second, third, fourth] = some code) (small : code < 0xD800) :
    stringAfter used ('\\' :: 'u' :: first :: second :: third :: fourth :: text) =
      .ok (Char.ofNat code :: characters, rest) := by
  have single : isTrailing code = false ∧ isLeading code = false := by
    simp only [isTrailing, isLeading, Bool.and_eq_false_iff, decide_eq_false_iff_not]
    omega
  simp only [stringAfter, value, single.1, single.2, Bool.and_false, Bool.false_eq_true, if_false,
    read]
  rfl

theorem stringAfter_of_plain {c : Char} (noQuote : c ≠ '"') (noEscape : c ≠ '\\')
    (visible : ¬ c.toNat < 0x20) :
    stringAfter used (c :: text) = .ok (c :: characters, rest) := by
  rw [stringAfter.eq_7 _ _ _ noQuote (fun _ _ _ _ _ same _ => noEscape same)
    (fun _ same _ => noEscape same) (fun same _ => noEscape same)
    (fun _ _ same _ => noEscape same), if_neg visible, read]
  rfl

/-- However a character is written between quotes, it is read back. -/
theorem stringAfter_quotedCharacter (c : Char) :
    stringAfter used (quotedCharacter c ++ text) = .ok (c :: characters, rest) := by
  unfold quotedCharacter
  split
  case h_8 noQuote noEscape _ _ _ _ _ =>
      split
      case isTrue control =>
        rw [hexDigits_of_lt _ (Nat.mod_lt _ (by decide))]
        have escaped := stringAfter_of_code read (hexValue?_control c.toNat control) (by omega)
        rwa [Char.ofNat_toNat] at escaped
      case isFalse visible => exact stringAfter_of_plain read noQuote noEscape visible
  all_goals exact stringAfter_of_escaped read rfl

end

theorem stringAfter_quoted (used : Bool) (characters rest : List Char) :
    stringAfter used (characters.flatMap quotedCharacter ++ '"' :: rest) =
      .ok (characters, rest) := by
  induction characters with
  | nil => rw [List.flatMap_nil, List.nil_append, stringAfter]
  | cons c characters inductionHypothesis =>
      rw [List.flatMap_cons, List.append_assoc]
      exact stringAfter_quotedCharacter inductionHypothesis c

/-- The text of a string after its opening quote. -/
def quotedRest (text : String) : List Char :=
  text.toList.flatMap quotedCharacter ++ ['"']

theorem toList_quoted (text : String) : (quoted text).toList = '"' :: quotedRest text := by
  unfold quoted
  rw [String.toList_ofList]
  rfl

theorem string_quotedRest (used : Bool) (text : String) (rest : List Char) :
    string used (quotedRest text ++ rest) = .ok (text, rest) := by
  unfold string quotedRest
  rw [List.append_assoc, List.singleton_append, stringAfter_quoted]
  change Except.ok (String.ofList text.toList, rest) = _
  rw [String.ofList_toList]

/-! ## Steps -/

theorem peek_cons {c : Char} (visible : isGap c = false) (text : List Char) :
    peek (c :: text) = .ok (some c, c :: text) := by
  simp [peek, visible]

theorem valueStart_cons {c : Char} (visible : isGap c = false) (text : List Char) :
    valueStart (c :: text) = .ok (c, c :: text) :=
  bind_of_eq_ok (peek_cons visible text)

theorem get_eq (text : List Char) : (get : Reader (List Char)) text = .ok (text, text) :=
  rfl

theorem skip_cons (c : Char) (text : List Char) : skip (c :: text) = .ok ((), text) :=
  rfl

theorem colon_cons (text : List Char) : colon (':' :: text) = .ok ((), text) :=
  bind_of_eq_ok (peek_cons rfl text)

theorem literal_append (word rest : List Char) : literal word (word ++ rest) = .ok ((), rest) := by
  induction word with
  | nil => rfl
  | cons c word inductionHypothesis =>
      rw [List.cons_append, literal, bind_of_eq_ok (get_eq _)]
      dsimp only
      rw [if_pos rfl]
      exact inductionHypothesis

theorem toList_write_null : (write .null).toList = 'n' :: ['u', 'l', 'l'] := by
  rw [write]
  rfl

theorem toList_write_true : (write (.bool true)).toList = 't' :: ['r', 'u', 'e'] := by
  rw [write]
  rfl

theorem toList_write_false : (write (.bool false)).toList = 'f' :: ['a', 'l', 's', 'e'] := by
  rw [write]
  rfl

theorem bool_write (value : Bool) (rest : List Char) :
    bool ((write (.bool value)).toList ++ rest) = .ok (value, rest) := by
  unfold bool
  cases value with
  | true =>
      rw [toList_write_true, List.cons_append, bind_of_eq_ok (valueStart_cons rfl _), if_pos rfl,
        bind_of_eq_ok (skip_cons _ _), bind_of_eq_ok (literal_append _ _)]
      rfl
  | false =>
      rw [toList_write_false, List.cons_append, bind_of_eq_ok (valueStart_cons rfl _),
        if_neg (by decide), if_pos rfl, bind_of_eq_ok (skip_cons _ _),
        bind_of_eq_ok (literal_append _ _)]
      rfl

theorem text_write (value : String) (rest : List Char) :
    text ((write (.string value)).toList ++ rest) = .ok (value, rest) := by
  rw [write, toList_quoted, List.cons_append]
  unfold text
  rw [bind_of_eq_ok (valueStart_cons rfl _), if_pos rfl, bind_of_eq_ok (skip_cons _ _)]
  exact string_quotedRest true value rest

/-! ## Members of objects -/

/-- The text of a member. -/
def memberText (name : String) (value : Json) : List Char :=
  (quoted name).toList ++ ':' :: value.write.toList

/-- The text of the members that follow another one. -/
def laterText (entries : List (String × Json)) : List Char :=
  entries.flatMap fun entry => ',' :: memberText entry.1 entry.2

theorem memberText_append (name : String) (value : Json) (later rest : List Char) :
    memberText name value ++ later ++ rest =
      (quoted name).toList ++ ':' :: (value.write.toList ++ (later ++ rest)) := by
  simp [memberText]

theorem laterText_cons (name : String) (value : Json) (entries : List (String × Json))
    (rest : List Char) : laterText ((name, value) :: entries) ++ rest =
      ',' :: ((quoted name).toList ++ ':' :: (value.write.toList ++
        (laterText entries ++ rest))) :=
  congrArg (',' :: ·) (memberText_append name value (laterText entries) rest)

/-- Every member takes some characters. -/
theorem length_le_length_laterText (entries : List (String × Json)) :
    entries.length ≤ (laterText entries).length := by
  induction entries with
  | nil => exact Nat.le_refl 0
  | cons entry entries inductionHypothesis =>
      simp only [laterText, List.flatMap_cons, List.length_append, List.length_cons] at *
      omega

theorem toList_writeMembers_cons (name : String) (value : Json) (entries : List (String × Json)) :
    (writeMembers ((name, value) :: entries)).toList =
      memberText name value ++ laterText entries := by
  induction entries generalizing name value with
  | nil => simp [writeMembers, memberText, laterText]
  | cons entry entries inductionHypothesis =>
      have later := inductionHypothesis entry.1 entry.2
      simp [writeMembers, memberText, laterText, later]

theorem toList_write_object (entries : List (String × Json)) :
    (write (.object entries)).toList =
      '\x7b' :: ((writeMembers entries).toList ++ ['\x7d']) := by
  simp [write]

theorem nextName_closing (isFirst : Bool) (rest : List Char) :
    nextName isFirst ('\x7d' :: rest) = .ok (none, '\x7d' :: rest) :=
  bind_of_eq_ok (peek_cons rfl rest)

theorem skip_string_quoted (name : String) (rest : List Char) :
    (skip >>= fun _ => some <$> string true) ('"' :: (quotedRest name ++ rest)) =
      .ok (some name, rest) := by
  rw [bind_of_eq_ok (skip_cons _ _)]
  exact map_of_eq_ok (string_quotedRest true name rest)

theorem nextName_first (name : String) (rest : List Char) :
    nextName true ((quoted name).toList ++ rest) = .ok (some name, rest) := by
  rw [toList_quoted, List.cons_append]
  unfold nextName
  rw [bind_of_eq_ok (peek_cons rfl _)]
  exact skip_string_quoted name rest

theorem nextName_later (name : String) (rest : List Char) :
    nextName false (',' :: ((quoted name).toList ++ rest)) = .ok (some name, rest) := by
  rw [toList_quoted, List.cons_append]
  unfold nextName
  rw [bind_of_eq_ok (peek_cons rfl _)]
  change (skip >>= fun _ => peek >>= _) (',' :: '"' :: (quotedRest name ++ rest)) = _
  rw [bind_of_eq_ok (skip_cons _ _), bind_of_eq_ok (peek_cons rfl _)]
  exact skip_string_quoted name rest

end Reader

end Json
end SchemaBindings
