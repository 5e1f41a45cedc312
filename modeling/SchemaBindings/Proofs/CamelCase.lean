import SchemaBindings.Text.Words

namespace SchemaBindings
namespace Text

/-!
# Words and camel case

Cutting a text into words drops what separates words and keeps everything else in order: put
together again, the words are the letters and numbers of the text.  No piece between
separators starts with an empty word, so the first word starts with the first letter or number.

Camel case then replaces each character by a form of it in small or capital letters.  So
whatever stands in an identifier in camel case is a form of a letter or number of the text,
and the first character is a small form of the first of them.  The forms of a letter or
number may be ASCII characters even if it is none, but only letters and digits.
-/

/-! ## Words -/

theorem flatten_extendFirst (c : Char) (pieces : List (List Char)) :
    (extendFirst c pieces).flatten = c :: pieces.flatten := by
  cases pieces with
  | nil => rfl
  | cons piece pieces => rfl

theorem flatten_stretches (inside : Char -> Bool) (text : List Char) :
    (stretches inside text).flatten = text.filter inside := by
  induction text with
  | nil => rfl
  | cons c rest inductionHypothesis =>
      rw [stretches]
      cases test : inside c with
      | true =>
          rw [if_pos rfl, flatten_extendFirst, inductionHypothesis, List.filter_cons_of_pos test]
      | false =>
          rw [if_neg Bool.false_ne_true, List.filter_cons_of_neg (Bool.eq_false_iff.mp test),
            ← inductionHypothesis]
          rfl

theorem flatten_wordsFrom (mode : Mode) (text : List Char) :
    (wordsFrom mode text).flatten = text := by
  fun_induction wordsFrom mode text with
  | case1 => rfl
  | case2 => rfl
  | case3 mode c next rest ends inductionHypothesis =>
      exact congrArg (List.cons c) inductionHypothesis
  | case4 mode c next rest _ ends inductionHypothesis =>
      exact (flatten_extendFirst _ _).trans (congrArg (List.cons c) inductionHypothesis)
  | case5 mode c next rest _ _ inductionHypothesis =>
      exact (flatten_extendFirst _ _).trans (congrArg (List.cons c) inductionHypothesis)

theorem flatten_flatMap_wordsFrom (pieces : List (List Char)) :
    (pieces.flatMap (wordsFrom .boundary)).flatten = pieces.flatten := by
  induction pieces with
  | nil => rfl
  | cons piece pieces inductionHypothesis =>
      rw [List.flatMap_cons, List.flatten_append, flatten_wordsFrom, inductionHypothesis]
      rfl

/-- The words are the letters and numbers of the text. -/
theorem flatten_words (text : String) :
    (words text).flatten = text.toList.filter isAlphanumeric :=
  (flatten_flatMap_wordsFrom _).trans (flatten_stretches _ _)

theorem exists_extendFirst (c : Char) (pieces : List (List Char)) :
    ∃ letters others, extendFirst c pieces = (c :: letters) :: others := by
  cases pieces with
  | nil => exact ⟨[], [], rfl⟩
  | cons piece pieces => exact ⟨piece, pieces, rfl⟩

/-- The scan of a piece starts its first word with the first character: only behind a capital
can a word end before the character itself, and a piece starts at a boundary. -/
theorem exists_wordsFrom_boundary (c : Char) (rest : List Char) :
    ∃ letters others, wordsFrom .boundary (c :: rest) = (c :: letters) :: others := by
  cases rest with
  | nil => exact ⟨[], [], rfl⟩
  | cons next rest =>
      rw [wordsFrom]
      split
      case isTrue => exact ⟨[], _, rfl⟩
      case isFalse =>
        rw [show decide (Mode.boundary = Mode.capital) = false from rfl, Bool.false_and,
          Bool.false_and, if_neg Bool.false_ne_true]
        exact exists_extendFirst c _

/-- Only a text without letters and numbers has no word; the first word of any other starts
with the first letter or number. -/
theorem words_eq_nil_or (text : String) :
    words text = [] ∨ ∃ c letters others, words text = (c :: letters) :: others := by
  unfold words
  induction stretches isAlphanumeric text.toList with
  | nil => exact Or.inl rfl
  | cons piece pieces inductionHypothesis =>
      rw [List.flatMap_cons]
      cases piece with
      | nil => exact inductionHypothesis
      | cons c rest =>
          rcases exists_wordsFrom_boundary c rest with ⟨letters, others, same⟩
          rw [same]
          exact Or.inr ⟨c, letters, others ++ pieces.flatMap (wordsFrom .boundary), rfl⟩

/-! ## Forms of characters -/

/-- What holds of all ASCII characters is settled by trying them. -/
theorem of_ascii (property : Char -> Prop) (holds : ∀ code < 0x80, property (Char.ofNat code))
    {c : Char} (ascii : c.toNat < 0x80) : property c :=
  Char.ofNat_toNat c ▸ holds c.toNat ascii

/-- What camel case can put in the place of a character. -/
def forms (c : Char) : List Char :=
  small c ++ capital c ++ if c = 'Σ' then ['ς'] else []

theorem mem_forms_of_mem_small {c form : Char} (member : form ∈ small c) : form ∈ forms c :=
  List.mem_append_left _ (List.mem_append_left _ member)

theorem mem_forms_of_mem_capital {c form : Char} (member : form ∈ capital c) : form ∈ forms c :=
  List.mem_append_left _ (List.mem_append_right _ member)

theorem exists_of_mem_lowered {word : List Char} {form : Char} (member : form ∈ lowered word) :
    ∃ c ∈ word, form ∈ forms c := by
  fun_induction lowered word with
  | case1 => exact absurd member List.not_mem_nil
  | case2 => exact ⟨'Σ', List.mem_singleton.mpr rfl, List.mem_append_right _ member⟩
  | case3 c other => exact ⟨c, List.mem_singleton.mpr rfl, mem_forms_of_mem_small member⟩
  | case4 c rest _ inductionHypothesis =>
      rcases List.mem_append.mp member with first | later
      · exact ⟨c, List.mem_cons_self, mem_forms_of_mem_small first⟩
      · rcases inductionHypothesis later with ⟨other, inRest, made⟩
        exact ⟨other, List.mem_cons_of_mem _ inRest, made⟩

theorem exists_of_mem_capitalized {word : List Char} {form : Char}
    (member : form ∈ capitalized word) : ∃ c ∈ word, form ∈ forms c := by
  cases word with
  | nil => exact absurd member List.not_mem_nil
  | cons c rest =>
      rcases List.mem_append.mp member with first | later
      · exact ⟨c, List.mem_cons_self, mem_forms_of_mem_capital first⟩
      · rcases exists_of_mem_lowered later with ⟨other, inRest, made⟩
        exact ⟨other, List.mem_cons_of_mem _ inRest, made⟩

/-! ## Forms beyond ASCII -/

/-- The code point of an ASCII letter or of a character beyond ASCII. -/
def isLetterOrBeyond (code : Nat) : Bool :=
  (Char.ofNat code).isAlpha || 0x80 ≤ code && code.isValidChar

/-- A run of one character may be moved to an ASCII letter, a longer one only beyond ASCII. -/
def movesToLetters (run : Run) (shift : Int) : Bool :=
  run.first = run.last && isLetterOrBeyond (run.first + shift).toNat
    || 0x80 ≤ run.first + shift && run.last + shift < 0xD800
    || 0xDFFF < run.first + shift && run.last + shift < 0x110000

/-- The tables lead to no ASCII character but letters. -/
def keepsLetters (special : List (Nat × List Nat)) (runs : List (Run × Int)) : Bool :=
  special.all (fun entry => entry.2.all isLetterOrBeyond) &&
    runs.all fun entry => movesToLetters entry.1 entry.2

theorem keepsLetters_lowering : keepsLetters loweredSpecially loweringRuns = true := by
  decide +kernel

theorem keepsLetters_raising : keepsLetters raisedSpecially raisingRuns = true := by
  decide +kernel

theorem isAlpha_of_isLetterOrBeyond {code : Nat} (known : isLetterOrBeyond code = true)
    (ascii : (Char.ofNat code).toNat < 0x80) : (Char.ofNat code).isAlpha = true := by
  simp only [isLetterOrBeyond, Bool.or_eq_true, Bool.and_eq_true, decide_eq_true_eq] at known
  rcases known with letter | ⟨beyond, valid⟩
  · exact letter
  · have code_eq : (Char.ofNat code).toNat = code := by
      unfold Char.ofNat
      rw [dif_pos valid]
      rfl
    omega

theorem isLetterOrBeyond_of_movesToLetters {run : Run} {shift : Int}
    (moves : movesToLetters run shift = true) {code : Nat} (inside : run.contains code = true) :
    isLetterOrBeyond (code + shift).toNat = true := by
  simp only [movesToLetters, Bool.or_eq_true, Bool.and_eq_true, decide_eq_true_eq] at moves
  simp only [Run.contains, Bool.and_eq_true, decide_eq_true_eq] at inside
  rcases moves with (⟨single, letter⟩ | low) | high
  · have only : code = run.first := by omega
    exact only ▸ letter
  · have beyond : 0x80 ≤ (code + shift).toNat ∧ (code + shift).toNat.isValidChar := by omega
    simp [isLetterOrBeyond, beyond]
  · have beyond : 0x80 ≤ (code + shift).toNat ∧ (code + shift).toNat.isValidChar := by omega
    simp [isLetterOrBeyond, beyond]

/-- Where the tables keep letters, a character beyond ASCII has no other ASCII form.  In
neither table it would stay as it is. -/
theorem isAlpha_of_mem_caseForm {special : List (Nat × List Nat)} {runs : List (Run × Int)}
    (keeps : keepsLetters special runs = true) {c form : Char} (beyond : ¬ c.toNat < 0x80)
    (member : form ∈ caseForm special runs c) (ascii : form.toNat < 0x80) :
    form.isAlpha = true := by
  simp only [keepsLetters, Bool.and_eq_true, List.all_eq_true] at keeps
  unfold caseForm at member
  split at member
  case h_1 codes found =>
    rcases List.mem_map.mp member with ⟨code, listed, rfl⟩
    rcases List.lookup_eq_some_iff.mp found with ⟨before, after, same, _⟩
    have entry : (c.toNat, codes) ∈ special := same ▸ List.mem_append_right _ List.mem_cons_self
    exact isAlpha_of_isLetterOrBeyond (keeps.1 _ entry code listed) ascii
  case h_2 =>
    split at member
    case h_1 run shift found =>
      have moves := keeps.2 _ (List.mem_of_find?_eq_some found)
      have inside := List.find?_some found
      rw [List.mem_singleton.mp member] at ascii ⊢
      apply isAlpha_of_isLetterOrBeyond _ ascii
      exact isLetterOrBeyond_of_movesToLetters moves inside
    case h_2 => exact absurd (List.mem_singleton.mp member ▸ ascii) beyond

/-- A character beyond ASCII has no ASCII forms but letters. -/
theorem isAlpha_of_mem_forms {c form : Char} (beyond : ¬ c.toNat < 0x80) (member : form ∈ forms c)
    (ascii : form.toNat < 0x80) : form.isAlpha = true := by
  unfold forms small capital at member
  rw [if_neg beyond, if_neg beyond, List.mem_append, List.mem_append] at member
  rcases member with (inSmall | inCapital) | final
  · exact isAlpha_of_mem_caseForm keepsLetters_lowering beyond inSmall ascii
  · exact isAlpha_of_mem_caseForm keepsLetters_raising beyond inCapital ascii
  · split at final
    · rw [List.mem_singleton.mp final] at ascii
      exact absurd ascii (by decide)
    · exact absurd final List.not_mem_nil

/-- Letters and numbers have no ASCII forms but letters and digits. -/
theorem isAlphanum_of_mem_forms {c form : Char} (alphanumeric : isAlphanumeric c = true)
    (member : form ∈ forms c) (ascii : form.toNat < 0x80) : form.isAlphanum = true := by
  by_cases plain : c.toNat < 0x80
  · have all : (forms c).all Char.isAlphanum = true :=
      of_ascii (fun c => isAlphanumeric c = true -> (forms c).all Char.isAlphanum = true)
        (by decide +kernel) plain alphanumeric
    exact List.all_eq_true.mp all form member
  · exact Bool.or_eq_true_iff.mpr (Or.inl (isAlpha_of_mem_forms plain member ascii))

/-! ## Camel case -/

theorem toList_lowerCamel_of_cons {text : String} {first : List Char} {others : List (List Char)}
    (cut : words text = first :: others) :
    (lowerCamel text).toList = lowered first ++ others.flatMap capitalized := by
  unfold lowerCamel
  rw [cut, String.toList_ofList]

theorem lowerCamel_of_nil {text : String} (cut : words text = []) : lowerCamel text = "" := by
  unfold lowerCamel
  rw [cut]

theorem mem_words_flatten {text : String} {c : Char} :
    c ∈ (words text).flatten ↔ c ∈ text.toList ∧ isAlphanumeric c = true := by
  rw [flatten_words, List.mem_filter]

theorem exists_of_mem_flatMap_capitalized {pieces : List (List Char)} {form : Char}
    (member : form ∈ pieces.flatMap capitalized) : ∃ c ∈ pieces.flatten, form ∈ forms c := by
  rcases List.mem_flatMap.mp member with ⟨word, listed, inWord⟩
  rcases exists_of_mem_capitalized inWord with ⟨c, part, made⟩
  exact ⟨c, List.mem_flatten.mpr ⟨word, listed, part⟩, made⟩

theorem head?_lowered {c : Char} (rest : List Char) (ascii : c.toNat < 0x80) :
    (lowered (c :: rest)).head? = some c.toLower := by
  have form : small c = [c.toLower] := if_pos ascii
  cases rest with
  | nil =>
      have other : c ≠ 'Σ' := by
        rintro rfl
        exact absurd ascii (by decide)
      rw [lowered, if_neg other, form]
      rfl
  | cons next rest =>
      rw [lowered, form]
      · rfl
      · exact List.cons_ne_nil next rest

/-- Camel case starts with the small form of the first letter or number. -/
theorem head?_lowerCamel {text : String} (ascii : ∀ c ∈ text.toList, c.toNat < 0x80) :
    (lowerCamel text).toList.head? = (text.toList.find? isAlphanumeric).map Char.toLower := by
  rw [← List.head?_filter, ← flatten_words]
  rcases words_eq_nil_or text with cut | ⟨c, letters, others, cut⟩
  · rw [lowerCamel_of_nil cut, cut]
    rfl
  · have inText : c ∈ text.toList := by
      refine (mem_words_flatten.mp ?_).1
      rw [cut]
      exact List.mem_cons_self
    rw [toList_lowerCamel_of_cons cut, cut, List.head?_append, head?_lowered _ (ascii c inText)]
    rfl

/-- Every character in camel case is a form of a letter or number of the text. -/
theorem exists_of_mem_lowerCamel {text : String} {form : Char}
    (member : form ∈ (lowerCamel text).toList) :
    ∃ c ∈ text.toList, isAlphanumeric c = true ∧ form ∈ forms c := by
  have made : ∃ c ∈ (words text).flatten, form ∈ forms c := by
    cases cut : words text with
    | nil =>
        rw [lowerCamel_of_nil cut] at member
        exact absurd member List.not_mem_nil
    | cons first others =>
        rw [toList_lowerCamel_of_cons cut] at member
        rcases List.mem_append.mp member with inFirst | inOthers
        · rcases exists_of_mem_lowered inFirst with ⟨c, part, made⟩
          exact ⟨c, List.mem_append_left _ part, made⟩
        · rcases exists_of_mem_flatMap_capitalized inOthers with ⟨c, part, made⟩
          exact ⟨c, List.mem_append_right _ part, made⟩
  rcases made with ⟨c, inWords, made⟩
  have ⟨inText, alphanumeric⟩ := mem_words_flatten.mp inWords
  exact ⟨c, inText, alphanumeric, made⟩

theorem exists_of_mem_upperCamel {text : String} {form : Char}
    (member : form ∈ (upperCamel text).toList) :
    ∃ c ∈ text.toList, isAlphanumeric c = true ∧ form ∈ forms c := by
  unfold upperCamel at member
  rw [String.toList_ofList] at member
  rcases exists_of_mem_flatMap_capitalized member with ⟨c, inWords, made⟩
  have ⟨inText, alphanumeric⟩ := mem_words_flatten.mp inWords
  exact ⟨c, inText, alphanumeric, made⟩

/-- Only letters and digits of ASCII stand in camel case. -/
theorem isAlphanum_of_mem_lowerCamel {text : String} {c : Char}
    (member : c ∈ (lowerCamel text).toList) (ascii : c.toNat < 0x80) : c.isAlphanum = true := by
  rcases exists_of_mem_lowerCamel member with ⟨source, _, alphanumeric, made⟩
  exact isAlphanum_of_mem_forms alphanumeric made ascii

theorem isAlphanum_of_mem_upperCamel {text : String} {c : Char}
    (member : c ∈ (upperCamel text).toList) (ascii : c.toNat < 0x80) : c.isAlphanum = true := by
  rcases exists_of_mem_upperCamel member with ⟨source, _, alphanumeric, made⟩
  exact isAlphanum_of_mem_forms alphanumeric made ascii

end Text
end SchemaBindings
