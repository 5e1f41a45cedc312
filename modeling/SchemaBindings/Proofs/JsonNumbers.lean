import SchemaBindings.Proofs.JsonText

namespace SchemaBindings
namespace Json
namespace Reader

/-!
# Written numbers are read

A number is written as its digits, behind a sign if it is negative, with a point if digits
stand behind that, and with its exponent behind an `e` unless that is zero.  The reader takes
digits as long as there are any, so what it finds depends on the text behind the number: it
must not go on with a digit, a point or an exponent.  Inside lists and objects it never does,
since a comma or a closing bracket follows.  Each part of a number is read in front of the
next one in the same way: a point ends the digits before it, and an `e` ends the digits of
both sides.

A written number has no zero in front that would make it malformed, for the digits of a
natural number start with a zero only if the number is zero.  Behind the point zeros may stand
anywhere.
-/

/-- The digits of a natural number. -/
def decimalDigits (value : Nat) : List Char :=
  Nat.toDigits 10 value

theorem toList_toString_nat (value : Nat) : (toString value).toList = decimalDigits value :=
  Nat.toList_repr

theorem toList_toString_int (value : Int) : (toString value).toList =
    (if value < 0 then ['-'] else []) ++ decimalDigits value.natAbs := by
  cases value with
  | ofNat value =>
      rw [if_neg (by simp)]
      exact toList_toString_nat value
  | negSucc value =>
      change ("-" ++ toString (value + 1)).toList = _
      rw [String.toList_append, toList_toString_nat, if_pos (Int.negSucc_lt_zero value)]
      rfl

theorem isDigit_of_mem_decimalDigits {value : Nat} {c : Char} (member : c ∈ decimalDigits value) :
    isDigit c = true := by
  have digit := Nat.isDigit_of_mem_toDigits (by decide) (by decide) member
  simp only [Char.isDigit, Bool.and_eq_true, decide_eq_true_eq] at digit
  simp only [isDigit, Bool.and_eq_true, decide_eq_true_eq, Char.le_def]
  exact digit

theorem exists_cons_decimalDigits (value : Nat) :
    ∃ c digits, decimalDigits value = c :: digits ∧ isDigit c = true := by
  have nonempty : decimalDigits value ≠ [] := Nat.toDigits_ne_nil
  rcases List.exists_cons_of_ne_nil nonempty with ⟨c, digits, spelled⟩
  exact ⟨c, digits, spelled, isDigit_of_mem_decimalDigits (spelled ▸ List.mem_cons_self)⟩

theorem ne_of_isDigit {c : Char} (digit : isDigit c = true) (other : Char)
    (noDigit : isDigit other = false) : c ≠ other := by
  rintro rfl
  exact Bool.false_ne_true (noDigit.symm.trans digit)

theorem isGap_of_isDigit {c : Char} (digit : isDigit c = true) : isGap c = false := by
  have space := ne_of_isDigit digit ' ' rfl
  have tab := ne_of_isDigit digit '\t' rfl
  have lineFeed := ne_of_isDigit digit '\n' rfl
  have lineReturn := ne_of_isDigit digit '\r' rfl
  simp [isGap, space, tab, lineFeed, lineReturn]

/-- Only zero starts with a zero. -/
theorem eq_zero_of_head?_decimalDigits (value : Nat)
    (zero : (decimalDigits value).head? = some '0') : value = 0 := by
  induction value using Nat.strongRecOn with
  | ind value inductionHypothesis =>
      unfold decimalDigits at zero
      by_cases small : value < 10
      · have single : ∀ value < 10, Nat.digitChar value = '0' -> value = 0 := by decide
        rw [Nat.toDigits_of_lt_base small, List.head?_cons, Option.some_inj] at zero
        exact single value small zero
      · have front : (decimalDigits (value / 10)).head? = some '0' := by
          rcases exists_cons_decimalDigits (value / 10) with ⟨first, others, spelled, _⟩
          rw [Nat.toDigits_eq_if (by decide), if_neg small, List.head?_append] at zero
          unfold decimalDigits at spelled ⊢
          rw [spelled] at zero ⊢
          exact zero
        have quotient := inductionHypothesis (value / 10) (by omega) front
        omega

/-- A run of digits is taken up to a character that is no digit. -/
theorem digits_append {run rest : List Char} (nonempty : run ≠ [])
    (all : ∀ c ∈ run, isDigit c = true) (ends : ∀ c ∈ rest.head?, isDigit c = false)
    (atEnd : Fault) : digits atEnd (run ++ rest) = .ok (run, rest) := by
  have taken : (run ++ rest).takeWhile isDigit = run := by
    rw [List.takeWhile_append_of_pos all]
    cases rest with
    | nil => simp
    | cons c rest => simp [ends c rfl]
  have left : (run ++ rest).dropWhile isDigit = rest := by
    rw [List.dropWhile_append_of_pos all]
    cases rest with
    | nil => rfl
    | cons c rest => simp [ends c rfl]
  have full : (run ++ rest).isEmpty = false := by
    simp [nonempty]
  unfold digits
  rw [bind_of_eq_ok (get_eq _), taken, left, full, List.isEmpty_eq_false_iff.mpr nonempty]
  rfl

theorem takeOneOf_cons {choices : List Char} {c : Char} (listed : choices.contains c = true)
    (rest : List Char) : takeOneOf choices (c :: rest) = .ok (some c, rest) := by
  unfold takeOneOf
  rw [bind_of_eq_ok (get_eq _)]
  dsimp only
  rw [if_pos listed]
  rfl

theorem takeOneOf_of_head? {choices text : List Char}
    (other : ∀ c ∈ text.head?, choices.contains c = false) :
    takeOneOf choices text = .ok (none, text) := by
  unfold takeOneOf
  rw [bind_of_eq_ok (get_eq _)]
  cases text with
  | nil => rfl
  | cons c rest =>
      dsimp only
      rw [if_neg (Bool.eq_false_iff.mp (other c rfl))]
      rfl

theorem decimalDigits_append (value : Nat) {rest : List Char}
    (ends : ∀ c ∈ rest.head?, isDigit c = false) (atEnd : Fault) :
    digits atEnd (decimalDigits value ++ rest) = .ok (decimalDigits value, rest) :=
  digits_append Nat.toDigits_ne_nil (fun _ => isDigit_of_mem_decimalDigits) ends atEnd

end Reader

/-! ## The parts of a written number -/

namespace Numeral

variable (numeral : Numeral)

def fractionText : List Char :=
  if numeral.fraction.isEmpty then [] else '.' :: numeral.fractionDigits

def exponentText : List Char :=
  if numeral.exponent = 0 then []
  else 'e' :: ((if numeral.exponent < 0 then ['-'] else []) ++
    Reader.decimalDigits numeral.exponent.natAbs)

/-- What is written behind the sign. -/
def unsignedText : List Char :=
  Reader.decimalDigits numeral.whole ++ (numeral.fractionText ++ numeral.exponentText)

/-- The parts that are written behind the sign. -/
def parts : NumberText where
  whole := Reader.decimalDigits numeral.whole
  fraction := if numeral.fraction.isEmpty then none else some numeral.fractionDigits
  exponent :=
    if numeral.exponent = 0 then none
    else some (decide (numeral.exponent < 0), Reader.decimalDigits numeral.exponent.natAbs)

/-- The value of a written number, which may be too large for a number that is used. -/
def value : Except Fault Number :=
  match numeral.parts.value? numeral.negative with
  | some value => .ok value
  | none => .error (.malformed .numberTooLarge)

theorem isDigit_of_mem_fractionDigits {c : Char} (member : c ∈ numeral.fractionDigits) :
    Reader.isDigit c = true := by
  have digits : ∀ digit : Fin 10, Reader.isDigit digit.val.digitChar = true := by decide
  rcases List.mem_map.mp member with ⟨digit, _, rfl⟩
  exact digits digit

theorem exists_cons_unsignedText :
    ∃ c text, numeral.unsignedText = c :: text ∧ Reader.isDigit c = true := by
  rcases Reader.exists_cons_decimalDigits numeral.whole with ⟨c, digits, spelled, digit⟩
  refine ⟨c, digits ++ (numeral.fractionText ++ numeral.exponentText), ?_, digit⟩
  rw [unsignedText, spelled, List.cons_append]

theorem toList_write : numeral.write.toList =
    (if numeral.negative then ['-'] else []) ++ numeral.unsignedText := by
  have sign : (if numeral.negative then "-" else "").toList =
      if numeral.negative then ['-'] else [] :=
    apply_ite String.toList _ _ _
  have fraction : (if numeral.fraction.isEmpty then ""
      else "." ++ String.ofList numeral.fractionDigits).toList = numeral.fractionText := by
    have digits : (String.ofList numeral.fractionDigits).toList = numeral.fractionDigits :=
      String.toList_ofList
    rw [apply_ite String.toList, String.toList_append, digits]
    rfl
  have exponent : (if numeral.exponent = 0 then ""
      else "e" ++ toString numeral.exponent).toList = numeral.exponentText := by
    rw [apply_ite String.toList, String.toList_append, Reader.toList_toString_int]
    rfl
  unfold write
  rw [String.toList_append, String.toList_append, String.toList_append, sign, fraction, exponent,
    Reader.toList_toString_nat, unsignedText, List.append_assoc, List.append_assoc]

end Numeral

/-! ## Reading the parts -/

namespace Reader

/-- What is behind a number cannot go on with it. -/
def EndsNumber (rest : List Char) : Prop :=
  ∀ c ∈ rest.head?, isDigit c = false ∧ ['.'].contains c = false ∧ ['e', 'E'].contains c = false

section

variable {rest : List Char} (ends : EndsNumber rest) (numeral : Numeral)
include ends

theorem EndsNumber.exponentText_append : ∀ c ∈ (numeral.exponentText ++ rest).head?,
    isDigit c = false ∧ ['.'].contains c = false := by
  unfold Numeral.exponentText
  split
  · exact fun c member => ⟨(ends c member).1, (ends c member).2.1⟩
  · rintro c (_ | _)
    decide

theorem EndsNumber.fractionText_append :
    ∀ c ∈ (numeral.fractionText ++ (numeral.exponentText ++ rest)).head?, isDigit c = false := by
  unfold Numeral.fractionText
  split
  · exact fun c member => (ends.exponentText_append numeral c member).1
  · rintro c (_ | _)
    decide

variable (atEnd : Fault)

theorem fraction_append :
    fraction atEnd (numeral.fractionText ++ (numeral.exponentText ++ rest)) =
      .ok (numeral.parts.fraction, numeral.exponentText ++ rest) := by
  have behind := ends.exponentText_append numeral
  unfold fraction Numeral.fractionText Numeral.parts
  by_cases none : numeral.fraction.isEmpty = true
  · rw [if_pos none, if_pos none, List.nil_append,
      bind_of_eq_ok (takeOneOf_of_head? fun c member => (behind c member).2), if_neg (by decide)]
    rfl
  · have nonempty : numeral.fractionDigits ≠ [] := by
      rwa [Numeral.fractionDigits, Ne, List.map_eq_nil_iff, ← List.isEmpty_iff]
    rw [if_neg none, if_neg none, List.cons_append, bind_of_eq_ok (takeOneOf_cons rfl _),
      if_pos (by decide), bind_of_eq_ok (digits_append nonempty
        (fun _ => numeral.isDigit_of_mem_fractionDigits) (fun c member => (behind c member).1) _)]
    rfl

theorem exponent_append :
    exponent atEnd (numeral.exponentText ++ rest) = .ok (numeral.parts.exponent, rest) := by
  unfold exponent Numeral.exponentText Numeral.parts
  by_cases zero : numeral.exponent = 0
  · rw [if_pos zero, if_pos zero, List.nil_append,
      bind_of_eq_ok (takeOneOf_of_head? fun c member => (ends c member).2.2), if_neg (by decide)]
    rfl
  · have size := decimalDigits_append numeral.exponent.natAbs
      (fun c member => (ends c member).1) atEnd
    rw [if_neg zero, if_neg zero, List.cons_append, List.append_assoc,
      bind_of_eq_ok (takeOneOf_cons rfl _), if_pos (by decide)]
    by_cases below : numeral.exponent < 0
    · rw [if_pos below, List.singleton_append, bind_of_eq_ok (takeOneOf_cons rfl _),
        bind_of_eq_ok size, decide_eq_true below]
      rfl
    · have sign : takeOneOf ['+', '-'] (decimalDigits numeral.exponent.natAbs ++ rest) =
          .ok (none, decimalDigits numeral.exponent.natAbs ++ rest) := by
        apply takeOneOf_of_head?
        intro c member
        rcases exists_cons_decimalDigits numeral.exponent.natAbs with
          ⟨first, others, spelled, digit⟩
        rw [spelled] at member
        cases member
        have plus := ne_of_isDigit digit '+' rfl
        have minus := ne_of_isDigit digit '-' rfl
        simp [plus, minus]
      rw [if_neg below, List.nil_append, bind_of_eq_ok sign, bind_of_eq_ok size,
        decide_eq_false below]
      rfl

theorem numberText_append :
    numberText atEnd (numeral.unsignedText ++ rest) = .ok (numeral.parts, rest) := by
  have whole := decimalDigits_append numeral.whole (ends.fractionText_append numeral) atEnd
  have noZero : ¬ (decide ((decimalDigits numeral.whole).head? = some '0') &&
      (decimalDigits numeral.whole).length != 1) = true := by
    intro zeros
    simp only [Bool.and_eq_true, decide_eq_true_eq, bne_iff_ne] at zeros
    rw [eq_zero_of_head?_decimalDigits _ zeros.1] at zeros
    exact zeros.2 rfl
  unfold numberText Numeral.unsignedText
  rw [List.append_assoc, List.append_assoc, bind_of_eq_ok whole, if_neg noZero]
  change (fraction atEnd >>= _) _ = _
  rw [bind_of_eq_ok (fraction_append ends numeral atEnd),
    bind_of_eq_ok (exponent_append ends numeral atEnd)]
  rfl

theorem number_append : number numeral.negative (numeral.unsignedText ++ rest) =
    (fun value => (value, rest)) <$> numeral.value := by
  unfold number Numeral.value
  rw [bind_of_eq_ok (numberText_append ends numeral _)]
  cases numeral.parts.value? numeral.negative with
  | none => rfl
  | some value => rfl

end

end Reader
end Json
end SchemaBindings
