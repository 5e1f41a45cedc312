import SchemaBindings.Proofs.JsonValues

namespace SchemaBindings
namespace Json

/-!
# Written values are used or refused

A reader that wants a value of one kind tells from the first character whether it gets one.
If not, it fails with what it has found instead, or with the fault of a number that is too
large to be told.  Either way what it makes of a written value depends on the value alone,
and `Uses` says which function of the value that is.

The members of an object are read one after the other, and each changes what has been read
before it.  `Takes` says this of a single member as a step from state to state.  Reading a
written object then takes these steps along its members and fails as the first step that
fails, so the text of an object has to be taken apart only once for all uses of objects.
-/

/-! ## Values of another kind -/

/-- What a reader finds where it does not expect the value.  A number may be too large to be
told. -/
def found : Json -> Except Fault Found
  | .null => .ok .null
  | .bool flag => .ok (.bool flag)
  | .number numeral => .number <$> numeral.value
  | .string text => .ok (.string text)
  | .list _ => .ok .list
  | .object _ => .ok .object

/-- How a reader fails that expects something else. -/
def refused (value : Json) (expected : Expected) : Except Fault Result := do
  throw (.mismatch (← value.found) expected)

theorem refused_ne_ok {Result : Type} (value : Json) (expected : Expected) (result : Result) :
    value.refused expected ≠ .ok result := by
  unfold refused
  cases value.found <;> exact nofun

theorem map_refused {Result Other : Type} (function : Result -> Other) (value : Json)
    (expected : Expected) : function <$> value.refused expected = value.refused expected := by
  unfold refused
  cases value.found <;> rfl

namespace Reader

theorem found_number (numeral : Numeral) {rest : List Char} (ends : EndsNumber rest) :
    (number numeral.negative >>= fun value => pure (Found.number value))
        (numeral.unsignedText ++ rest) =
      (fun found => (found, rest)) <$> (Json.number numeral).found := by
  have told : (Json.number numeral).found = Found.number <$> numeral.value := rfl
  rw [bind_of_eq_map (number_append ends numeral), told]
  cases numeral.value with
  | error fault => rfl
  | ok value => rfl

section

variable {c : Char} {text rest : List Char}

theorem found_write_bool {flag : Bool} (spelled : (write (.bool flag)).toList = c :: text) :
    found c (c :: (text ++ rest)) = .ok (.bool flag, rest) := by
  unfold found
  cases flag with
  | true =>
      rw [toList_write_true] at spelled
      rcases List.cons.inj spelled with ⟨rfl, rfl⟩
      rw [if_neg (by decide), if_pos rfl, bind_of_eq_ok (skip_cons _ _),
        bind_of_eq_ok (literal_append _ _)]
      rfl
  | false =>
      rw [toList_write_false] at spelled
      rcases List.cons.inj spelled with ⟨rfl, rfl⟩
      rw [if_neg (by decide), if_neg (by decide), if_pos rfl, bind_of_eq_ok (skip_cons _ _),
        bind_of_eq_ok (literal_append _ _)]
      rfl

theorem found_write_number {numeral : Numeral} (ends : EndsNumber rest)
    (spelled : (write (.number numeral)).toList = c :: text) :
    found c (c :: (text ++ rest)) =
      (fun found => (found, rest)) <$> (Json.number numeral).found := by
  rw [← found_number numeral ends]
  rw [write, numeral.toList_write] at spelled
  unfold found
  cases negative : numeral.negative with
  | true =>
      rw [if_pos negative] at spelled
      rcases List.cons.inj spelled with ⟨rfl, rfl⟩
      rw [if_neg (by decide), if_neg (by decide), if_neg (by decide), if_pos rfl,
        bind_of_eq_ok (skip_cons _ _)]
      rfl
  | false =>
      rcases numeral.exists_cons_unsignedText with ⟨first, digits, firstDigit, digit⟩
      rw [if_neg (Bool.eq_false_iff.mp negative), List.nil_append, firstDigit] at spelled
      rcases List.cons.inj spelled with ⟨rfl, rfl⟩
      rw [if_neg (ne_of_isDigit digit _ rfl), if_neg (ne_of_isDigit digit _ rfl),
        if_neg (ne_of_isDigit digit _ rfl), if_neg (ne_of_isDigit digit _ rfl), if_pos digit,
        firstDigit]
      rfl

/-- In front of a written value a reader finds what the value is, wherever it stops. -/
theorem found_write {value : Json} (spelled : value.write.toList = c :: text)
    (ends : EndsNumber rest) :
    ∃ left, found c (c :: (text ++ rest)) = (fun found => (found, left)) <$> value.found := by
  cases value with
  | null =>
      rw [toList_write_null] at spelled
      rcases List.cons.inj spelled with ⟨rfl, rfl⟩
      unfold found
      rw [if_pos rfl, bind_of_eq_ok (skip_cons _ _), bind_of_eq_ok (literal_append _ _)]
      exact ⟨rest, rfl⟩
  | bool flag => exact ⟨rest, found_write_bool spelled⟩
  | number numeral => exact ⟨rest, found_write_number ends spelled⟩
  | string value =>
      rw [write, toList_quoted] at spelled
      rcases List.cons.inj spelled with ⟨rfl, rfl⟩
      unfold found
      rw [if_neg (by decide), if_neg (by decide), if_neg (by decide), if_neg (by decide),
        if_neg (by decide), if_pos rfl, bind_of_eq_ok (skip_cons _ _),
        bind_of_eq_ok (string_quotedRest true value rest)]
      exact ⟨rest, rfl⟩
  | list items =>
      rw [toList_write_list] at spelled
      rcases List.cons.inj spelled with ⟨rfl, rfl⟩
      exact ⟨_, rfl⟩
  | object entries =>
      rw [toList_write_object] at spelled
      rcases List.cons.inj spelled with ⟨rfl, rfl⟩
      exact ⟨_, rfl⟩

theorem mismatch_write {Result : Type} {value : Json}
    (spelled : value.write.toList = c :: text) (ends : EndsNumber rest) (expected : Expected) :
    (mismatch c expected : Reader Result) (c :: (text ++ rest)) = value.refused expected := by
  rcases found_write spelled ends with ⟨left, read⟩
  exact bind_of_eq_map read

end

end Reader

/-! ## Values that are used -/

/-- The flag that a value is. -/
def asBool : Json -> Except Fault Bool
  | .bool flag => .ok flag
  | value => value.refused .bool

/-- The text that a value is. -/
def asText : Json -> Except Fault String
  | .string text => .ok text
  | value => value.refused .string

theorem asBool_eq_ok_iff {value : Json} {flag : Bool} :
    value.asBool = .ok flag ↔ value = .bool flag := by
  constructor
  · intro used
    unfold asBool at used
    split at used
    case h_1 => exact congrArg Json.bool (Except.ok.inj used)
    case h_2 => exact absurd used (refused_ne_ok _ _ _)
  · rintro rfl
    rfl

theorem asText_eq_ok_iff {value : Json} {text : String} :
    value.asText = .ok text ↔ value = .string text := by
  constructor
  · intro used
    unfold asText at used
    split at used
    case h_1 => exact congrArg Json.string (Except.ok.inj used)
    case h_2 => exact absurd used (refused_ne_ok _ _ _)
  · rintro rfl
    rfl

namespace Reader

variable {Result State : Type}

/-- What a reader makes of a written value is a function of the value, and it takes nothing
else. -/
def Uses (reader : Reader Result) (use : Json -> Except Fault Result) : Prop :=
  ∀ (value : Json) (rest : List Char), EndsNumber rest ->
    reader (value.write.toList ++ rest) = (fun result => (result, rest)) <$> use value

theorem skipValue_uses : Uses skipValue fun _ => .ok () :=
  fun value _ ends => skipValue_write value ends

theorem bool_uses : Uses bool asBool := by
  intro value rest ends
  by_cases wanted : ∃ flag, value = .bool flag
  · rcases wanted with ⟨flag, rfl⟩
    exact bool_write flag rest
  · rcases exists_starts value with ⟨c, text, spelled, starts⟩
    have noLetter := not_or.mp (mt starts.bool_of wanted)
    have refusal : value.asBool = value.refused .bool :=
      asBool.eq_2 value fun flag same => wanted ⟨flag, same⟩
    rw [refusal, map_refused, spelled, List.cons_append]
    unfold bool
    rw [bind_of_eq_ok (valueStart_cons starts.visible _), if_neg noLetter.1, if_neg noLetter.2]
    exact mismatch_write spelled ends .bool

theorem text_uses : Uses text asText := by
  intro value rest ends
  by_cases wanted : ∃ text, value = .string text
  · rcases wanted with ⟨text, rfl⟩
    exact text_write text rest
  · rcases exists_starts value with ⟨c, text, spelled, starts⟩
    have refusal : value.asText = value.refused .string :=
      asText.eq_2 value fun text same => wanted ⟨text, same⟩
    rw [refusal, map_refused, spelled, List.cons_append]
    unfold Reader.text
    rw [bind_of_eq_ok (valueStart_cons starts.visible _), if_neg (mt starts.string_of wanted)]
    exact mismatch_write spelled ends .string

/-! ## Members of objects -/

/-- A member does to the state what a step does, for every value that is written for it. -/
def Takes (member : State -> String -> Reader State)
    (step : State -> String × Json -> Except Fault State) : Prop :=
  ∀ (state : State) (name : String) (value : Json) (rest : List Char), EndsNumber rest ->
    member state name (':' :: (value.write.toList ++ rest)) =
      (fun next => (next, rest)) <$> step state (name, value)

theorem membersWithin_closing (member : State -> String -> Reader State) (isFirst : Bool)
    (state : State) (bound : Nat) (rest : List Char) :
    membersWithin member isFirst state (bound + 1) ('\x7d' :: rest) = .ok (state, rest) := by
  rw [membersWithin]
  exact bind_of_eq_ok (nextName_closing isFirst rest)

/-- A member whose value is used. -/
theorem Uses.member {reader : Reader Result} {use : Json -> Except Fault Result}
    (uses : Uses reader use) (change : Result -> State) (value : Json) {rest : List Char}
    (ends : EndsNumber rest) :
    (colon >>= fun _ => reader >>= fun result => pure (change result))
        (':' :: (value.write.toList ++ rest)) =
      (fun state => (state, rest)) <$> (change <$> use value) := by
  rw [bind_of_eq_ok (colon_cons _), bind_of_eq_map (uses value rest ends)]
  cases use value with
  | error fault => rfl
  | ok result => rfl

namespace Takes

variable {member : State -> String -> Reader State}
  {step : State -> String × Json -> Except Fault State} (takes : Takes member step)
include takes

/-- A member is a step, and the members after it are read from there. -/
theorem membersWithin_cons {isFirst : Bool} {state : State} {name : String} {value : Json}
    {text rest : List Char} (ends : EndsNumber rest)
    (named : nextName isFirst text = .ok (some name, ':' :: (value.write.toList ++ rest)))
    (bound : Nat) : membersWithin member isFirst state (bound + 1) text =
      step state (name, value) >>= fun next => membersWithin member false next bound rest := by
  rw [membersWithin, bind_of_eq_ok named]
  exact bind_of_eq_map (takes state name value rest ends)

theorem membersWithin_later (entries : List (String × Json)) (rest : List Char) :
    ∀ state bound, entries.length < bound ->
      membersWithin member false state bound (laterText entries ++ '\x7d' :: rest) =
        (fun last => (last, rest)) <$> entries.foldlM step state := by
  induction entries with
  | nil =>
      intro state bound enough
      cases bound with
      | zero => exact absurd enough (Nat.not_lt_zero _)
      | succ bound => exact membersWithin_closing member false state bound rest
  | cons entry entries inductionHypothesis =>
      intro state bound enough
      cases bound with
      | zero => exact absurd enough (Nat.not_lt_zero _)
      | succ bound =>
          rw [laterText_cons, takes.membersWithin_cons (endsNumber_laterText entries rest)
            (nextName_later entry.1 _), List.foldlM_cons, map_bind]
          have fewer := Nat.lt_of_succ_lt_succ enough
          exact bind_congr fun next => inductionHypothesis next bound fewer

/-- A written object is read as its members are, one step after the other. -/
theorem members_write (entries : List (String × Json)) (state : State) (rest : List Char) :
    members member state ((writeMembers entries).toList ++ '\x7d' :: rest) =
      (fun last => (last, rest)) <$> entries.foldlM step state := by
  unfold members
  cases entries with
  | nil => exact membersWithin_closing member true state _ rest
  | cons entry entries =>
      have shorter := length_le_length_laterText entries
      rw [toList_writeMembers_cons, memberText_append,
        takes.membersWithin_cons (endsNumber_laterText entries rest) (nextName_first entry.1 _),
        List.foldlM_cons, map_bind]
      refine bind_congr fun next => takes.membersWithin_later entries rest next _ ?_
      simp only [List.length_append, List.length_cons]
      omega

end Takes

end Reader

end Json
end SchemaBindings
