import SchemaBindings.Config.Reading
import SchemaBindings.Proofs.JsonMembers
import SchemaBindings.Proofs.ScalarLookup

namespace SchemaBindings

/-!
# Configurations survive their text

The text of an object is read as a configuration member by member.  What one member does is
`Members.add`: it sets an option that has not been set, from a value of the right kind, and a
member of another name does nothing.  So reading an object means adding its members one after
the other, whatever they are made of.

A configuration is written as an object with both options, the scalars in the order of their
names.  Reading inserts them again in this order, which restores the map.  So the text of a
configuration is read back as the configuration, and it is the text of no other one.
-/

namespace Config

open Json Json.Reader

/-! ## What members are read as -/

/-- Read the target of a scalar. -/
def readScalar (scalars : ScalarMap) (name : String) : Reader ScalarMap := do
  colon
  return scalars.insert name (← text)

/-- Insert the scalar that a member gives. -/
def addScalar (scalars : ScalarMap) (entry : String × Json) : Except Fault ScalarMap :=
  scalars.insert entry.1 <$> entry.2.asText

/-- The scalars that a value gives. -/
def scalarsOf : Json -> Except Fault ScalarMap
  | .object entries => entries.foldlM addScalar .empty
  | value => value.refused .object

/-- What has been read of a configuration after one more member. -/
def Members.add (members : Members) (entry : String × Json) : Except Fault Members :=
  if entry.1 = scalarsMember then
    if members.scalars.isSome then .error (.duplicate entry.1)
    else (fun scalars => { members with scalars := some scalars }) <$> scalarsOf entry.2
  else if entry.1 = filterMember then
    if members.filterInputs.isSome then .error (.duplicate entry.1)
    else (fun flag => { members with filterInputs := some flag }) <$> entry.2.asBool
  else .ok members

theorem readScalar_takes : Takes readScalar addScalar := by
  intro scalars name value rest ends
  exact text_uses.member (scalars.insert name) value ends

theorem readScalars_uses : Uses readScalars scalarsOf := by
  intro value rest ends
  by_cases wanted : ∃ entries, value = .object entries
  · rcases wanted with ⟨entries, rfl⟩
    rw [toList_write_object, List.cons_append, List.append_assoc, List.singleton_append]
    unfold readScalars
    rw [bind_of_eq_ok (valueStart_cons rfl _), if_pos rfl, bind_of_eq_ok (skip_cons _ _)]
    exact readScalar_takes.members_write entries .empty rest
  · rcases exists_starts value with ⟨c, text, spelled, starts⟩
    have refusal : scalarsOf value = value.refused .object :=
      scalarsOf.eq_2 value fun entries same => wanted ⟨entries, same⟩
    rw [refusal, map_refused, spelled, List.cons_append]
    unfold readScalars
    rw [bind_of_eq_ok (valueStart_cons starts.visible _), if_neg (mt starts.object_of wanted)]
    exact mismatch_write spelled ends .object

theorem readMember_takes : Takes readMember Members.add := by
  intro held name value rest ends
  unfold readMember Members.add
  by_cases scalars : name = scalarsMember
  · rw [if_pos scalars, if_pos scalars]
    by_cases given : held.scalars.isSome
    · rw [if_pos given, if_pos given]
      rfl
    · rw [if_neg given, if_neg given]
      exact readScalars_uses.member (fun scalars => { held with scalars := some scalars }) value
        ends
  · rw [if_neg scalars, if_neg scalars]
    by_cases filter : name = filterMember
    · rw [if_pos filter, if_pos filter]
      by_cases given : held.filterInputs.isSome
      · rw [if_pos given, if_pos given]
        rfl
      · rw [if_neg given, if_neg given]
        exact bool_uses.member (fun flag => { held with filterInputs := some flag }) value ends
    · rw [if_neg filter, if_neg filter]
      exact skipValue_uses.member (fun _ => held) value ends

/-- The text of an object is read as its members are. -/
theorem ofText_object (entries : List (String × Json)) :
    ofText (Json.object entries).write = Members.config <$> entries.foldlM Members.add {} := by
  unfold ofText run reader
  rw [toList_write_object, bind_of_eq_ok (valueStart_cons rfl _), if_pos rfl,
    bind_of_eq_ok (skip_cons _ _), ← bind_pure_comp,
    bind_of_eq_map (readMember_takes.members_write entries {} [])]
  cases entries.foldlM Members.add {} with
  | error fault => rfl
  | ok members => rfl

/-! ## Reading back -/

/-- The entries of a map as the members of an object. -/
def scalarMembers (entries : List (String × String)) : List (String × Json) :=
  entries.map fun entry => (entry.1, .string entry.2)

theorem foldlM_addScalar_scalarMembers (entries : List (String × String)) (scalars : ScalarMap) :
    (scalarMembers entries).foldlM addScalar scalars = .ok (scalars.insertAll entries) := by
  induction entries generalizing scalars with
  | nil => rfl
  | cons entry entries inductionHypothesis =>
      exact inductionHypothesis (scalars.insert entry.1 entry.2)

theorem ofText_toText (config : Config) : ofText config.toText = .ok config := by
  have scalars : scalarsOf (.object (scalarMembers config.scalars.entries)) =
      .ok config.scalars :=
    (foldlM_addScalar_scalarMembers config.scalars.entries .empty).trans
      (congrArg Except.ok config.scalars.ofPairs_entries)
  have added : [(scalarsMember, .object (scalarMembers config.scalars.entries)),
      (filterMember, .bool config.filterInputs)].foldlM Members.add {} =
        .ok ⟨some config.scalars, some config.filterInputs⟩ := by
    rw [List.foldlM_cons, Members.add, if_pos rfl, scalars]
    rfl
  unfold toText toJson
  rw [ofText_object]
  exact congrArg (Members.config <$> ·) added

/-- The text of a configuration is read back, so it is the text of no other
configuration. -/
theorem texts_are_read_back (config : Config) :
    ofText config.toText = .ok config ∧
      ∀ other : Config, config.toText = other.toText ↔ config = other := by
  refine ⟨config.ofText_toText, fun other => ⟨fun same => ?_, congrArg toText⟩⟩
  have read := config.ofText_toText
  rw [same, other.ofText_toText] at read
  exact (Except.ok.inj read).symm

/-- A quote, a backslash, a line feed and another control character. -/
example : (({} : Config).withScalar "Say \"hi\"" "a\\b\n\x01").toText =
    "\x7b\"scalars\":\x7b\"Say \\\"hi\\\"\":\"a\\\\b\\n\\u0001\"\x7d,\"filterInputTypes\":false\x7d" := by
  decide

end Config

end SchemaBindings
