import SchemaBindings.Proofs.ConfigText
import SchemaBindings.Proofs.PrintedOutput

namespace SchemaBindings
namespace Config

open Json

/-!
# Which objects are configurations

An object is read member by member, and what has been read so far is nothing but the two
options.  A member of another name leaves it alone, so the members of other names could as
well be missing.  An option changes it once and never again, so the whole object succeeds
just if each option is given at most once and is of its kind.

Among the scalars a name may be repeated.  They are inserted one after the other, so the last
one of a name is what the name is mapped to.
-/

/-! ## Values of a name -/

/-- The values of the members of a name. -/
def valuesNamed (name : String) (members : List (String × Json)) : List Json :=
  members.filterMap fun member => if member.1 = name then some member.2 else none

theorem valuesNamed_cons_of_eq {name : String} {member : String × Json} (same : member.1 = name)
    (members : List (String × Json)) :
    valuesNamed name (member :: members) = member.2 :: valuesNamed name members :=
  List.filterMap_cons_some (if_pos same)

theorem valuesNamed_cons_of_ne {name : String} {member : String × Json} (other : member.1 ≠ name)
    (members : List (String × Json)) :
    valuesNamed name (member :: members) = valuesNamed name members :=
  List.filterMap_cons_none (if_neg other)

theorem mem_valuesNamed {name : String} {value : Json} {members : List (String × Json)} :
    value ∈ valuesNamed name members ↔ (name, value) ∈ members := by
  unfold valuesNamed
  rw [List.mem_filterMap]
  constructor
  · rintro ⟨⟨other, found⟩, member, given⟩
    split at given
    case isTrue same =>
      cases given
      exact same ▸ member
    case isFalse => cases given
  · exact fun member => ⟨(name, value), member, if_pos rfl⟩

theorem length_valuesNamed (name : String) (members : List (String × Json)) :
    (valuesNamed name members).length = (members.map Prod.fst).count name := by
  induction members with
  | nil => rfl
  | cons member members inductionHypothesis =>
      rw [List.map_cons]
      by_cases same : member.1 = name
      · rw [valuesNamed_cons_of_eq same, same, List.count_cons_self, List.length_cons,
          inductionHypothesis]
      · rw [valuesNamed_cons_of_ne same, List.count_cons_of_ne same, inductionHypothesis]

/-! ## Options that are given once -/

/-- What is held of an option after its values: it may be given once, and not at all if it is
held before. -/
inductive Given (use : Json -> Except Fault Result) : Option Result -> List Json ->
    Option Result -> Prop
  | absent (held : Option Result) : Given use held [] held
  | once {value : Json} {result : Result} (used : use value = .ok result) :
      Given use none [value] (some result)

section

variable {Result Last : Type} {use : Json -> Except Fault Result}

theorem given_nil_iff {held after : Option Result} : Given use held [] after ↔ held = after := by
  constructor
  · rintro ⟨_⟩
    rfl
  · rintro rfl
    exact .absent held

theorem given_cons_iff {held after : Option Result} {value : Json} {values : List Json} :
    Given use held (value :: values) after ↔
      held = none ∧ ∃ result, use value = .ok result ∧ Given use (some result) values after := by
  constructor
  · rintro (_ | used)
    exact ⟨rfl, _, used, .absent _⟩
  · rintro ⟨rfl, result, used, later⟩
    cases later with
    | absent => exact .once used

theorem exists_given_iff {values : List Json} :
    (∃ after, Given use none values after) ↔
      values.length ≤ 1 ∧ ∀ value ∈ values, ∃ result, use value = .ok result := by
  cases values with
  | nil => simp [given_nil_iff]
  | cons value values =>
      constructor
      · rintro ⟨_, _ | used⟩
        refine ⟨Nat.le_refl 1, fun other member => ?_⟩
        rw [List.mem_singleton.mp member]
        exact ⟨_, used⟩
      · rintro ⟨single, used⟩
        have nothing : values = [] :=
          List.eq_nil_of_length_eq_zero (Nat.le_zero.mp (Nat.le_of_succ_le_succ single))
        subst nothing
        rcases used value List.mem_cons_self with ⟨result, used⟩
        exact ⟨some result, .once used⟩

theorem Given.of_mem {values : List Json} {after : Option Result} {value : Json}
    (given : Given use none values after) (member : value ∈ values) :
    ∃ result, use value = .ok result ∧ after = some result := by
  cases given with
  | absent => cases member
  | once used =>
      rw [List.mem_singleton.mp member]
      exact ⟨_, used, rfl⟩

/-- A member that is refused if it is held, and otherwise used before what follows. -/
theorem bind_once_eq_ok_iff {State : Type} {held : Option Result} {fault : Fault} {value : Json}
    {change : Result -> State} {next : State -> Except Fault Last} {last : Last} :
    ((if held.isSome then .error fault else change <$> use value) >>= next) = .ok last ↔
      held = none ∧ ∃ result, use value = .ok result ∧ next (change result) = .ok last := by
  cases held with
  | some result =>
      constructor
      · exact nofun
      · exact nofun
  | none =>
      cases use value with
      | error fault =>
          constructor
          · exact nofun
          · exact nofun
      | ok result =>
          constructor
          · exact fun read => ⟨rfl, result, rfl, read⟩
          · rintro ⟨_, _, same, read⟩
            cases same
            exact read

end

/-- Reading the members of an object succeeds just if it does so for both options. -/
theorem foldlM_add_eq_ok_iff {members : List (String × Json)} {held last : Members} :
    members.foldlM Members.add held = .ok last ↔
      Given scalarsOf held.scalars (valuesNamed scalarsMember members) last.scalars ∧
        Given asBool held.filterInputs (valuesNamed filterMember members) last.filterInputs := by
  induction members generalizing held with
  | nil =>
      change Except.ok held = Except.ok last ↔ Given _ _ [] _ ∧ Given _ _ [] _
      rw [given_nil_iff, given_nil_iff, Except.ok.injEq]
      rcases held with ⟨scalars, filterInputs⟩
      rcases last with ⟨lastScalars, lastFilter⟩
      rw [Members.mk.injEq]
  | cons member members inductionHypothesis =>
      rw [List.foldlM_cons, Members.add]
      by_cases scalars : member.1 = scalarsMember
      · have noFilter : member.1 ≠ filterMember := scalars.trans_ne (by decide)
        rw [if_pos scalars, bind_once_eq_ok_iff, valuesNamed_cons_of_eq scalars,
          valuesNamed_cons_of_ne noFilter, given_cons_iff]
        constructor
        · rintro ⟨free, scalars, used, read⟩
          have later := inductionHypothesis.mp read
          exact ⟨⟨free, scalars, used, later.1⟩, later.2⟩
        · rintro ⟨⟨free, scalars, used, given⟩, others⟩
          exact ⟨free, scalars, used, inductionHypothesis.mpr ⟨given, others⟩⟩
      · rw [if_neg scalars, valuesNamed_cons_of_ne scalars]
        by_cases filter : member.1 = filterMember
        · rw [if_pos filter, bind_once_eq_ok_iff, valuesNamed_cons_of_eq filter, given_cons_iff]
          constructor
          · rintro ⟨free, flag, used, read⟩
            have later := inductionHypothesis.mp read
            exact ⟨later.1, free, flag, used, later.2⟩
          · rintro ⟨others, free, flag, used, given⟩
            exact ⟨free, flag, used, inductionHypothesis.mpr ⟨others, given⟩⟩
        · rw [if_neg filter, valuesNamed_cons_of_ne filter]
          exact inductionHypothesis

/-! ## Scalars -/

theorem exists_eq_scalarMembers_iff {entries : List (String × Json)} :
    (∃ pairs, entries = scalarMembers pairs) ↔
      ∀ entry ∈ entries, ∃ target, entry.2 = .string target := by
  constructor
  · rintro ⟨pairs, rfl⟩ entry member
    rcases List.mem_map.mp member with ⟨pair, _, rfl⟩
    exact ⟨pair.2, rfl⟩
  · intro texts
    induction entries with
    | nil => exact ⟨[], rfl⟩
    | cons entry entries inductionHypothesis =>
        rcases entry with ⟨name, value⟩
        rcases texts _ List.mem_cons_self with ⟨target, rfl⟩
        obtain ⟨pairs, rfl⟩ := inductionHypothesis fun entry member =>
          texts entry (List.mem_cons_of_mem _ member)
        exact ⟨(name, target) :: pairs, rfl⟩

theorem foldlM_addScalar_eq_ok_iff {entries : List (String × Json)} {scalars last : ScalarMap} :
    entries.foldlM addScalar scalars = .ok last ↔
      ∃ pairs, entries = scalarMembers pairs ∧ last = scalars.insertAll pairs := by
  constructor
  · intro read
    induction entries generalizing scalars with
    | nil => exact ⟨[], rfl, (Except.ok.inj read).symm⟩
    | cons entry entries inductionHypothesis =>
        rcases entry with ⟨name, value⟩
        rw [List.foldlM_cons, addScalar] at read
        cases used : value.asText with
        | error fault =>
            rw [used] at read
            cases read
        | ok target =>
            rw [used] at read
            rcases inductionHypothesis read with ⟨pairs, rfl, rfl⟩
            rcases asText_eq_ok_iff.mp used with rfl
            exact ⟨(name, target) :: pairs, rfl, rfl⟩
  · rintro ⟨pairs, rfl, rfl⟩
    exact foldlM_addScalar_scalarMembers pairs scalars

theorem scalarsOf_eq_ok_iff {value : Json} {scalars : ScalarMap} :
    scalarsOf value = .ok scalars ↔
      ∃ pairs, value = .object (scalarMembers pairs) ∧ scalars = .ofPairs pairs := by
  constructor
  · intro used
    unfold scalarsOf at used
    split at used
    case h_1 entries =>
        rcases foldlM_addScalar_eq_ok_iff.mp used with ⟨pairs, rfl, same⟩
        exact ⟨pairs, rfl, same⟩
    case h_2 => exact absurd used (refused_ne_ok _ _ _)
  · rintro ⟨pairs, rfl, rfl⟩
    exact foldlM_addScalar_scalarMembers pairs .empty

theorem exists_scalarsOf_eq_ok_iff {value : Json} :
    (∃ scalars, scalarsOf value = .ok scalars) ↔
      ∃ entries, value = .object entries ∧
        ∀ entry ∈ entries, ∃ target, entry.2 = .string target := by
  constructor
  · rintro ⟨scalars, used⟩
    rcases scalarsOf_eq_ok_iff.mp used with ⟨pairs, rfl, _⟩
    exact ⟨_, rfl, exists_eq_scalarMembers_iff.mp ⟨pairs, rfl⟩⟩
  · rintro ⟨entries, rfl, texts⟩
    rcases exists_eq_scalarMembers_iff.mpr texts with ⟨pairs, rfl⟩
    exact ⟨_, scalarsOf_eq_ok_iff.mpr ⟨pairs, rfl, rfl⟩⟩

/-- The last pair of a name is the last member of that name. -/
theorem scalarMembers_split_iff {pairs : List (String × String)} {name target : String} :
    (∃ before after, scalarMembers pairs = before ++ (name, .string target) :: after ∧
      name ∉ after.map Prod.fst) ↔
      ∃ before after, pairs = before ++ (name, target) :: after ∧ name ∉ after.map Prod.fst := by
  have names (pairs : List (String × String)) :
      (scalarMembers pairs).map Prod.fst = pairs.map Prod.fst := List.map_map
  constructor
  · rintro ⟨before, after, split, later⟩
    rcases List.map_eq_append_iff.mp split with ⟨first, others, rfl, _, split⟩
    rcases List.map_eq_cons_iff.mp split with ⟨⟨other, text⟩, last, rfl, same, rfl⟩
    cases same
    exact ⟨first, last, rfl, names last ▸ later⟩
  · rintro ⟨before, after, rfl, later⟩
    exact ⟨scalarMembers before, scalarMembers after, List.map_append, (names after).symm ▸ later⟩

/-! ## Documented objects -/

/-- An object is acceptable if each option is given at most once and is of its kind; nothing
is asked of the other members. -/
structure Acceptable (members : List (String × Json)) : Prop where
  scalars_once : (members.map Prod.fst).count scalarsMember ≤ 1
  filter_once : (members.map Prod.fst).count filterMember ≤ 1
  scalars_texts : ∀ value, (scalarsMember, value) ∈ members ->
    ∃ entries, value = .object entries ∧ ∀ entry ∈ entries, ∃ target, entry.2 = .string target
  filter_flag : ∀ value, (filterMember, value) ∈ members -> ∃ flag, value = .bool flag

/-- An object describes a configuration that maps each name to the last target that the
object gives it, has the flag that the object gives, and has the default of an option that
the object does not give. -/
structure Describes (members : List (String × Json)) (config : Config) : Prop where
  no_scalars : scalarsMember ∉ members.map Prod.fst -> config.scalars = .empty
  last_target : ∀ entries, (scalarsMember, .object entries) ∈ members -> ∀ name target,
    config.scalars.find? name = some target ↔
      ∃ before after, entries = before ++ (name, .string target) :: after ∧
        name ∉ after.map Prod.fst
  no_flag : filterMember ∉ members.map Prod.fst -> config.filterInputs = false
  flag : ∀ flag, (filterMember, .bool flag) ∈ members -> config.filterInputs = flag

theorem acceptable_iff {members : List (String × Json)} :
    Acceptable members ↔ ∃ last, members.foldlM Members.add {} = .ok last := by
  have scalars : (∃ after, Given scalarsOf none (valuesNamed scalarsMember members) after) ↔ _ :=
    exists_given_iff
  have flags : (∃ after, Given asBool none (valuesNamed filterMember members) after) ↔ _ :=
    exists_given_iff
  simp only [length_valuesNamed, mem_valuesNamed, exists_scalarsOf_eq_ok_iff,
    asBool_eq_ok_iff] at scalars flags
  constructor
  · intro acceptable
    rcases scalars.mpr ⟨acceptable.scalars_once, acceptable.scalars_texts⟩ with ⟨after, given⟩
    rcases flags.mpr ⟨acceptable.filter_once, acceptable.filter_flag⟩ with ⟨flag, told⟩
    exact ⟨⟨after, flag⟩, foldlM_add_eq_ok_iff.mpr ⟨given, told⟩⟩
  · rintro ⟨last, read⟩
    have given := foldlM_add_eq_ok_iff.mp read
    have scalarsGiven := scalars.mp ⟨_, given.1⟩
    have flagGiven := flags.mp ⟨_, given.2⟩
    exact ⟨scalarsGiven.1, flagGiven.1, scalarsGiven.2, flagGiven.2⟩

theorem valuesNamed_of_notMem {name : String} {members : List (String × Json)}
    (missing : name ∉ members.map Prod.fst) : valuesNamed name members = [] := by
  rw [← List.length_eq_zero_iff, length_valuesNamed, List.count_eq_zero]
  exact missing

theorem describes_config {members : List (String × Json)} {last : Members}
    (read : members.foldlM Members.add {} = .ok last) : Describes members last.config := by
  rcases foldlM_add_eq_ok_iff.mp read with ⟨scalars, flags⟩
  refine ⟨fun missing => ?_, fun entries member name target => ?_, fun missing => ?_,
    fun flag member => ?_⟩
  · rw [valuesNamed_of_notMem missing, given_nil_iff] at scalars
    unfold Members.config
    rw [← scalars]
    rfl
  · rcases scalars.of_mem (mem_valuesNamed.mpr member) with ⟨result, used, given⟩
    rcases scalarsOf_eq_ok_iff.mp used with ⟨pairs, same, rfl⟩
    cases same
    unfold Members.config
    rw [given, scalarMembers_split_iff]
    exact ScalarMap.find?_ofPairs_eq_some_iff
  · rw [valuesNamed_of_notMem missing, given_nil_iff] at flags
    unfold Members.config
    rw [← flags]
    rfl
  · rcases flags.of_mem (mem_valuesNamed.mpr member) with ⟨result, used, given⟩
    cases asBool_eq_ok_iff.mp used
    unfold Members.config
    rw [given]
    rfl

/-- An acceptable object describes one configuration only. -/
theorem Describes.eq {members : List (String × Json)} {left right : Config}
    (acceptable : Acceptable members) (first : Describes members left)
    (second : Describes members right) : left = right := by
  have scalars : left.scalars = right.scalars := by
    by_cases given : scalarsMember ∈ members.map Prod.fst
    · rcases List.mem_map.mp given with ⟨⟨_, value⟩, member, rfl⟩
      rcases acceptable.scalars_texts value member with ⟨entries, rfl, _⟩
      refine ScalarMap.eq_of_find?_eq fun name => Option.ext fun target => ?_
      exact (first.last_target entries member name target).trans
        (second.last_target entries member name target).symm
    · rw [first.no_scalars given, second.no_scalars given]
  have flags : left.filterInputs = right.filterInputs := by
    by_cases given : filterMember ∈ members.map Prod.fst
    · rcases List.mem_map.mp given with ⟨⟨_, value⟩, member, rfl⟩
      rcases acceptable.filter_flag value member with ⟨flag, rfl⟩
      rw [first.flag flag member, second.flag flag member]
    · rw [first.no_flag given, second.no_flag given]
  rcases left with ⟨leftScalars, leftFlag⟩
  rcases right with ⟨rightScalars, rightFlag⟩
  exact (Config.mk.injEq _ _ _ _).mpr ⟨scalars, flags⟩

/-- Whether a member is one of the options. -/
def isOption (member : String × Json) : Bool :=
  member.1 = scalarsMember || member.1 = filterMember

/-- Only the options count. -/
theorem foldlM_add_filter_isOption (members : List (String × Json)) (held : Members) :
    (members.filter isOption).foldlM Members.add held = members.foldlM Members.add held := by
  rw [List.foldlM_filter]
  congr 1
  funext held member
  by_cases option : isOption member = true
  · rw [if_pos option]
  · have other : member.1 ≠ scalarsMember ∧ member.1 ≠ filterMember := by
      simpa [isOption] using option
    rw [if_neg option, Members.add, if_neg other.1, if_neg other.2]
    rfl

theorem ofText_eq_ok_iff (members : List (String × Json)) (config : Config) :
    ofText (Json.object members).write = .ok config ↔
      Acceptable members ∧ Describes members config := by
  rw [ofText_object]
  constructor
  · intro read
    cases added : members.foldlM Members.add {} with
    | error fault =>
        rw [added] at read
        cases read
    | ok last =>
        rw [added] at read
        cases read
        exact ⟨acceptable_iff.mpr ⟨last, added⟩, describes_config added⟩
  · rintro ⟨acceptable, describes⟩
    rcases acceptable_iff.mp acceptable with ⟨last, added⟩
    rw [added, describes.eq acceptable (describes_config added)]
    rfl

/-- An object is read just if it is acceptable, and then as the configuration that it
describes.  The members of other names change nothing, whatever their values are and wherever
they stand, and an object that is not acceptable is refused as a faulty configuration. -/
theorem objects_are_read_as_configurations (members : List (String × Json)) :
    ((∃ config, ofText (Json.object members).write = .ok config) ↔ Acceptable members) ∧
      (∀ config, ofText (Json.object members).write = .ok config ↔
        Acceptable members ∧ Describes members config) ∧
      (∀ others : List (String × Json), others.filter isOption = members.filter isOption ->
        ofText (Json.object others).write = ofText (Json.object members).write) ∧
      (¬ Acceptable members -> ∃ fault, ofText (Json.object members).write = .error fault ∧
        ∀ path, CommandLine.readConfig (some (path, .ofText (Json.object members).write)) =
          .error (.failure (.config fault))) := by
  refine ⟨?_, ofText_eq_ok_iff members, fun others same => ?_, fun unacceptable => ?_⟩
  · constructor
    · rintro ⟨config, read⟩
      exact ((ofText_eq_ok_iff members config).mp read).1
    · intro acceptable
      rcases acceptable_iff.mp acceptable with ⟨last, added⟩
      exact ⟨last.config, (ofText_eq_ok_iff members _).mpr ⟨acceptable, describes_config added⟩⟩
  · rw [ofText_object, ofText_object, ← foldlM_add_filter_isOption others, same,
      foldlM_add_filter_isOption]
  · cases read : ofText (Json.object members).write with
    | error fault =>
        refine ⟨fault, rfl, fun path => ?_⟩
        rw [CommandLine.readConfig_ofText, read]
        rfl
    | ok config => exact absurd ((ofText_eq_ok_iff members config).mp read).1 unacceptable

/-- A configuration that is part of a larger one. -/
def hostedMembers : List (String × Json) :=
  [("layout", .list [.null, .object [(scalarsMember, .bool true)], .number ⟨true, 1, [0, 5], 0⟩]),
    (filterMember, .bool true),
    ("\"\x7d,", .string "\\"),
    (scalarsMember, .object [("Date", .string "first"), ("Ratio", .string "float"),
      ("Date", .string "last")]),
    ("", .object [])]

theorem objects_are_read_as_configurations_hosted :
    ofText (Json.object hostedMembers).write =
        .ok (((({} : Config).withScalar "Date" "last").withScalar "Ratio" "float").withFiltering
          true) ∧
      ofText (Json.object (("size", .number ⟨false, 1, [], 400⟩) :: hostedMembers.filter isOption)).write =
        ofText (Json.object hostedMembers).write ∧
      let repeated := (Json.object ((filterMember, .bool true) :: hostedMembers)).write
      ∃ fault, ofText repeated = .error fault ∧
        ∀ path, CommandLine.readConfig (some (path, .ofText repeated)) =
          .error (.failure (.config fault)) := by
  refine ⟨?_, (objects_are_read_as_configurations hostedMembers).2.2.1 _ rfl,
    (objects_are_read_as_configurations _).2.2.2 fun acceptable =>
      absurd acceptable.filter_once (by decide)⟩
  rw [ofText_object]
  rfl

end Config
end SchemaBindings
