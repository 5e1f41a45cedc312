import Mathlib.Data.Prod.Lex
import SchemaBindings.Proofs.Reachability

namespace SchemaBindings

/-!
# Seeds by first use

The seeds of a closure are read off the variables of its operations, one operation after
the other.  The class of a variable is looked at before its type.  A name that occurs
first as an enum or as a scalar has not been seen by this, and it takes its place among
the seeds from its first use as an object type.

A use has a place, the index of its operation and its index among the variables there, and
places are compared in this order.  One more variable has the next place, and it adds its
type behind all seeds there are or adds nothing.  So the seeds are always in the order of
their first uses.  This order and the members of the list determine it, and so do the
seeds of single operations with the rule by which operations are put together.
-/

/-! ## Names not seen before -/

theorem unseen_append (first second : List String) : ∀ seen,
    unseen seen (first ++ second) =
      unseen seen first ++ unseen (seen ++ unseen seen first) second := by
  induction first with
  | nil => simp [unseen]
  | cons head tail inductionHypothesis =>
      intro seen
      by_cases listed : head ∈ seen
      · rw [List.cons_append, unseen_cons_of_mem listed, unseen_cons_of_mem listed,
          inductionHypothesis]
      · rw [List.cons_append, unseen_cons_of_not_mem listed, unseen_cons_of_not_mem listed,
          inductionHypothesis, List.cons_append, List.append_assoc, List.singleton_append]

/-- What was seen before takes names away and changes nothing else. -/
theorem unseen_eq_filter (names : List String) : ∀ seen,
    unseen seen names = (unseen [] names).filter fun name => decide (name ∉ seen) := by
  induction names with
  | nil => simp [unseen]
  | cons head tail inductionHypothesis =>
      intro seen
      have start : unseen [] (head :: tail) =
          head :: (unseen [] tail).filter fun name => decide (name ∉ [head]) := by
        rw [unseen_cons_of_not_mem List.not_mem_nil, List.nil_append, inductionHypothesis [head]]
      by_cases listed : head ∈ seen
      · have other {name : String} (new : name ∉ seen) : name ≠ head := fun same =>
          new (same ▸ listed)
        rw [unseen_cons_of_mem listed, start, inductionHypothesis seen,
          List.filter_cons_of_neg (by simpa using listed), List.filter_filter]
        refine List.filter_congr fun name _ => ?_
        by_cases new : name ∉ seen
        · simp [new, other new]
        · simp [new]
      · rw [unseen_cons_of_not_mem listed, start, inductionHypothesis (seen ++ [head]),
          List.filter_cons_of_pos (by simpa using listed), List.filter_filter]
        refine congrArg (head :: ·) (List.filter_congr fun name _ => ?_)
        simp [List.mem_append, Bool.decide_and]

/-! ## Places -/

/-- The variable at an index has the name as its type, and it is neither an enum nor a
scalar. -/
def UsedIn (parameters : List Descriptor) (name : String) (index : Nat) : Prop :=
  ∃ declared, parameters[index]? = some declared ∧
    declared.isEnum = false ∧ declared.scalar = none ∧ declared.typeName = name

/-- The name is used at a place: the index of an operation and the index of one of its
variables. -/
def UsedAt (operations : List (Operation Descriptor)) (name : String) (place : Nat × Nat) : Prop :=
  ∃ operation, operations[place.1]? = some operation ∧ UsedIn operation.parameters name place.2

/-- Some use of the name comes before all uses of the other, in an earlier operation or among
the earlier variables of the same one. -/
def UsedSooner (operations : List (Operation Descriptor)) (name other : String) : Prop :=
  ∃ place, UsedAt operations name place ∧
    ∀ later, UsedAt operations other later -> toLex place < toLex later

/-- The names are the types of the object-typed variables of some operations, each of them
once, by first use. -/
structure ListsSeeds (operations : List (Operation Descriptor)) (names : List String) : Prop where
  distinct : names.Nodup
  complete : ∀ name, name ∈ names ↔
    ∃ operation ∈ operations, ∃ declared ∈ operation.parameters,
      declared.isEnum = false ∧ declared.scalar = none ∧ declared.typeName = name
  ordered : names.Pairwise (UsedSooner operations)

variable {operations before : List (Operation Descriptor)} {operation : Operation Descriptor}
  {parameters : List Descriptor} {declared : Descriptor} {name other : String} {place : Nat × Nat}

theorem Descriptor.isObject_eq_true_iff :
    declared.isObject = true ↔ declared.isEnum = false ∧ declared.scalar = none := by
  simp [isObject]

theorem usedBy_iff_exists_usedAt :
    UsedBy operations name ↔ ∃ place, UsedAt operations name place := by
  constructor
  · rintro ⟨operation, listed, declared, member, object, typed⟩
    rcases List.mem_iff_getElem?.mp listed with ⟨outer, found⟩
    rcases List.mem_iff_getElem?.mp member with ⟨inner, there⟩
    have ⟨notEnum, notScalar⟩ := Descriptor.isObject_eq_true_iff.mp object
    exact ⟨(outer, inner), operation, found, declared, there, notEnum, notScalar, typed⟩
  · rintro ⟨place, operation, found, declared, there, notEnum, notScalar, typed⟩
    have object := Descriptor.isObject_eq_true_iff.mpr ⟨notEnum, notScalar⟩
    exact ⟨operation, List.mem_of_getElem? found, declared, List.mem_of_getElem? there, object,
      typed⟩

theorem getElem?_concat_eq_some_iff {α : Type} {values : List α} {last value : α} {index : Nat} :
    (values ++ [last])[index]? = some value ↔
      values[index]? = some value ∨ index = values.length ∧ last = value := by
  rcases lt_trichotomy index values.length with inside | same | outside
  · rw [List.getElem?_append_left inside]
    simp [inside.ne]
  · simp [same]
  · have above : (values ++ [last]).length ≤ index := by
      rw [List.length_append, List.length_singleton]
      exact outside
    rw [List.getElem?_eq_none above, List.getElem?_eq_none outside.le]
    simp [outside.ne']

theorem usedIn_concat_iff {index : Nat} :
    UsedIn (parameters ++ [declared]) name index ↔ UsedIn parameters name index ∨
      index = parameters.length ∧ declared.isObject = true ∧ declared.typeName = name := by
  simp only [UsedIn, getElem?_concat_eq_some_iff, or_and_right, exists_or, and_assoc,
    exists_and_left, exists_eq_left', Descriptor.isObject_eq_true_iff]

theorem usedAt_concat_iff :
    UsedAt (before ++ [operation]) name place ↔ UsedAt before name place ∨
      place.1 = before.length ∧ UsedIn operation.parameters name place.2 := by
  simp only [UsedAt, getElem?_concat_eq_some_iff, or_and_right, exists_or, and_assoc,
    exists_and_left, exists_eq_left']

/-! ## One more variable -/

/-- The operation with one more variable behind the others. -/
def Operation.declare (operation : Operation Descriptor) (declared : Descriptor) :
    Operation Descriptor :=
  { operation with parameters := operation.parameters ++ [declared] }

/-- One more variable leaves all uses where they are.  Its own use has the next place. -/
theorem usedAt_declare_iff :
    UsedAt (before ++ [operation.declare declared]) name place ↔
      UsedAt (before ++ [operation]) name place ∨
        place = (before.length, operation.parameters.length) ∧ declared.isObject = true ∧
          declared.typeName = name := by
  rw [usedAt_concat_iff, usedAt_concat_iff, Operation.declare, usedIn_concat_iff, Prod.ext_iff,
    and_or_left, or_assoc, and_assoc]

theorem UsedAt.lt_next (used : UsedAt (before ++ [operation]) name place) :
    toLex place < toLex (before.length, operation.parameters.length) := by
  apply Prod.Lex.toLex_lt_toLex.mpr
  rcases usedAt_concat_iff.mp used with ⟨earlier, found, _⟩ | ⟨last, declared, found, _⟩
  · exact Or.inl (List.getElem?_eq_some_iff.mp found).1
  · exact Or.inr ⟨last, (List.getElem?_eq_some_iff.mp found).1⟩

theorem seedNames_declare :
    seedNames (before ++ [operation.declare declared]) = seedNames (before ++ [operation]) ++
      unseen (seedNames (before ++ [operation])) (objectNames [declared]) := by
  unfold seedNames objectNames Operation.declare
  simp only [List.flatMap_append, List.flatMap_singleton, List.filter_append, List.map_append]
  rw [← List.append_assoc, unseen_append, List.nil_append]

/-- The only seed that one more variable may add is its type. -/
theorem unseen_objectNames_singleton (seen : List String) :
    unseen seen (objectNames [declared]) =
      if declared.isObject = true ∧ declared.typeName ∉ seen then [declared.typeName] else [] := by
  by_cases object : declared.isObject = true
  · by_cases listed : declared.typeName ∈ seen
    · simp [objectNames, object, listed, unseen]
    · simp [objectNames, object, listed, unseen]
  · simp [objectNames, object, unseen]

/-- One more variable keeps the order of first uses.  Seeds that were there are used sooner
than at its place, and a name that it adds is used there only. -/
theorem ordered_declare
    (ordered : (seedNames (before ++ [operation])).Pairwise (UsedSooner (before ++ [operation]))) :
    (seedNames (before ++ [operation.declare declared])).Pairwise
      (UsedSooner (before ++ [operation.declare declared])) := by
  rw [seedNames_declare, unseen_objectNames_singleton]
  refine List.pairwise_append.mpr ⟨?_, ?_, ?_⟩
  · refine ordered.imp fun {name other} sooner => ?_
    rcases sooner with ⟨place, used, sooner⟩
    refine ⟨place, usedAt_declare_iff.mpr (Or.inl used), fun later usedLater => ?_⟩
    rcases usedAt_declare_iff.mp usedLater with old | ⟨next, _⟩
    · exact sooner later old
    · exact next ▸ used.lt_next
  · split
    · exact List.pairwise_singleton _ _
    · exact List.Pairwise.nil
  · intro name listed other added
    rcases usedBy_iff_exists_usedAt.mp (mem_seedNames.mp listed) with ⟨place, used⟩
    refine ⟨place, usedAt_declare_iff.mpr (Or.inl used), fun later usedLater => ?_⟩
    have new : other ∉ seedNames (before ++ [operation]) := by
      rw [← unseen_objectNames_singleton] at added
      exact ((mem_unseen _ _).mp added).2
    rcases usedAt_declare_iff.mp usedLater with old | ⟨next, _⟩
    · exact absurd (mem_seedNames.mpr (usedBy_iff_exists_usedAt.mpr ⟨later, old⟩)) new
    · exact next ▸ used.lt_next

/-! ## All variables -/

theorem ordered_seedNames (operations : List (Operation Descriptor)) :
    (seedNames operations).Pairwise (UsedSooner operations) := by
  induction operations using List.reverseRecOn with
  | nil => exact List.Pairwise.nil
  | append_singleton before operation inductionHypothesis =>
      rcases operation with ⟨label, kind, parameters⟩
      induction parameters using List.reverseRecOn with
      | nil =>
          have seeds : seedNames (before ++ [⟨label, kind, []⟩]) = seedNames before := by
            simp [seedNames, objectNames]
          have uses : UsedAt (before ++ [⟨label, kind, []⟩]) = UsedAt before := by
            funext name place
            simp [usedAt_concat_iff, UsedIn]
          rw [seeds]
          unfold UsedSooner
          rw [uses]
          exact inductionHypothesis
      | append_singleton parameters declared ordered =>
          exact ordered_declare ordered

theorem listsSeeds_seedNames (operations : List (Operation Descriptor)) :
    ListsSeeds operations (seedNames operations) where
  distinct := unseen_nodup _ []
  complete name := by
    rw [mem_seedNames, UsedBy]
    simp only [Descriptor.isObject_eq_true_iff, and_assoc]
  ordered := ordered_seedNames operations

theorem UsedSooner.asymm (sooner : UsedSooner operations name other) :
    ¬UsedSooner operations other name := by
  rintro ⟨later, usedLater, first⟩
  rcases sooner with ⟨place, used, last⟩
  exact lt_asymm (last later usedLater) (first place used)

/-- Members and order leave no choice. -/
theorem listsSeeds_iff {names : List String} :
    ListsSeeds operations names ↔ names = seedNames operations := by
  constructor
  · intro lists
    have seeds := listsSeeds_seedNames operations
    have members : names.Perm (seedNames operations) :=
      (List.perm_ext_iff_of_nodup lists.distinct seeds.distinct).mpr fun name =>
        (lists.complete name).trans (seeds.complete name).symm
    exact members.eq_of_pairwise (fun _ _ _ _ sooner later => absurd later sooner.asymm)
      lists.ordered seeds.ordered
  · intro same
    exact same ▸ listsSeeds_seedNames operations

/-! ## Operations put together -/

/-- Later operations add their seeds that are not there yet, in their order. -/
theorem seedNames_append (first second : List (Operation Descriptor)) :
    seedNames (first ++ second) = seedNames first ++
      (seedNames second).filter fun name => decide (name ∉ seedNames first) := by
  unfold seedNames
  rw [List.flatMap_append, unseen_append, List.nil_append, unseen_eq_filter _ (unseen [] _)]

/-- The seeds of single operations and this rule give the seeds of all operations.  That nothing
is collected from none follows in front of an operation without variables. -/
theorem eq_seedNames_of_append {collect : List (Operation Descriptor) -> List String}
    (single : ∀ operation, collect [operation] = seedNames [operation])
    (appended : ∀ first second, collect (first ++ second) = collect first ++
      (collect second).filter fun name => decide (name ∉ collect first))
    (operations : List (Operation Descriptor)) : collect operations = seedNames operations := by
  induction operations with
  | nil =>
      have start := appended [] [⟨none, .query, []⟩]
      have noSeeds : seedNames [⟨none, .query, []⟩] = [] := rfl
      rw [List.nil_append, single, noSeeds] at start
      exact (List.append_eq_nil_iff.mp start.symm).1
  | cons operation operations inductionHypothesis =>
      calc
        collect (operation :: operations) = collect [operation] ++
            (collect operations).filter fun name => decide (name ∉ collect [operation]) :=
          appended [operation] operations
        _ = seedNames [operation] ++
            (seedNames operations).filter fun name => decide (name ∉ seedNames [operation]) := by
          rw [single, inductionHypothesis]
        _ = seedNames (operation :: operations) := (seedNames_append [operation] operations).symm

/-! ## The list of seeds -/

/-- The seeds are the types of all object-typed variables, each of them once, by first use,
and no other list is.  When operations are put together, the seeds of the first are followed
by those that the others add.  Whatever collects names by first use for single operations
does so for all operations just if it keeps to this rule. -/
theorem seeds_are_listed_by_first_use :
    (∀ (operations : List (Operation Descriptor)) (names : List String),
      ListsSeeds operations names ↔ names = seedNames operations) ∧
    (∀ first second : List (Operation Descriptor), seedNames (first ++ second) =
      seedNames first ++ (seedNames second).filter fun name => decide (name ∉ seedNames first)) ∧
    ∀ collect : List (Operation Descriptor) -> List String,
      (∀ operations, ListsSeeds operations (collect operations)) ↔
        (∀ operation, ListsSeeds [operation] (collect [operation])) ∧
          ∀ first second, collect (first ++ second) = collect first ++
            (collect second).filter fun name => decide (name ∉ collect first) := by
  refine ⟨fun operations names => listsSeeds_iff, seedNames_append, fun collect => ?_⟩
  constructor
  · intro lists
    have same : collect = seedNames := funext fun operations =>
      listsSeeds_iff.mp (lists operations)
    exact ⟨fun operation => lists [operation], same ▸ seedNames_append⟩
  · rintro ⟨single, appended⟩ operations
    apply listsSeeds_iff.mpr
    exact eq_seedNames_of_append (fun operation => listsSeeds_iff.mp (single operation)) appended
      operations

/-- A name counts from its first use as an object type, not from a use as an enum. -/
example : seedNames
    [⟨none, .query, [{ Closure.link "role" "Role" with isEnum := true }, Closure.link "b" "B"]⟩,
      ⟨none, .query, [Closure.link "c" "B", Closure.link "d" "A", Closure.link "e" "Role"]⟩] =
    ["B", "A", "Role"] := by
  decide

end SchemaBindings
