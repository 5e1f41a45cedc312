import SchemaBindings.Proofs.Locality

namespace SchemaBindings

/-!
# Filtering by several operations

All operations of a run share one closure.  A later operation is walked with the
marks that earlier ones have left, so its own walk ends wherever it meets a marked
name.  Nothing is lost by this, since what a marked name leads to is marked as well,
and nothing is gained.  An input object is kept for some operations just if it is kept
for one of them alone.

Everything else follows from this.  The kept input objects depend on the operations
as a set, they are united when operations are put together, and they can only grow.
Each statement gives the kept list as a filter of the given one, since that fixes the
order and the number of occurrences too.
-/

variable {inputs : List (Record Descriptor)} {operations : List (Operation Descriptor)}

/-- Whatever operations reach, one of them reaches alone. -/
theorem reached_seedNames_iff {refers : String -> String -> Prop} {name : String} :
    Reached refers (seedNames operations) name ↔
      ∃ operation ∈ operations, Reached refers (seedNames [operation]) name := by
  constructor
  · rintro ⟨seed, seeded, chain⟩
    rcases mem_seedNames.mp seeded with ⟨operation, member, used⟩
    have alone : seed ∈ seedNames [operation] :=
      mem_seedNames.mpr ⟨operation, List.mem_singleton.mpr rfl, used⟩
    exact ⟨operation, member, seed, alone, chain⟩
  · rintro ⟨operation, member, seed, seeded, chain⟩
    rcases mem_seedNames.mp seeded with ⟨other, listed, used⟩
    have same : other = operation := List.mem_singleton.mp listed
    exact ⟨seed, mem_seedNames.mpr ⟨operation, member, same ▸ used⟩, chain⟩

/-- An input object is kept just if one of the operations keeps it. -/
theorem mem_filterInputs_iff_exists {input : Record Descriptor} :
    input ∈ filterInputs inputs operations ↔
      ∃ operation ∈ operations, input ∈ filterInputs inputs [operation] := by
  rw [mem_filterInputs, reached_seedNames_iff]
  constructor
  · rintro ⟨listed, operation, member, reached⟩
    exact ⟨operation, member, mem_filterInputs.mpr ⟨listed, reached⟩⟩
  · rintro ⟨operation, member, kept⟩
    have ⟨listed, reached⟩ := mem_filterInputs.mp kept
    exact ⟨listed, operation, member, reached⟩

/-- Any test that accepts just the kept input objects selects the kept list. -/
theorem filterInputs_eq_filter {keep : Record Descriptor -> Prop} [DecidablePred keep]
    (kept : ∀ input, input ∈ filterInputs inputs operations ↔ input ∈ inputs ∧ keep input) :
    filterInputs inputs operations = inputs.filter fun input => decide (keep input) := by
  refine List.filter_congr fun input listed => ?_
  rw [Bool.eq_iff_iff, decide_eq_true_iff]
  constructor
  · intro reached
    exact ((kept input).mp (List.mem_filter.mpr ⟨listed, reached⟩)).2
  · intro accepted
    exact (List.mem_filter.mp ((kept input).mpr ⟨listed, accepted⟩)).2

theorem mem_of_mem_filterInputs {input : Record Descriptor}
    (kept : input ∈ filterInputs inputs operations) : input ∈ inputs :=
  (mem_filterInputs.mp kept).1

/-- The kept list is the given one with all occurrences of other input objects left
out. -/
theorem filterInputs_eq_filter_mem (inputs : List (Record Descriptor))
    (operations : List (Operation Descriptor)) : filterInputs inputs operations =
      inputs.filter fun input => decide (input ∈ filterInputs inputs operations) :=
  filterInputs_eq_filter fun _ => ⟨fun kept => ⟨mem_of_mem_filterInputs kept, kept⟩, And.right⟩

/-- What several groups of operations keep together, one of the groups keeps. -/
theorem mem_filterInputs_flatten {groups : List (List (Operation Descriptor))}
    {input : Record Descriptor} : input ∈ filterInputs inputs groups.flatten ↔
      ∃ group ∈ groups, input ∈ filterInputs inputs group := by
  rw [mem_filterInputs_iff_exists]
  constructor
  · rintro ⟨operation, member, kept⟩
    rcases List.mem_flatten.mp member with ⟨group, listed, inside⟩
    exact ⟨group, listed, mem_filterInputs_iff_exists.mpr ⟨operation, inside, kept⟩⟩
  · rintro ⟨group, listed, kept⟩
    rcases mem_filterInputs_iff_exists.mp kept with ⟨operation, inside, alone⟩
    exact ⟨operation, List.mem_flatten.mpr ⟨group, listed, inside⟩, alone⟩

theorem mem_filterInputs_append {first second : List (Operation Descriptor)}
    {input : Record Descriptor} : input ∈ filterInputs inputs (first ++ second) ↔
      input ∈ filterInputs inputs first ∨ input ∈ filterInputs inputs second := by
  have grouped : first ++ second = [first, second].flatten := by
    rw [List.flatten_cons, List.flatten_singleton]
  rw [grouped, mem_filterInputs_flatten]
  simp only [List.mem_cons, List.not_mem_nil, or_false, exists_eq_or_imp, exists_eq_left]

/-- More operations keep no fewer input objects. -/
theorem filterInputs_sublist_of_subset {fewer : List (Operation Descriptor)}
    (subset : fewer ⊆ operations) :
    (filterInputs inputs fewer).Sublist (filterInputs inputs operations) := by
  rw [filterInputs_eq_filter_mem inputs fewer, filterInputs_eq_filter_mem inputs operations]
  refine List.monotone_filter_right inputs fun input kept => ?_
  rcases mem_filterInputs_iff_exists.mp (of_decide_eq_true kept) with ⟨operation, member, alone⟩
  exact decide_eq_true (mem_filterInputs_iff_exists.mpr ⟨operation, subset member, alone⟩)

/-- Filtering by operations that are put together keeps every occurrence, in the given
order, of what filtering by one of the parts keeps.  So the operations count as a set,
in whatever order, how often and in which groups they are given, and more of them keep
no fewer input objects. -/
theorem filterInputs_distributes (inputs : List (Record Descriptor)) :
    (∀ (first second : List (Operation Descriptor)) (input : Record Descriptor),
      input ∈ filterInputs inputs (first ++ second) ↔
        input ∈ filterInputs inputs first ∨ input ∈ filterInputs inputs second) ∧
    (∀ operations : List (Operation Descriptor), filterInputs inputs operations =
      inputs.filter fun input => decide (input ∈ filterInputs inputs operations)) ∧
    (∀ first second : List (Operation Descriptor), filterInputs inputs (first ++ second) =
      inputs.filter fun input =>
        decide (input ∈ filterInputs inputs first ∨ input ∈ filterInputs inputs second)) ∧
    (∀ operations others : List (Operation Descriptor),
      (∀ operation, operation ∈ operations ↔ operation ∈ others) ->
      filterInputs inputs operations = filterInputs inputs others) ∧
    (∀ groups : List (List (Operation Descriptor)), filterInputs inputs groups.flatten =
      inputs.filter fun input => decide (∃ group ∈ groups, input ∈ filterInputs inputs group)) ∧
    ∀ fewer operations : List (Operation Descriptor), fewer ⊆ operations ->
      (filterInputs inputs fewer).Sublist (filterInputs inputs operations) := by
  refine ⟨fun first second input => mem_filterInputs_append,
    fun operations => filterInputs_eq_filter_mem inputs operations, ?_, ?_, ?_,
    fun fewer operations subset => filterInputs_sublist_of_subset subset⟩
  · intro first second
    refine filterInputs_eq_filter fun input => ?_
    rw [mem_filterInputs_append]
    exact ⟨fun kept => ⟨kept.elim mem_of_mem_filterInputs mem_of_mem_filterInputs, kept⟩, And.right⟩
  · intro operations others same
    have forward : (filterInputs inputs operations).Sublist (filterInputs inputs others) :=
      filterInputs_sublist_of_subset fun operation => (same operation).mp
    have backward : (filterInputs inputs others).Sublist (filterInputs inputs operations) :=
      filterInputs_sublist_of_subset fun operation => (same operation).mpr
    exact forward.antisymm backward
  · intro groups
    refine filterInputs_eq_filter fun input => ?_
    rw [mem_filterInputs_flatten]
    constructor
    · rintro ⟨group, member, kept⟩
      exact ⟨mem_of_mem_filterInputs kept, group, member, kept⟩
    · exact And.right

/-- Two queries whose walks meet in a cycle, over a list that defines a name of the
cycle twice. -/
theorem filterInputs_distributes_entangled :
    let left := queryOf ["Left"]
    let across := queryOf ["Hidden", "Right"]
    (∀ operation, operation ∈ [left, across, left] ↔ operation ∈ [across, left]) ∧
      filterInputs Closure.entangled [left, across, left] =
        filterInputs Closure.entangled [across, left] ∧
      [left] ⊆ [across, left] ∧
      (filterInputs Closure.entangled [left]).Sublist
        (filterInputs Closure.entangled [across, left]) ∧
      (filterInputs Closure.entangled [left]).map Record.name = ["Left", "Right", "Left"] ∧
      (filterInputs Closure.entangled [across, left]).map Record.name =
        ["Left", "Right", "Left", "Hidden"] := by
  intro left across
  have same : ∀ operation, operation ∈ [left, across, left] ↔ operation ∈ [across, left] := by
    intro operation
    simp only [List.mem_cons, List.not_mem_nil, or_false]
    tauto
  have fewer : [left] ⊆ [across, left] := List.subset_cons_self _ _
  obtain ⟨_, _, _, asSet, _, growing⟩ := filterInputs_distributes Closure.entangled
  exact ⟨same, asSet _ _ same, fewer, growing _ _ fewer, by decide +kernel, by decide +kernel⟩

end SchemaBindings
