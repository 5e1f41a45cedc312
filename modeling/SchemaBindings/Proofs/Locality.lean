import SchemaBindings.Proofs.Reachability

namespace SchemaBindings

/-!
# Filtering looks only at what it keeps

The input objects that operations depend on are found by walking over all input
objects, so the ones that are dropped could still have steered the walk.  They do
not.  A chain of references from the operations passes only through reached names,
and the first definition of a reached name is the same whether or not the
definitions of other names are looked at.  Two lists with the same reached part are
therefore filtered to the same list.
-/

variable {inputs others : List (Record Descriptor)} {seeds : List String}
  {operations : List (Operation Descriptor)}

/-- References from a name that is kept do not depend on definitions that are not. -/
theorem refersTo_filter {keep : String -> Bool} {owner name : String} (kept : keep owner = true) :
    RefersTo (inputs.filter fun input => keep input.name) owner name ↔
      RefersTo inputs owner name := by
  have same : (fun input : Record Descriptor =>
      decide (keep input.name = true ∧ (input.name == owner) = true)) =
        fun input => input.name == owner := by
    funext input
    rw [Bool.eq_iff_iff, decide_eq_true_iff, beq_iff_eq]
    exact ⟨fun both => both.2, fun named => ⟨named ▸ kept, named⟩⟩
  unfold RefersTo
  rw [List.find?_filter, same]

/-- If two lists have the same definitions of the names in a set that contains the
seeds and is closed under references, the seeds reach the same names over both. -/
theorem reached_iff_of_filter_eq {keep : String -> Bool} (seeded : ∀ seed ∈ seeds, keep seed = true)
    (closed : ∀ owner, keep owner = true -> ∀ name, RefersTo inputs owner name -> keep name = true)
    (same : (inputs.filter fun input => keep input.name) =
      others.filter fun input => keep input.name) (name : String) :
    Reached (RefersTo inputs) seeds name ↔ Reached (RefersTo others) seeds name := by
  refine reached_congr_on seeded closed (fun owner kept name => ?_) name
  rw [← refersTo_filter kept, same, refersTo_filter kept]

namespace Closure

theorem contains_ofOperations {name : String} :
    (ofOperations inputs operations).contains name = true ↔
      Reached (RefersTo inputs) (seedNames operations) name :=
  contains_ofSeeds

/-- Two closures contain the same names if their seeds reach the same names. -/
theorem contains_ofOperations_congr {fewer : List (Operation Descriptor)}
    (same : ∀ name, Reached (RefersTo inputs) (seedNames operations) name ↔
      Reached (RefersTo others) (seedNames fewer) name) (name : String) :
    (ofOperations inputs operations).contains name = (ofOperations others fewer).contains name := by
  rw [Bool.eq_iff_iff, contains_ofOperations, contains_ofOperations]
  exact same name

end Closure

open Closure

/-- Filtering keeps every definition of every reached name. -/
theorem mem_filterInputs {input : Record Descriptor} : input ∈ filterInputs inputs operations ↔
    input ∈ inputs ∧ Reached (RefersTo inputs) (seedNames operations) input.name := by
  rw [filterInputs, List.mem_filter, contains_ofOperations]

theorem filterInputs_congr
    (same : (inputs.filter fun input => (ofOperations inputs operations).contains input.name) =
      others.filter fun input => (ofOperations inputs operations).contains input.name) :
    filterInputs inputs operations = filterInputs others operations := by
  have reached := reached_iff_of_filter_eq
    (fun seed member => contains_ofOperations.mpr (.of_mem member))
    (fun owner kept name refersTo =>
      contains_ofOperations.mpr ((contains_ofOperations.mp kept).next refersTo)) same
  calc
    filterInputs inputs operations =
        others.filter fun input => (ofOperations inputs operations).contains input.name := same
    _ = filterInputs others operations := by
      refine List.filter_congr fun input _ => ?_
      exact contains_ofOperations_congr reached input.name

/-- Filtering by operations first does not change what fewer operations keep: the names of the
larger closure are names on which the two lists agree. -/
theorem filterInputs_filterInputs {fewer : List (Operation Descriptor)}
    (subset : fewer ⊆ operations) :
    filterInputs (filterInputs inputs operations) fewer = filterInputs inputs fewer := by
  have seeded : ∀ seed ∈ seedNames fewer, seed ∈ seedNames operations := by
    intro seed member
    rcases mem_seedNames.mp member with ⟨operation, listed, used⟩
    exact mem_seedNames.mpr ⟨operation, subset listed, used⟩
  have same : filterInputs inputs operations =
      (filterInputs inputs operations).filter fun input =>
        (ofOperations inputs operations).contains input.name := by
    simp only [filterInputs, List.filter_filter, Bool.and_self]
  have reached := reached_iff_of_filter_eq
    (fun seed member => contains_ofOperations.mpr (.of_mem (seeded seed member)))
    (fun owner kept name refersTo =>
      contains_ofOperations.mpr ((contains_ofOperations.mp kept).next refersTo)) same
  have inside : ∀ name, (ofOperations inputs fewer).contains name = true ->
      (ofOperations inputs operations).contains name = true := by
    intro name kept
    rw [contains_ofOperations] at kept ⊢
    exact kept.mono (fun seed member => .of_mem (seeded seed member)) fun _ _ link => link
  calc
    filterInputs (filterInputs inputs operations) fewer =
        (filterInputs inputs operations).filter fun input =>
          (ofOperations inputs fewer).contains input.name := by
      refine List.filter_congr fun input _ => ?_
      exact (contains_ofOperations_congr reached input.name).symm
    _ = inputs.filter fun input => (ofOperations inputs fewer).contains input.name := by
      rw [filterInputs, List.filter_filter]
      refine List.filter_congr fun input _ => ?_
      cases kept : (ofOperations inputs fewer).contains input.name with
      | false => rw [Bool.false_and]
      | true => rw [inside input.name kept, Bool.and_self]

/-- Definitions that a test drops may stand anywhere or be missing. -/
theorem filter_append_of_dropped {before added after : List (Record Descriptor)}
    {keep : Record Descriptor -> Bool} (dropped : ∀ input ∈ added, keep input = false) :
    (before ++ added ++ after).filter keep = (before ++ after).filter keep := by
  have none : added.filter keep = [] :=
    List.filter_eq_nil_iff.mpr fun input member => ne_true_of_eq_false (dropped input member)
  rw [List.filter_append, List.filter_append, List.filter_append, none, List.append_nil]

/-- Filtering depends only on the definitions of the names that the operations reach.
Unreached definitions may be inserted or deleted anywhere, filtering again changes
nothing, and filtering by some of the operations may start from what all of them keep. -/
theorem filterInputs_is_local (operations : List (Operation Descriptor)) :
    (∀ inputs others : List (Record Descriptor),
      (inputs.filter fun input => (ofOperations inputs operations).contains input.name) =
        (others.filter fun input => (ofOperations inputs operations).contains input.name) ->
      filterInputs inputs operations = filterInputs others operations) ∧
    (∀ before added after : List (Record Descriptor),
      (∀ input ∈ added,
        (ofOperations (before ++ after) operations).contains input.name = false) ->
      filterInputs (before ++ added ++ after) operations =
        filterInputs (before ++ after) operations) ∧
    (∀ before deleted after : List (Record Descriptor),
      (∀ input ∈ deleted,
        (ofOperations (before ++ deleted ++ after) operations).contains input.name = false) ->
      filterInputs (before ++ after) operations =
        filterInputs (before ++ deleted ++ after) operations) ∧
    (∀ inputs, filterInputs (filterInputs inputs operations) operations =
      filterInputs inputs operations) ∧
    ∀ (inputs : List (Record Descriptor)) (fewer : List (Operation Descriptor)),
      fewer ⊆ operations ->
      filterInputs (filterInputs inputs operations) fewer = filterInputs inputs fewer := by
  refine ⟨fun inputs others same => filterInputs_congr same, ?_, ?_, ?_, ?_⟩
  · intro before added after unreached
    exact (filterInputs_congr (filter_append_of_dropped unreached).symm).symm
  · intro before deleted after unreached
    exact (filterInputs_congr (filter_append_of_dropped unreached)).symm
  · exact fun inputs => filterInputs_filterInputs (List.Subset.refl operations)
  · exact fun inputs fewer subset => filterInputs_filterInputs subset

/-- A query with one variable for each of the type names. -/
def queryOf (typeNames : List String) : Operation Descriptor :=
  ⟨none, .query, typeNames.map (Closure.link "input")⟩

theorem filterInputs_is_local_entangled :
    let operations := [queryOf ["Left"], queryOf ["Hidden"]]
    let spare : Record Descriptor := ⟨"Spare", none, [link "left" "Left"]⟩
    (entangled.filter fun input => (ofOperations entangled operations).contains input.name) =
        ((spare :: entangled).filter fun input =>
          (ofOperations entangled operations).contains input.name) ∧
      filterInputs entangled operations = filterInputs (spare :: entangled) operations ∧
      (∀ input ∈ [spare], (ofOperations entangled operations).contains input.name = false) ∧
      filterInputs ([] ++ [spare] ++ entangled) operations = filterInputs entangled operations ∧
      (∀ input ∈ [spare],
        (ofOperations ([] ++ [spare] ++ entangled) operations).contains input.name = false) ∧
      filterInputs entangled operations = filterInputs ([] ++ [spare] ++ entangled) operations ∧
      [queryOf ["Hidden"]] ⊆ operations ∧
      filterInputs (filterInputs entangled operations) [queryOf ["Hidden"]] =
        filterInputs entangled [queryOf ["Hidden"]] := by
  intro operations spare
  have same : (entangled.filter fun input =>
        (ofOperations entangled operations).contains input.name) =
      (spare :: entangled).filter fun input =>
        (ofOperations entangled operations).contains input.name := by decide +kernel
  have unreached : ∀ input ∈ [spare],
      (ofOperations entangled operations).contains input.name = false := by decide +kernel
  have still : ∀ input ∈ [spare],
      (ofOperations ([] ++ [spare] ++ entangled) operations).contains input.name = false := by
    decide +kernel
  have fewer : [queryOf ["Hidden"]] ⊆ operations := List.subset_cons_self _ _
  obtain ⟨general, inserted, deleted, _, narrowed⟩ := filterInputs_is_local operations
  exact ⟨same, general _ _ same, unreached, inserted [] [spare] entangled unreached, still,
    deleted [] [spare] entangled still, fewer, narrowed entangled _ fewer⟩

end SchemaBindings
