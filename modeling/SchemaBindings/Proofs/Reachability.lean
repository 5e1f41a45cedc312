import Mathlib.Data.Set.Card
import Mathlib.Logic.Relation
import SchemaBindings.Closure

namespace SchemaBindings

/-!
# The names that a closure reaches

The walk of `Closure` marks a name when it becomes pending and expands it later,
it keeps its marks from one visit to the next, and it follows names that have
several definitions or none.  What it computes does not depend on any of this.
The marked names are the names that some chain of references leads to, where a
chain may have no link at all and each link starts from the first definition of
its name.

`WalkInvariant` relates the marked names to the pending ones.  One expansion keeps
it, hence so do a whole walk and a whole sequence of visits.  With nothing left
pending it says that the marked names contain the seeds, are closed under
references, and are all reached.
-/

/-! ## Reached names -/

/-- The definition of the owner, which is the first input object of that name, has
an object-typed field whose type is the other name. -/
def RefersTo (inputs : List (Record Descriptor)) (owner name : String) : Prop :=
  ∃ input, (inputs.find? fun input => input.name == owner) = some input ∧
    ∃ field ∈ input.fields, field.isObject = true ∧ field.typeName = name

/-- A chain of zero or more references leads from a seed to the name. -/
def Reached (refers : String -> String -> Prop) (seeds : List String) (name : String) : Prop :=
  ∃ seed ∈ seeds, Relation.ReflTransGen refers seed name

variable {inputs : List (Record Descriptor)} {refers : String -> String -> Prop}
  {seeds : List String} {trail : Trail} {pending : List String}

theorem Reached.of_mem {name : String} (member : name ∈ seeds) : Reached refers seeds name :=
  ⟨name, member, .refl⟩

theorem Reached.next {owner name : String} (reached : Reached refers seeds owner)
    (refersTo : refers owner name) : Reached refers seeds name := by
  rcases reached with ⟨seed, member, chain⟩
  exact ⟨seed, member, chain.tail refersTo⟩

/-- A reached name is a seed, or the last link of its chain starts from another reached
name. -/
theorem Reached.seed_or_link {name : String} (reached : Reached refers seeds name) :
    name ∈ seeds ∨ ∃ owner, Reached refers seeds owner ∧ refers owner name := by
  rcases reached with ⟨seed, member, chain⟩
  rcases chain.cases_tail with same | ⟨owner, before, link⟩
  · exact Or.inl (same ▸ member)
  · exact Or.inr ⟨owner, ⟨seed, member, before⟩, link⟩

/-- Whatever contains the seeds and is closed under references contains every
reached name. -/
theorem Reached.least (keep : String -> Prop) (seeded : ∀ seed ∈ seeds, keep seed)
    (closed : ∀ owner, keep owner -> ∀ name, refers owner name -> keep name) {name : String}
    (reached : Reached refers seeds name) : keep name := by
  rcases reached with ⟨seed, member, chain⟩
  induction chain with
  | refl => exact seeded seed member
  | tail _ link inductionHypothesis => exact closed _ inductionHypothesis _ link

/-- More seeds and more references reach no fewer names. -/
theorem Reached.mono {others : List String} {relates : String -> String -> Prop}
    (seeded : ∀ seed ∈ seeds, Reached relates others seed)
    (linked : ∀ owner name, refers owner name -> relates owner name) {name : String}
    (reached : Reached refers seeds name) : Reached relates others name :=
  reached.least (Reached relates others) seeded fun owner kept name link =>
    kept.next (linked owner name link)

/-- Only the names among the seeds count, not their order or repetition. -/
theorem reached_congr {others : List String} (same : ∀ name, name ∈ seeds ↔ name ∈ others)
    (name : String) : Reached refers seeds name ↔ Reached refers others name := by
  constructor
  · exact Reached.mono (fun seed member => .of_mem ((same seed).mp member)) fun _ _ link => link
  · exact Reached.mono (fun seed member => .of_mem ((same seed).mpr member)) fun _ _ link => link

/-- Two kinds of reference that agree on a set of names reach the same names, if one
of them never leads out of the set. -/
theorem reached_congr_on {keep : String -> Prop} {relates : String -> String -> Prop}
    (seeded : ∀ seed ∈ seeds, keep seed)
    (closed : ∀ owner, keep owner -> ∀ name, refers owner name -> keep name)
    (agree : ∀ owner, keep owner -> ∀ name, refers owner name ↔ relates owner name)
    (name : String) : Reached refers seeds name ↔ Reached relates seeds name := by
  have forward : ∀ name, Reached refers seeds name -> keep name ∧ Reached relates seeds name := by
    intro name
    refine Reached.least (fun other => keep other ∧ Reached relates seeds other)
      (fun seed member => ⟨seeded seed member, .of_mem member⟩) ?_
    intro owner inside other link
    exact ⟨closed owner inside.1 other link, inside.2.next ((agree owner inside.1 other).mp link)⟩
  have backward : ∀ name, Reached relates seeds name -> keep name ∧ Reached refers seeds name := by
    intro name
    refine Reached.least (fun other => keep other ∧ Reached refers seeds other)
      (fun seed member => ⟨seeded seed member, .of_mem member⟩) ?_
    intro owner inside other link
    have linked := (agree owner inside.1 other).mpr link
    exact ⟨closed owner inside.1 other linked, inside.2.next linked⟩
  exact ⟨fun reached => (forward name reached).2, fun reached => (backward name reached).2⟩

/-! ## Names not seen before -/

theorem unseen_cons_of_mem {head : String} {seen : List String} (listed : head ∈ seen)
    (tail : List String) : unseen seen (head :: tail) = unseen seen tail :=
  if_pos (List.contains_iff_mem.mpr listed)

theorem unseen_cons_of_not_mem {head : String} {seen : List String} (new : head ∉ seen)
    (tail : List String) : unseen seen (head :: tail) = head :: unseen (seen ++ [head]) tail :=
  if_neg (mt List.contains_iff_mem.mp new)

theorem mem_unseen {name : String} (names : List String) :
    ∀ seen, name ∈ unseen seen names ↔ name ∈ names ∧ name ∉ seen := by
  induction names with
  | nil => simp [unseen]
  | cons head tail inductionHypothesis =>
      intro seen
      by_cases listed : head ∈ seen
      · rw [unseen_cons_of_mem listed, inductionHypothesis, List.mem_cons]
        constructor
        · exact fun found => ⟨Or.inr found.1, found.2⟩
        · rintro ⟨same | later, new⟩
          · exact absurd (same ▸ listed) new
          · exact ⟨later, new⟩
      · rw [unseen_cons_of_not_mem listed, List.mem_cons, inductionHypothesis, List.mem_cons,
          List.mem_append, List.mem_singleton]
        constructor
        · rintro (same | ⟨later, new⟩)
          · exact ⟨Or.inl same, same ▸ listed⟩
          · exact ⟨Or.inr later, fun member => new (Or.inl member)⟩
        · rintro ⟨same | later, new⟩
          · exact Or.inl same
          · by_cases same : name = head
            · exact Or.inl same
            · exact Or.inr ⟨later, fun member => member.elim new same⟩

theorem unseen_nodup (names : List String) : ∀ seen, (unseen seen names).Nodup := by
  induction names with
  | nil => simp [unseen]
  | cons head tail inductionHypothesis =>
      intro seen
      by_cases listed : head ∈ seen
      · rw [unseen_cons_of_mem listed]
        exact inductionHypothesis seen
      · rw [unseen_cons_of_not_mem listed]
        refine List.nodup_cons.mpr ⟨fun again => ?_, inductionHypothesis _⟩
        exact ((mem_unseen tail _).mp again).2 (List.mem_append_right seen List.mem_cons_self)

/-! ## The index -/

/-- The first definition of a name among input objects. -/
def definitionIn (inputs : List (Record Descriptor)) (name : String) :
    Option (Record Descriptor) :=
  inputs.find? fun input => input.name == name

namespace Index

variable {name : String}

/-- An input object answers for its name unless the index has had an answer before. -/
theorem definition?_orInsert (index : Index) (input : Record Descriptor) :
    (index.orInsert input).definition? name =
      (index.definition? name).or (if input.name = name then some input else none) := by
  by_cases new : index.definition? input.name = none
  · have single : [(input.name, input)].lookup name =
        if input.name = name then some input else none := by
      by_cases same : input.name = name
      · rw [if_pos same, List.lookup_cons, beq_iff_eq.mpr same.symm]
      · rw [if_neg same, List.lookup_cons, beq_false_of_ne (Ne.symm same)]
        rfl
    rw [orInsert, dif_pos new, ← single]
    exact List.lookup_append
  · rw [orInsert, dif_neg new]
    by_cases same : input.name = name
    · obtain ⟨known, found⟩ := Option.ne_none_iff_exists'.mp (same ▸ new)
      rw [found, Option.some_or]
    · rw [if_neg same, Option.or_none]

/-- Of input objects that are entered later only the first of a name can answer for it. -/
theorem definition?_foldl (inputs : List (Record Descriptor)) : ∀ index : Index,
    (inputs.foldl orInsert index).definition? name =
      (index.definition? name).or (definitionIn inputs name) := by
  induction inputs with
  | nil => exact fun index => Option.or_none.symm
  | cons input inputs inductionHypothesis =>
      intro index
      have first : definitionIn (input :: inputs) name =
          (if input.name = name then some input else none).or (definitionIn inputs name) := by
        unfold definitionIn
        by_cases same : input.name = name
        · have named : (input.name == name) = true := beq_iff_eq.mpr same
          rw [if_pos same, List.find?_cons, named, Option.some_or]
        · have other : (input.name == name) = false := beq_false_of_ne same
          rw [if_neg same, List.find?_cons, other, Option.none_or]
      rw [List.foldl_cons, inductionHypothesis, definition?_orInsert, first, Option.or_assoc]

/-- The index answers with the first definition of a name. -/
theorem definition?_ofInputs (inputs : List (Record Descriptor)) :
    (ofInputs inputs).definition? name = definitionIn inputs name :=
  definition?_foldl inputs empty

end Index

theorem references_ofInputs (inputs : List (Record Descriptor)) (name : String) :
    references (.ofInputs inputs) name =
      ((definitionIn inputs name).map fun input => objectNames input.fields).getD [] := by
  unfold references
  rw [Index.definition?_ofInputs]

theorem mem_references {owner name : String} :
    name ∈ references (.ofInputs inputs) owner ↔ RefersTo inputs owner name := by
  rw [references_ofInputs]
  unfold RefersTo definitionIn objectNames
  cases found : inputs.find? fun input => input.name == owner with
  | none => simp
  | some input => simp [and_assoc]

/-! ## What every expansion keeps -/

/-- The state of a walk from the seeds, between two expansions.  Every marked name is
either expanded or pending, so that in the end all marked names are expanded. -/
structure WalkInvariant (inputs : List (Record Descriptor)) (seeds : List String) (trail : Trail)
    (pending : List String) : Prop where
  distinct : trail.visited.Nodup
  accounted : trail.visited.Perm (trail.expanded ++ pending)
  seeded : ∀ seed ∈ seeds, seed ∈ trail.visited
  reached : ∀ name ∈ trail.visited, Reached (RefersTo inputs) seeds name
  closed : ∀ owner ∈ trail.expanded, ∀ name, RefersTo inputs owner name -> name ∈ trail.visited

namespace WalkInvariant

theorem start : WalkInvariant inputs [] ⟨[], []⟩ [] where
  distinct := List.nodup_nil
  accounted := List.Perm.nil
  seeded _ member := member
  reached _ member := absurd member List.not_mem_nil
  closed _ member := absurd member List.not_mem_nil

/-- One expansion keeps the invariant.  The expanded name was marked, so what it
refers to is reached; what it refers to is marked afterwards, so it may count as
expanded.  In the account what is found enters both sides once, and the expanded name only
changes sides. -/
theorem expand {name : String} (invariant : WalkInvariant inputs seeds trail (name :: pending)) :
    WalkInvariant inputs seeds
      ⟨trail.visited ++ unseen trail.visited (references (.ofInputs inputs) name), trail.expanded ++ [name]⟩
      ((unseen trail.visited (references (.ofInputs inputs) name)).reverse ++ pending) where
  distinct := by
    refine List.nodup_append.mpr ⟨invariant.distinct, unseen_nodup _ _, ?_⟩
    intro old marked new found same
    exact ((mem_unseen _ _).mp found).2 (same ▸ marked)
  accounted := by
    generalize unseen trail.visited (references (.ofInputs inputs) name) = found
    have before : (trail.visited ++ found).Perm (trail.expanded ++ name :: pending ++ found) :=
      invariant.accounted.append_right found
    have moved : (pending ++ found).Perm (found.reverse ++ pending) :=
      List.perm_append_comm.trans (List.Perm.append_right pending found.reverse_perm.symm)
    rw [List.append_assoc, List.cons_append] at before
    rw [List.append_assoc, List.singleton_append]
    exact before.trans (List.Perm.append_left trail.expanded (moved.cons name))
  seeded seed member := List.mem_append_left _ (invariant.seeded seed member)
  reached other member := by
    rcases List.mem_append.mp member with old | new
    · exact invariant.reached other old
    · have marked : name ∈ trail.visited :=
        invariant.accounted.mem_iff.mpr (List.mem_append_right _ List.mem_cons_self)
      have refersTo := mem_references.mp ((mem_unseen _ _).mp new).1
      exact (invariant.reached name marked).next refersTo
  closed owner member other refersTo := by
    apply List.mem_append.mpr
    rcases List.mem_append.mp member with old | new
    · exact Or.inl (invariant.closed owner old other refersTo)
    · have same : owner = name := List.mem_singleton.mp new
      by_cases marked : other ∈ trail.visited
      · exact Or.inl marked
      · exact Or.inr ((mem_unseen _ _).mpr ⟨mem_references.mpr (same ▸ refersTo), marked⟩)

/-- A walk keeps the invariant and leaves nothing pending. -/
theorem walk (invariant : WalkInvariant inputs seeds trail pending) :
    WalkInvariant inputs seeds (walkPending (.ofInputs inputs) trail pending) [] := by
  induction trail, pending using walkPending.induct (.ofInputs inputs) with
  | case1 trail =>
      rw [walkPending]
      exact invariant
  | case2 trail name pending found inductionHypothesis =>
      rw [walkPending]
      exact inductionHypothesis invariant.expand

/-- When nothing is pending, the marked names are the reached ones. -/
theorem mem_visited_iff (invariant : WalkInvariant inputs seeds trail []) (name : String) :
    name ∈ trail.visited ↔ Reached (RefersTo inputs) seeds name := by
  constructor
  · exact invariant.reached name
  · refine Reached.least (· ∈ trail.visited) invariant.seeded fun owner marked name refersTo => ?_
    have expanded : owner ∈ trail.expanded := by
      have accounted := invariant.accounted.mem_iff.mp marked
      rwa [List.append_nil] at accounted
    exact invariant.closed owner expanded name refersTo

end WalkInvariant

/-! ## Visits -/

namespace Closure

/-- A closure over the input objects that has visited the seeds and has nothing left
to expand. -/
structure Settled (closure : Closure) (inputs : List (Record Descriptor)) (seeds : List String) :
    Prop extends WalkInvariant inputs seeds closure.trail [] where
  index_eq : closure.index = .ofInputs inputs

theorem visit_of_mem {closure : Closure} {name : String} (marked : name ∈ closure.names) :
    closure.visit name = closure :=
  if_pos (List.contains_iff_mem.mpr marked)

theorem visit_of_not_mem {closure : Closure} {name : String} (unmarked : name ∉ closure.names) :
    closure.visit name = ⟨closure.index, walkPending closure.index
      ⟨closure.trail.visited ++ [name], closure.trail.expanded⟩ [name]⟩ :=
  if_neg (mt List.contains_iff_mem.mp unmarked)

/-- A visit adds its name to the seeds, whether or not it has anything to do. -/
theorem Settled.visit {closure : Closure} (settled : closure.Settled inputs seeds)
    (name : String) : (closure.visit name).Settled inputs (seeds ++ [name]) := by
  have sooner : ∀ other ∈ closure.names, Reached (RefersTo inputs) (seeds ++ [name]) other :=
    fun other member => (settled.reached other member).mono
      (fun seed listed => .of_mem (List.mem_append_left _ listed)) fun _ _ link => link
  by_cases marked : name ∈ closure.names
  · rw [visit_of_mem marked]
    refine { settled with seeded := ?_, reached := sooner }
    intro seed member
    rcases List.mem_append.mp member with old | new
    · exact settled.seeded seed old
    · exact List.mem_singleton.mp new ▸ marked
  · rw [visit_of_not_mem marked, settled.index_eq]
    refine ⟨WalkInvariant.walk ?_, rfl⟩
    constructor
    · refine List.nodup_append.mpr ⟨settled.distinct, List.nodup_singleton name, ?_⟩
      exact fun old member new added same => marked (List.mem_singleton.mp added ▸ same ▸ member)
    · have accounted := settled.accounted
      rw [List.append_nil] at accounted
      exact accounted.append_right [name]
    · intro seed member
      rcases List.mem_append.mp member with old | new
      · exact List.mem_append_left _ (settled.seeded seed old)
      · exact List.mem_append_right _ new
    · intro other member
      rcases List.mem_append.mp member with old | new
      · exact sooner other old
      · exact .of_mem (List.mem_append_right seeds new)
    · intro owner member other refersTo
      exact List.mem_append_left _ (settled.closed owner member other refersTo)

theorem Settled.visitAll {closure : Closure} (settled : closure.Settled inputs seeds)
    (names : List String) : (closure.visitAll names).Settled inputs (seeds ++ names) := by
  induction names generalizing closure seeds with
  | nil => rwa [List.append_nil]
  | cons name names inductionHypothesis =>
      have later := inductionHypothesis (settled.visit name)
      rwa [List.append_assoc, List.singleton_append] at later

theorem settled_ofSeeds (inputs : List (Record Descriptor)) (seeds : List String) :
    (ofSeeds inputs seeds).Settled inputs seeds := by
  have begun : (new inputs).Settled inputs [] := ⟨.start, rfl⟩
  exact begun.visitAll seeds

theorem mem_names_ofSeeds {name : String} :
    name ∈ (ofSeeds inputs seeds).names ↔ Reached (RefersTo inputs) seeds name :=
  (settled_ofSeeds inputs seeds).mem_visited_iff name

theorem names_ofSeeds_nodup (inputs : List (Record Descriptor)) (seeds : List String) :
    (ofSeeds inputs seeds).names.Nodup :=
  (settled_ofSeeds inputs seeds).distinct

theorem contains_ofSeeds {name : String} :
    (ofSeeds inputs seeds).contains name = true ↔ Reached (RefersTo inputs) seeds name :=
  List.contains_iff_mem.trans mem_names_ofSeeds

/-- The reached names depend on the seeds as a set. -/
theorem names_ofSeeds_perm {others : List String} (same : ∀ name, name ∈ seeds ↔ name ∈ others) :
    (ofSeeds inputs seeds).names.Perm (ofSeeds inputs others).names := by
  apply (List.perm_ext_iff_of_nodup (names_ofSeeds_nodup _ _) (names_ofSeeds_nodup _ _)).mpr
  intro name
  rw [mem_names_ofSeeds, mem_names_ofSeeds]
  exact reached_congr same name

end Closure

/-! ## Operations -/

/-- Some variable of the operations has the name as its object type. -/
def UsedBy (operations : List (Operation Descriptor)) (name : String) : Prop :=
  ∃ operation ∈ operations, ∃ declared ∈ operation.parameters,
    declared.isObject = true ∧ declared.typeName = name

theorem mem_seedNames {operations : List (Operation Descriptor)} {name : String} :
    name ∈ seedNames operations ↔ UsedBy operations name := by
  unfold seedNames UsedBy objectNames
  rw [mem_unseen, List.mem_flatMap]
  simp [and_assoc]

namespace Closure

/-! ## What visits compute -/

/-- Any sequence of visits, so also any beginning of a longer one, marks exactly the
names that its calls reach, and counts each of them once.  The closure of seeds or of
operations is therefore the same for the same set of seeds. -/
theorem visits_mark_reached_names (inputs : List (Record Descriptor)) :
    (∀ calls : List String,
      let closure := calls.foldl visit (new inputs)
      let reached := {name | Reached (RefersTo inputs) calls name}
      {name | name ∈ closure.names} = reached ∧
        (∀ name, closure.contains name = true ↔ name ∈ reached) ∧
        reached.Finite ∧ closure.size = reached.ncard) ∧
    (∀ seeds others : List String, (∀ name, name ∈ seeds ↔ name ∈ others) ->
      (ofSeeds inputs seeds).names.Perm (ofSeeds inputs others).names) ∧
    ∀ operations others : List (Operation Descriptor),
      (∀ name, UsedBy operations name ↔ UsedBy others name) ->
      (ofOperations inputs operations).names.Perm (ofOperations inputs others).names := by
  refine ⟨fun calls => ?_, fun seeds others same => names_ofSeeds_perm same, ?_⟩
  · intro closure reached
    have listed : {name | name ∈ closure.names} = reached :=
      Set.ext fun name => mem_names_ofSeeds
    have marked : (closure.names.toFinset : Set String) = reached := by
      rw [List.coe_toFinset, listed]
    have distinct : closure.names.Nodup := names_ofSeeds_nodup inputs calls
    refine ⟨listed, fun name => contains_ofSeeds, ?_, ?_⟩
    · rw [← marked]
      exact Finset.finite_toSet _
    · rw [← marked, Set.ncard_coe_finset, List.toFinset_card_of_nodup distinct]
      rfl
  · intro operations others same
    refine names_ofSeeds_perm fun name => ?_
    rw [mem_seedNames, mem_seedNames]
    exact same name

/-- A field of some type that is not known to be an enum or a scalar. -/
def link (name typeName : String) : Descriptor :=
  ⟨name, typeName, false, false, true, false, none⟩

/-- Two input objects that refer to each other, with a name that nothing defines and
a second definition that a closure never expands. -/
def entangled : List (Record Descriptor) :=
  [⟨"Left", none, [link "right" "Right"]⟩,
    ⟨"Right", none, [link "left" "Left", link "gone" "Gone"]⟩,
    ⟨"Left", none, [link "hidden" "Hidden"]⟩,
    ⟨"Hidden", none, []⟩]

theorem visits_mark_reached_names_entangled :
    (∀ name, name ∈ ["Left", "Right"] ↔ name ∈ ["Right", "Left", "Right"]) ∧
      (ofSeeds entangled ["Left", "Right"]).names.Perm
        (ofSeeds entangled ["Right", "Left", "Right"]).names ∧
      (∀ name, UsedBy [⟨none, .query, [link "l" "Left", link "r" "Right"]⟩] name ↔
        UsedBy [⟨none, .query, [link "r" "Right"]⟩, ⟨none, .query, [link "l" "Left"]⟩] name) ∧
      (ofOperations entangled [⟨none, .query, [link "l" "Left", link "r" "Right"]⟩]).names.Perm
        (ofOperations entangled
          [⟨none, .query, [link "r" "Right"]⟩, ⟨none, .query, [link "l" "Left"]⟩]).names := by
  have seeds : ∀ name, name ∈ ["Left", "Right"] ↔ name ∈ ["Right", "Left", "Right"] := by
    intro name
    simp only [List.mem_cons, List.not_mem_nil, or_false]
    tauto
  have used : ∀ name, UsedBy [⟨none, .query, [link "l" "Left", link "r" "Right"]⟩] name ↔
      UsedBy [⟨none, .query, [link "r" "Right"]⟩, ⟨none, .query, [link "l" "Left"]⟩] name := by
    intro name
    simp only [UsedBy, List.mem_cons, List.not_mem_nil, or_false]
    simp [link, Descriptor.isObject]
    tauto
  exact ⟨seeds, (visits_mark_reached_names entangled).2.1 _ _ seeds, used,
    (visits_mark_reached_names entangled).2.2 _ _ used⟩

example : (ofSeeds entangled ["Left"]).names = ["Left", "Right", "Gone"] := by
  decide +kernel

end Closure

end SchemaBindings
