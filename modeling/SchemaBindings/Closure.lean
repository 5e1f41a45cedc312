import SchemaBindings.ResolvedSchema
import SchemaBindings.Event

namespace SchemaBindings

/-!
The input objects that operations depend on.

A walk starts from a name, marks every object-typed name that the fields of a
reached definition refer to, and expands each marked name once.  The name that
was marked last is expanded first.  A name without a definition is reached but
has nothing to expand, which the walk reports.
-/

/-- The names of a list that are not among those seen before, each at its first
occurrence. -/
def unseen (seen : List String) : List String -> List String
  | [] => []
  | name :: names =>
      if seen.contains name then unseen seen names
      else name :: unseen (seen ++ [name]) names

def objectNames (fields : List Descriptor) : List String :=
  (fields.filter Descriptor.isObject).map Descriptor.typeName

/-! ## The index -/

/-- Input objects by their names, each name once. -/
structure Index where
  entries : List (String × Record Descriptor)
  distinct : (entries.map Prod.fst).Nodup
  deriving DecidableEq

namespace Index

def empty : Index :=
  ⟨[], .nil⟩

def definition? (index : Index) (name : String) : Option (Record Descriptor) :=
  index.entries.lookup name

theorem distinct_append {index : Index} {input : Record Descriptor}
    (new : index.definition? input.name = none) :
    ((index.entries ++ [(input.name, input)]).map Prod.fst).Nodup := by
  rw [List.map_append, List.nodup_append]
  refine ⟨index.distinct, by simp, ?_⟩
  rintro _ member _ added rfl
  obtain ⟨entry, listed, same⟩ := List.mem_map.mp member
  have other := List.lookup_eq_none_iff.mp new entry listed
  rw [same, List.mem_singleton.mp added] at other
  simp at other

/-- Enter an input object under its name, unless the name has one. -/
def orInsert (index : Index) (input : Record Descriptor) : Index :=
  if new : index.definition? input.name = none then
    ⟨index.entries ++ [(input.name, input)], distinct_append new⟩
  else index

/-- The index of some input objects: of several with one name it has the first. -/
def ofInputs (inputs : List (Record Descriptor)) : Index :=
  inputs.foldl orInsert empty

end Index

/-- The names that the definition of a name refers to; none if there is no
definition. -/
def references (index : Index) (name : String) : List String :=
  ((index.definition? name).map fun input => objectNames input.fields).getD []

/-! ## The walk -/

/-- The names that some indexed input object refers to. -/
def allReferences (index : Index) : List String :=
  index.entries.flatMap fun entry => objectNames entry.2.fields

/-- How many references are still to names outside a list. -/
def countOutside (names : List String) (seen : List String) : Nat :=
  (names.filter fun name => !seen.contains name).length

theorem references_subset {index : Index} {name reached : String}
    (member : reached ∈ references index name) : reached ∈ allReferences index := by
  unfold references at member
  cases found : index.definition? name with
  | none => simp [found] at member
  | some input =>
      simp only [found, Option.map_some, Option.getD_some] at member
      obtain ⟨before, after, split, _⟩ := List.lookup_eq_some_iff.mp found
      refine List.mem_flatMap.mpr ⟨(name, input), ?_, member⟩
      rw [split]
      exact List.mem_append_right before List.mem_cons_self

theorem countOutside_append_lt (names seen : List String) {name : String}
    (member : name ∈ names) (new : seen.contains name = false) :
    countOutside names (seen ++ [name]) < countOutside names seen := by
  have shrink (others : List String) :
      countOutside others (seen ++ [name]) ≤ countOutside others seen := by
    induction others with
    | nil => simp [countOutside]
    | cons head tail ih =>
        simp only [countOutside, List.filter_cons] at ih ⊢
        grind
  induction names with
  | nil => simp at member
  | cons head tail ih =>
      have rest := shrink tail
      simp only [countOutside, List.filter_cons] at ih rest ⊢
      grind

theorem countOutside_unseen (names found : List String) :
    ∀ seen, (∀ name ∈ found, name ∈ names) ->
      countOutside names (seen ++ unseen seen found) + (unseen seen found).length
        ≤ countOutside names seen := by
  induction found with
  | nil => simp [unseen]
  | cons head tail ih =>
      intro seen inside
      unfold unseen
      split
      · exact ih seen fun name member => inside name (List.mem_cons_of_mem _ member)
      · next new =>
          have step := countOutside_append_lt names seen
            (inside head List.mem_cons_self) (by simpa using new)
          have rest := ih (seen ++ [head]) fun name member =>
            inside name (List.mem_cons_of_mem _ member)
          simp only [List.append_assoc, List.singleton_append] at rest
          simp only [List.length_cons]
          omega

/-- What a walk has marked, and what it has expanded in the order of
expansion. -/
structure Trail where
  visited : List String
  expanded : List String
  deriving DecidableEq

/-- Expand the pending names, the first one first, marking what they refer to.
Each name newly marked leaves the names still outside, so the walk ends. -/
def walkPending (index : Index) (trail : Trail) : List String -> Trail
  | [] => trail
  | name :: pending =>
      let found := unseen trail.visited (references index name)
      walkPending index ⟨trail.visited ++ found, trail.expanded ++ [name]⟩
        (found.reverse ++ pending)
termination_by pending => countOutside (allReferences index) trail.visited + pending.length
decreasing_by
  have bound := countOutside_unseen (allReferences index) (references index name) trail.visited
    fun _ member => references_subset member
  simp only [List.length_append, List.length_reverse, List.length_cons]
  omega

/-! ## Closures -/

/-- The names reached so far over indexed input objects. -/
structure Closure where
  index : Index
  trail : Trail
  deriving DecidableEq

namespace Closure

/-- The closure that has reached nothing. -/
def new (inputs : List (Record Descriptor)) : Closure :=
  ⟨.ofInputs inputs, [], []⟩

def contains (closure : Closure) (name : String) : Bool :=
  closure.trail.visited.contains name

/-- The number of reached names, those without a definition included. -/
def size (closure : Closure) : Nat :=
  closure.trail.visited.length

def isEmpty (closure : Closure) : Bool :=
  closure.trail.visited.isEmpty

/-- The reached names, in the order in which they were marked. -/
def names (closure : Closure) : List String :=
  closure.trail.visited

/-- Reach a name and everything that it depends on. -/
def visit (closure : Closure) (name : String) : Closure :=
  if closure.contains name then closure
  else
    { closure with
      trail := walkPending closure.index
        { closure.trail with visited := closure.trail.visited ++ [name] } [name] }

def visitAll (closure : Closure) (names : List String) : Closure :=
  names.foldl visit closure

def ofSeeds (inputs : List (Record Descriptor)) (seeds : List String) : Closure :=
  (new inputs).visitAll seeds

/-- The names that were expanded without a definition, in order. -/
def undefinedNames (closure : Closure) : List String :=
  closure.trail.expanded.filter fun name => (closure.index.definition? name).isNone

def warnings (closure : Closure) : List Event :=
  closure.undefinedNames.map fun name =>
    ⟨.warn, "Input type '" ++ name ++ "' has no definition; not expanding it"⟩

end Closure

/-! ## Operations -/

/-- The object-typed variable types of the operations, each at its first
occurrence. -/
def seedNames (operations : List (Operation Descriptor)) : List String :=
  unseen [] (operations.flatMap fun operation => objectNames operation.parameters)

/-- The closure of the variables of the operations. -/
def Closure.ofOperations (inputs : List (Record Descriptor))
    (operations : List (Operation Descriptor)) : Closure :=
  ofSeeds inputs (seedNames operations)

/-- The input objects that the operations depend on, in the order in which they
are given. -/
def filterInputs (inputs : List (Record Descriptor)) (operations : List (Operation Descriptor)) :
    List (Record Descriptor) :=
  let closure := Closure.ofOperations inputs operations
  inputs.filter fun input => closure.contains input.name

/-- What filtering reports: the warnings of its walk, then how many input
objects it kept. -/
def filterEvents (inputs : List (Record Descriptor)) (operations : List (Operation Descriptor)) :
    List Event :=
  (Closure.ofOperations inputs operations).warnings ++
    [⟨.debug, "Input type closure kept " ++ toString (filterInputs inputs operations).length
      ++ " of " ++ toString inputs.length ++ " input objects"⟩]

end SchemaBindings
