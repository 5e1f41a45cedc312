namespace SchemaBindings

/-!
Finite maps from scalar names to target type expressions.

A map is the list of its entries in strictly increasing order of their names,
so equal maps have equal entries whatever the order of the insertions.  Names
are compared by code points.
-/

/-- A map from scalar names to target type expressions. -/
structure ScalarMap where
  entries : List (String × String)
  sorted : entries.Pairwise fun left right => left.1 < right.1
  deriving DecidableEq

namespace ScalarMap

/-- Put an entry into its place among sorted entries, in place of an entry of
the same name. -/
def insertEntry (name target : String) : List (String × String) -> List (String × String)
  | [] => [(name, target)]
  | (head, value) :: tail =>
      if name < head then (name, target) :: (head, value) :: tail
      else if name = head then (name, target) :: tail
      else (head, value) :: insertEntry name target tail

theorem mem_insertEntry {name target : String} {entries : List (String × String)}
    {entry : String × String} (member : entry ∈ insertEntry name target entries) :
    entry.1 = name ∨ entry ∈ entries := by
  induction entries with
  | nil => simp_all [insertEntry]
  | cons head tail ih =>
      simp only [insertEntry] at member
      split at member
      · rcases List.mem_cons.mp member with same | later
        · exact Or.inl (same ▸ rfl)
        · exact Or.inr later
      · split at member
        · rcases List.mem_cons.mp member with same | later
          · exact Or.inl (same ▸ rfl)
          · exact Or.inr (List.mem_cons_of_mem _ later)
        · rcases List.mem_cons.mp member with same | later
          · exact Or.inr (same ▸ List.mem_cons_self)
          · exact (ih later).imp id (List.mem_cons_of_mem _)

theorem insertEntry_sorted {name target : String} {entries : List (String × String)}
    (sorted : entries.Pairwise fun left right => left.1 < right.1) :
    (insertEntry name target entries).Pairwise fun left right => left.1 < right.1 := by
  induction entries with
  | nil => simp [insertEntry]
  | cons head tail ih =>
      have ⟨below, tailSorted⟩ := List.pairwise_cons.mp sorted
      simp only [insertEntry]
      split
      case isTrue before =>
        refine List.pairwise_cons.mpr ⟨fun entry member => ?_, sorted⟩
        rcases List.mem_cons.mp member with same | later
        · exact same ▸ before
        · exact String.lt_trans before (below entry later)
      case isFalse notBefore =>
        split
        case isTrue same =>
          exact List.pairwise_cons.mpr ⟨fun entry member => same ▸ below entry member, tailSorted⟩
        case isFalse different =>
          have after : head.1 < name := by
            rcases Std.lt_trichotomy name head.1 with before | same | after
            · exact absurd before notBefore
            · exact absurd same different
            · exact after
          refine List.pairwise_cons.mpr ⟨fun entry member => ?_, ih tailSorted⟩
          rcases mem_insertEntry member with same | old
          · exact same ▸ after
          · exact below entry old

def empty : ScalarMap := ⟨[], List.Pairwise.nil⟩

/-- Map a name to a target, replacing what it was mapped to before. -/
def insert (scalars : ScalarMap) (name target : String) : ScalarMap :=
  ⟨insertEntry name target scalars.entries, insertEntry_sorted scalars.sorted⟩

/-- Insert pairs one after the other, so that the last pair of a name counts. -/
def insertAll (scalars : ScalarMap) (pairs : List (String × String)) : ScalarMap :=
  pairs.foldl (fun scalars pair => scalars.insert pair.1 pair.2) scalars

/-- The map of a list of pairs, of which the last of each name counts. -/
def ofPairs (pairs : List (String × String)) : ScalarMap :=
  empty.insertAll pairs

def find? (scalars : ScalarMap) (name : String) : Option String :=
  scalars.entries.lookup name

/-- The mapped names in increasing order. -/
def names (scalars : ScalarMap) : List String :=
  scalars.entries.map Prod.fst

/-- Lay the entries of a second map over a first. -/
def overlay (scalars others : ScalarMap) : ScalarMap :=
  scalars.insertAll others.entries

def builtIn : ScalarMap :=
  ofPairs [("String", "string"), ("Int", "int"), ("Float", "float"), ("Boolean", "bool"),
    ("ID", "string")]

end ScalarMap

end SchemaBindings
