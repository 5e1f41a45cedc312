import SchemaBindings.Config.Basic

namespace SchemaBindings
namespace ScalarMap

/-!
# Looking up scalars

A scalar map is a sorted list of entries.  Looking up a name in it does not show
this: an insertion changes the answer for its own name and for no other, so of many
pairs that are inserted the last one of a name counts, and an overlay answers for its
own names and leaves the rest to the map beneath.

The order of the entries leaves nothing else to a map than its answers.  Inserting its
entries again restores it, and maps that give the same answers are equal.
-/

theorem lookup_cons_eq_ite (entry : String × String) (entries : List (String × String))
    (name : String) : (entry :: entries).lookup name =
      if name = entry.1 then some entry.2 else entries.lookup name := by
  rw [List.lookup_cons]
  by_cases same : name = entry.1
  · rw [if_pos same, beq_iff_eq.mpr same]
  · rw [if_neg same, beq_false_of_ne same]

/-- An answer under a condition comes before any other answer. -/
theorem ite_some_or (condition : Prop) [Decidable condition] (answer : String)
    (other : Option String) : (if condition then some answer else none).or other =
      if condition then some answer else other := by
  by_cases holds : condition
  · rw [if_pos holds, if_pos holds]
    rfl
  · rw [if_neg holds, if_neg holds]
    rfl

theorem lookup_insertEntry (name target other : String) (entries : List (String × String)) :
    (insertEntry name target entries).lookup other =
      if other = name then some target else entries.lookup other := by
  induction entries with
  | nil => rw [insertEntry, lookup_cons_eq_ite]
  | cons entry entries inductionHypothesis =>
      rcases entry with ⟨head, value⟩
      rw [insertEntry]
      by_cases before : name < head
      · rw [if_pos before, lookup_cons_eq_ite]
      · rw [if_neg before]
        by_cases equal : name = head
        · subst equal
          rw [if_pos rfl, lookup_cons_eq_ite, lookup_cons_eq_ite]
          by_cases same : other = name
          · rw [if_pos same, if_pos same]
          · rw [if_neg same, if_neg same, if_neg same]
        · rw [if_neg equal, lookup_cons_eq_ite, lookup_cons_eq_ite, inductionHypothesis]
          by_cases same : other = head
          · have different : other ≠ name := fun named => equal (named.symm.trans same)
            rw [if_pos same, if_neg different, if_pos same]
          · rw [if_neg same, if_neg same]

theorem find?_insert (scalars : ScalarMap) (name target other : String) :
    (scalars.insert name target).find? other =
      if other = name then some target else scalars.find? other :=
  lookup_insertEntry name target other scalars.entries

/-- Of the pairs of a name, the last one counts. -/
theorem find?_insertAll (scalars : ScalarMap) (pairs : List (String × String)) (name : String) :
    (scalars.insertAll pairs).find? name = (pairs.reverse.lookup name).or (scalars.find? name) := by
  unfold insertAll
  induction pairs generalizing scalars with
  | nil => rfl
  | cons pair pairs inductionHypothesis =>
      rw [List.foldl_cons, inductionHypothesis, find?_insert, List.reverse_cons,
        List.lookup_append, lookup_cons_eq_ite, List.lookup_nil, Option.or_assoc, ite_some_or]

/-! ## Entries in order -/

/-- A name behind all others is put at the end. -/
theorem insertEntry_of_all_lt {name : String} (target : String) {entries : List (String × String)}
    (behind : ∀ entry ∈ entries, entry.1 < name) :
    insertEntry name target entries = entries ++ [(name, target)] := by
  induction entries with
  | nil => rfl
  | cons entry entries inductionHypothesis =>
      have before : entry.1 < name := behind entry List.mem_cons_self
      have notFirst : ¬ name < entry.1 :=
        fun after => String.lt_irrefl _ (String.lt_trans before after)
      have different : name ≠ entry.1 := fun same => String.lt_irrefl name (same ▸ before)
      rw [insertEntry, if_neg notFirst, if_neg different,
        inductionHypothesis fun other member => behind other (List.mem_cons_of_mem _ member)]
      rfl

theorem entries_insertAll (scalars : ScalarMap) {entries : List (String × String)}
    (sorted : (scalars.entries ++ entries).Pairwise fun left right => left.1 < right.1) :
    (scalars.insertAll entries).entries = scalars.entries ++ entries := by
  unfold insertAll
  induction entries generalizing scalars with
  | nil => exact (List.append_nil _).symm
  | cons entry entries inductionHypothesis =>
      have inserted : (scalars.insert entry.1 entry.2).entries = scalars.entries ++ [entry] := by
        apply insertEntry_of_all_lt
        intro other member
        exact (List.pairwise_append.mp sorted).2.2 other member entry List.mem_cons_self
      have moved : (scalars.insert entry.1 entry.2).entries ++ entries =
          scalars.entries ++ entry :: entries := by
        rw [inserted, List.append_assoc, List.singleton_append]
      rw [List.foldl_cons, inductionHypothesis _ (moved ▸ sorted), moved]

/-- A map is made of its entries. -/
theorem ofPairs_entries (scalars : ScalarMap) : ofPairs scalars.entries = scalars := by
  have entries := empty.entries_insertAll scalars.sorted
  rcases scalars with ⟨entries, sorted⟩
  exact (ScalarMap.mk.injEq _ _ _ _).mpr entries

/-! ## Answers -/

theorem find?_overlay (scalars others : ScalarMap) (name : String) :
    (scalars.overlay others).find? name = (others.find? name).or (scalars.find? name) := by
  have own : (ofPairs others.entries).find? name =
      (others.entries.reverse.lookup name).or none := empty.find?_insertAll others.entries name
  rw [others.ofPairs_entries, Option.or_none] at own
  unfold overlay
  rw [find?_insertAll, own]

theorem find?_ofPairs_eq_some_iff {pairs : List (String × String)} {name target : String} :
    (ofPairs pairs).find? name = some target ↔
      ∃ before after, pairs = before ++ (name, target) :: after ∧ name ∉ after.map Prod.fst := by
  have absent : empty.find? name = none := rfl
  unfold ofPairs
  rw [find?_insertAll, absent, Option.or_none, List.lookup_eq_some_iff]
  constructor
  · rintro ⟨after, before, split, later⟩
    refine ⟨before.reverse, after.reverse, ?_, fun listed => ?_⟩
    · rw [← List.reverse_reverse pairs, split]
      simp
    · rcases List.mem_map.mp listed with ⟨pair, member, named⟩
      exact bne_iff_ne.mp (later pair (List.mem_reverse.mp member)) named.symm
  · rintro ⟨before, after, rfl, later⟩
    refine ⟨after.reverse, before.reverse, by simp, fun pair member => ?_⟩
    refine bne_iff_ne.mpr fun named => later (List.mem_map.mpr ⟨pair, ?_, named.symm⟩)
    exact List.mem_reverse.mp member

theorem find?_eq_some_iff {scalars : ScalarMap} {name target : String} :
    scalars.find? name = some target ↔ (name, target) ∈ scalars.entries := by
  unfold find?
  rw [List.lookup_eq_some_iff]
  constructor
  · rintro ⟨before, after, split, _⟩
    rw [split]
    exact List.mem_append_right _ List.mem_cons_self
  · intro member
    rcases List.append_of_mem member with ⟨before, after, split⟩
    refine ⟨before, after, split, fun entry earlier => bne_iff_ne.mpr ?_⟩
    have smaller := (List.pairwise_append.mp (split ▸ scalars.sorted)).2.2 entry earlier _
      List.mem_cons_self
    exact (Std.ne_of_lt smaller).symm

theorem find?_eq_none_iff {scalars : ScalarMap} {name : String} :
    scalars.find? name = none ↔ name ∉ scalars.names := by
  unfold find? names
  rw [List.lookup_eq_none_iff, List.mem_map]
  constructor
  · rintro missing ⟨entry, member, named⟩
    exact bne_iff_ne.mp (missing entry member) named.symm
  · intro missing entry member
    exact bne_iff_ne.mpr fun named => missing ⟨entry, member, named.symm⟩

/-- Maps that give the same answers are equal. -/
theorem eq_of_find?_eq {left right : ScalarMap}
    (same : ∀ name, left.find? name = right.find? name) : left = right := by
  have distinct (scalars : ScalarMap) : scalars.entries.Nodup :=
    scalars.sorted.imp fun before equal => Std.ne_of_lt before (congrArg Prod.fst equal)
  have permuted : left.entries.Perm right.entries := by
    rw [List.perm_ext_iff_of_nodup (distinct left) (distinct right)]
    rintro ⟨name, target⟩
    rw [← find?_eq_some_iff, ← find?_eq_some_iff, same]
  have entries : left.entries = right.entries :=
    permuted.eq_of_pairwise (fun _ _ _ _ before after =>
      absurd (String.lt_trans before after) (String.lt_irrefl _)) left.sorted right.sorted
  rcases left with ⟨leftEntries, _⟩
  rcases right with ⟨rightEntries, _⟩
  exact (ScalarMap.mk.injEq _ _ _ _).mpr entries

end ScalarMap

/-- Mapping one more scalar changes what its own name is mapped to in a run. -/
theorem Config.find?_scalarMap_withScalar (config : Config) (name target other : String) :
    (config.withScalar name target).scalarMap.find? other =
      if other = name then some target else config.scalarMap.find? other := by
  unfold scalarMap withScalar
  rw [ScalarMap.find?_overlay, ScalarMap.find?_overlay, ScalarMap.find?_insert,
    ← ScalarMap.ite_some_or, Option.or_assoc, ScalarMap.ite_some_or]

end SchemaBindings
