import SchemaBindings.Proofs.Warnings

namespace SchemaBindings

/-!
# The work list of a walk

A visit keeps the names that it has marked but not yet expanded on a work list.  Each round
of its loop takes a name off the list and pushes those names that the definition of the name
refers to and that are not marked; for a name without a definition it warns instead.  Since
a round may push more names than it takes, it is not the list that gets shorter: every
pushed name leaves the names that are still unmarked, of which there are only so many among
the references of the input objects.

The rounds are described here as steps of a loop, apart from the function that walks.  The
steps cannot go on for ever, and where they end they have marked, taken and reported what the
function says.  What is known about the function then counts the rounds: over any sequence
of visits, each reached name is taken off the list once.
-/

/-! ## Rounds -/

/-- The loop of a visit between two rounds: the marked names, and the names on the work list,
the next one first. -/
structure Loop where
  marked : List String
  pending : List String

/-- Mark a name and put it on the work list, unless it is marked already. -/
def Loop.push (loop : Loop) (name : String) : Loop :=
  if loop.marked.contains name then loop
  else ⟨loop.marked ++ [name], name :: loop.pending⟩

/-- One round takes a name off the work list.  It pushes what the definition of the name
refers to, or it warns that there is no definition. -/
inductive Round (inputs : List (Record Descriptor)) :
    Loop -> String -> List Event -> Loop -> Prop
  | expand {marked pending : List String} {name : String} {input : Record Descriptor}
      (defined : definitionIn inputs name = some input) :
      Round inputs ⟨marked, name :: pending⟩ name []
        ((objectNames input.fields).foldl Loop.push ⟨marked, pending⟩)
  | warn {marked pending : List String} {name : String}
      (undefined : definitionIn inputs name = none) :
      Round inputs ⟨marked, name :: pending⟩ name [undefinedWarning name] ⟨marked, pending⟩

/-- Rounds until nothing is pending: the names that they take, what they report, and what is
marked in the end. -/
inductive Rounds (inputs : List (Record Descriptor)) :
    Loop -> List String -> List Event -> List String -> Prop
  | done (marked : List String) : Rounds inputs ⟨marked, []⟩ [] [] marked
  | next {loop middle : Loop} {name : String} {names marked : List String}
      {events others : List Event} (round : Round inputs loop name events middle)
      (later : Rounds inputs middle names others marked) :
      Rounds inputs loop (name :: names) (events ++ others) marked

/-- Visits one after the other, from some marked names on.  A marked name starts no loop. -/
inductive Visits (inputs : List (Record Descriptor)) :
    List String -> List String -> List String -> List Event -> List String -> Prop
  | done (marked : List String) : Visits inputs marked [] [] [] marked
  | known {name : String} {marked names taken last : List String} {events : List Event}
      (old : name ∈ marked) (later : Visits inputs marked names taken events last) :
      Visits inputs marked (name :: names) taken events last
  | walk {name : String} {marked middle names taken others last : List String}
      {events otherEvents : List Event} (new : name ∉ marked)
      (rounds : Rounds inputs ⟨marked ++ [name], [name]⟩ taken events middle)
      (later : Visits inputs middle names others otherEvents last) :
      Visits inputs marked (name :: names) (taken ++ others) (events ++ otherEvents) last

variable {inputs : List (Record Descriptor)}

/-! ## One round -/

theorem Loop.foldl_push (names : List String) : ∀ marked pending,
    names.foldl Loop.push ⟨marked, pending⟩ =
      ⟨marked ++ unseen marked names, (unseen marked names).reverse ++ pending⟩ := by
  induction names with
  | nil => simp [unseen]
  | cons name names inductionHypothesis =>
      intro marked pending
      rw [List.foldl_cons, unseen, push]
      by_cases listed : marked.contains name = true
      · rw [if_pos listed, if_pos listed, inductionHypothesis]
      · rw [if_neg listed, if_neg listed, inductionHypothesis]
        simp

/-- What is reported of the names that are taken. -/
def reportsOn (inputs : List (Record Descriptor)) (names : List String) : List Event :=
  (names.filter fun name => (definitionIn inputs name).isNone).map undefinedWarning

theorem reportsOn_append (names others : List String) :
    reportsOn inputs (names ++ others) = reportsOn inputs names ++ reportsOn inputs others := by
  unfold reportsOn
  rw [List.filter_append, List.map_append]

/-- The loop after the round that takes a name, as the walk goes on. -/
def expanded (inputs : List (Record Descriptor)) (name : String) (marked pending : List String) :
    Loop :=
  let found := unseen marked (references (.ofInputs inputs) name)
  ⟨marked ++ found, found.reverse ++ pending⟩

/-- Whatever name is next, there is a round. -/
theorem round_expanded (inputs : List (Record Descriptor)) (name : String)
    (marked pending : List String) :
    Round inputs ⟨marked, name :: pending⟩ name (reportsOn inputs [name])
      (expanded inputs name marked pending) := by
  cases found : definitionIn inputs name with
  | none =>
      have round : Round inputs ⟨marked, name :: pending⟩ name _ _ := .warn found
      simpa [reportsOn, expanded, references_ofInputs, found, unseen] using round
  | some input =>
      have round : Round inputs ⟨marked, name :: pending⟩ name _ _ := .expand found
      simpa [Loop.foldl_push, reportsOn, expanded, references_ofInputs, found] using round

/-- There is no other round. -/
theorem Round.eq_expanded {loop next : Loop} {name : String} {events : List Event}
    (round : Round inputs loop name events next) :
    ∃ marked pending, loop = ⟨marked, name :: pending⟩ ∧ events = reportsOn inputs [name] ∧
      next = expanded inputs name marked pending := by
  cases round with
  | @expand marked pending name input defined =>
      refine ⟨marked, pending, rfl, ?_, ?_⟩
      · simp [reportsOn, defined]
      · simp [Loop.foldl_push, expanded, references_ofInputs, defined]
  | @warn marked pending name undefined =>
      refine ⟨marked, pending, rfl, ?_, ?_⟩
      · simp [reportsOn, undefined]
      · simp [expanded, references_ofInputs, undefined, unseen]

/-! ## No loop goes on for ever -/

/-- The names that a loop may still take: those on its work list, and the references to names
that are not marked yet. -/
def Loop.weight (inputs : List (Record Descriptor)) (loop : Loop) : Nat :=
  countOutside (allReferences (.ofInputs inputs)) loop.marked + loop.pending.length

theorem Round.weight_lt {loop next : Loop} {name : String} {events : List Event}
    (round : Round inputs loop name events next) : next.weight inputs < loop.weight inputs := by
  obtain ⟨marked, pending, rfl, -, rfl⟩ := round.eq_expanded
  have bound := countOutside_unseen (allReferences (.ofInputs inputs))
    (references (.ofInputs inputs) name) marked fun _ member => references_subset member
  simp only [Loop.weight, expanded, List.length_append, List.length_reverse, List.length_cons]
  omega

theorem wellFounded_round (inputs : List (Record Descriptor)) :
    WellFounded fun next loop => ∃ name events, Round inputs loop name events next := by
  apply Subrelation.wf _ (measure (Loop.weight inputs)).wf
  rintro next loop ⟨name, events, round⟩
  exact round.weight_lt

theorem exists_rounds (inputs : List (Record Descriptor)) (loop : Loop) :
    ∃ names events marked, Rounds inputs loop names events marked := by
  induction loop using (wellFounded_round inputs).induction with
  | _ loop inductionHypothesis =>
      rcases loop with ⟨marked, pending⟩
      cases pending with
      | nil => exact ⟨[], [], marked, .done marked⟩
      | cons name pending =>
          have round := round_expanded inputs name marked pending
          rcases inductionHypothesis _ ⟨name, _, round⟩ with ⟨names, events, last, later⟩
          exact ⟨_, _, last, .next round later⟩

theorem exists_visits (inputs : List (Record Descriptor)) (names : List String) :
    ∀ marked, ∃ taken events last, Visits inputs marked names taken events last := by
  induction names with
  | nil => exact fun marked => ⟨[], [], marked, .done marked⟩
  | cons name names inductionHypothesis =>
      intro marked
      by_cases known : name ∈ marked
      · rcases inductionHypothesis marked with ⟨taken, events, last, later⟩
        exact ⟨taken, events, last, .known known later⟩
      · rcases exists_rounds inputs ⟨marked ++ [name], [name]⟩ with ⟨_, _, middle, rounds⟩
        rcases inductionHypothesis middle with ⟨_, _, last, later⟩
        exact ⟨_, _, last, .walk known rounds later⟩

/-! ## Loops and walks -/

theorem Rounds.walkPending_eq {loop : Loop} {names marked : List String} {events : List Event}
    (rounds : Rounds inputs loop names events marked) :
    events = reportsOn inputs names ∧ ∀ before,
      walkPending (.ofInputs inputs) ⟨loop.marked, before⟩ loop.pending =
        ⟨marked, before ++ names⟩ := by
  induction rounds with
  | done marked =>
      refine ⟨rfl, fun before => ?_⟩
      rw [walkPending, List.append_nil]
  | @next loop middle name names marked events others round later inductionHypothesis =>
      obtain ⟨start, pending, rfl, rfl, rfl⟩ := round.eq_expanded
      obtain ⟨reported, walked⟩ := inductionHypothesis
      refine ⟨reported ▸ (reportsOn_append [name] names).symm, fun before => ?_⟩
      have rest := walked (before ++ [name])
      rw [List.append_assoc, List.singleton_append] at rest
      rw [walkPending]
      exact rest

theorem Visits.visitAll_eq {marked names taken last : List String} {events : List Event}
    (visits : Visits inputs marked names taken events last) :
    events = reportsOn inputs taken ∧ ∀ before,
      (Closure.mk (.ofInputs inputs) ⟨marked, before⟩).visitAll names =
        ⟨.ofInputs inputs, last, before ++ taken⟩ := by
  unfold Closure.visitAll
  induction visits with
  | done marked =>
      refine ⟨rfl, fun before => ?_⟩
      rw [List.foldl_nil, List.append_nil]
  | known old later inductionHypothesis =>
      refine ⟨inductionHypothesis.1, fun before => ?_⟩
      rw [List.foldl_cons, Closure.visit_of_mem old, inductionHypothesis.2]
  | @walk name marked middle names taken others last events otherEvents new rounds later
      inductionHypothesis =>
      obtain ⟨reported, walked⟩ := rounds.walkPending_eq
      refine ⟨by rw [reportsOn_append, reported, inductionHypothesis.1], fun before => ?_⟩
      rw [List.foldl_cons, Closure.visit_of_not_mem new, walked, inductionHypothesis.2,
        List.append_assoc]

/-! ## Sequences of visits -/

/-- No loop of a visit goes on for ever, and any sequence of visits comes to an end.  Up to
there it has marked and reported what the closure says; every reached name was taken off the
work list once, so that there were as many rounds as there are reached names; and every
reached name without a definition was warned about once, and no other name.  Another visit
of a reached name changes nothing, the warnings included. -/
theorem visits_take_each_name_once (inputs : List (Record Descriptor)) (names : List String) :
    (WellFounded fun next loop => ∃ name events, Round inputs loop name events next) ∧
    (∃ taken events marked, Visits inputs [] names taken events marked) ∧
    ∀ taken events marked, Visits inputs [] names taken events marked ->
      let closure := (Closure.new inputs).visitAll names
      (closure.names = marked ∧ closure.warnings = events) ∧
      (∀ name, Reached (RefersTo inputs) names name -> taken.count name = 1) ∧
      (∀ name ∈ taken, Reached (RefersTo inputs) names name) ∧
      taken.length = closure.size ∧
      (∀ name, Reached (RefersTo inputs) names name -> closure.visit name = closure) ∧
      (∀ name, Reached (RefersTo inputs) names name -> name ∉ inputs.map Record.name ->
        events.count (undefinedWarning name) = 1) ∧
      ∀ event ∈ events, ∃ name, event = undefinedWarning name ∧
        Reached (RefersTo inputs) names name ∧ name ∉ inputs.map Record.name := by
  refine ⟨wellFounded_round inputs, exists_visits inputs names [], ?_⟩
  intro taken events marked visits closure
  obtain ⟨reported, visited⟩ := visits.visitAll_eq
  have ended : closure = ⟨.ofInputs inputs, marked, taken⟩ := visited []
  have expanded : taken = closure.trail.expanded := by rw [ended]
  have warned : closure.warnings = events := by
    rw [ended, reported]
    unfold Closure.warnings Closure.undefinedNames reportsOn
    simp only [Index.definition?_ofInputs]
    rfl
  have once : taken.Perm closure.names := expanded ▸ Closure.expanded_ofSeeds_perm inputs names
  have distinct : closure.names.Nodup := Closure.names_ofSeeds_nodup inputs names
  have reached {name : String} : name ∈ taken ↔ Reached (RefersTo inputs) names name :=
    once.mem_iff.trans Closure.mem_names_ofSeeds
  have undefined {name : String} : name ∈ closure.undefinedNames ↔
      Reached (RefersTo inputs) names name ∧ name ∉ inputs.map Record.name :=
    Closure.mem_undefinedNames_ofSeeds
  refine ⟨⟨by rw [ended]; rfl, warned⟩, ?_, ?_, once.length_eq, ?_, ?_, ?_⟩
  · intro name member
    exact List.count_eq_one_of_mem (once.nodup_iff.mpr distinct) (reached.mpr member)
  · exact fun name member => reached.mp member
  · intro name member
    exact Closure.visit_of_mem (Closure.mem_names_ofSeeds.mpr member)
  · intro name member missing
    have listed : undefinedWarning name ∈ closure.warnings :=
      List.mem_map_of_mem (undefined.mpr ⟨member, missing⟩)
    have single : closure.warnings.Nodup :=
      (Closure.undefinedNames_ofSeeds_nodup inputs names).map undefinedWarning_injective
    exact List.count_eq_one_of_mem (warned ▸ single) (warned ▸ listed)
  · intro event member
    rcases List.mem_map.mp (warned ▸ member) with ⟨name, listed, same⟩
    exact ⟨name, same.symm, undefined.mp listed⟩

theorem visits_take_each_name_once_entangled :
    let names := ["Left", "Right"]
    let taken := ["Left", "Right", "Gone"]
    let closure := (Closure.new Closure.entangled).visitAll names
    Visits Closure.entangled [] names taken [undefinedWarning "Gone"] taken ∧
      closure.names = taken ∧ closure.warnings = [undefinedWarning "Gone"] ∧
      Reached (RefersTo Closure.entangled) names "Gone" ∧
      "Gone" ∉ Closure.entangled.map Record.name ∧
      taken.count "Gone" = 1 ∧ taken.length = closure.size ∧
      closure.visit "Gone" = closure ∧
      [undefinedWarning "Gone"].count (undefinedWarning "Gone") = 1 ∧
      ∃ name, undefinedWarning "Gone" = undefinedWarning name ∧
        Reached (RefersTo Closure.entangled) names name ∧
        name ∉ Closure.entangled.map Record.name := by
  intro names taken closure
  have left : Round Closure.entangled ⟨["Left"], ["Left"]⟩ "Left" []
      ⟨["Left", "Right"], ["Right"]⟩ := round_expanded _ "Left" ["Left"] []
  have right : Round Closure.entangled ⟨["Left", "Right"], ["Right"]⟩ "Right" []
      ⟨taken, ["Gone"]⟩ := round_expanded _ "Right" ["Left", "Right"] []
  have gone : Round Closure.entangled ⟨taken, ["Gone"]⟩ "Gone" [undefinedWarning "Gone"]
      ⟨taken, []⟩ := .warn rfl
  have rounds : Rounds Closure.entangled ⟨["Left"], ["Left"]⟩ taken [undefinedWarning "Gone"]
      taken := .next left (.next right (.next gone (.done taken)))
  have later : Visits Closure.entangled taken ["Right"] [] [] taken :=
    .known (by decide) (.done taken)
  have visits : Visits Closure.entangled [] names taken [undefinedWarning "Gone"] taken :=
    (Visits.walk List.not_mem_nil rounds later :)
  obtain ⟨_, _, ended⟩ := visits_take_each_name_once Closure.entangled names
  obtain ⟨⟨marked, warned⟩, once, reached, counted, again, warnedOnce, only⟩ :=
    ended _ _ _ visits
  have lost : Reached (RefersTo Closure.entangled) names "Gone" := reached "Gone" (by decide)
  have missing : "Gone" ∉ Closure.entangled.map Record.name := by decide
  exact ⟨visits, marked, warned, lost, missing, once _ lost, counted, again _ lost,
    warnedOnce _ lost missing, only _ List.mem_cons_self⟩

end SchemaBindings
