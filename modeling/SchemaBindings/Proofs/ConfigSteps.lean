import Mathlib.Logic.Basic
import SchemaBindings.Proofs.ScalarLookup

namespace SchemaBindings

/-!
# Configurations built in steps

A configuration is built from another one in steps, each of which maps one scalar or says
whether to filter.  A step changes the answer to one question, the target of its name or the
flag, and to no other.  So after any steps each question is answered by the last step that
speaks about it, and by the first configuration if there is none.

A scalar map is determined by its answers.  So nothing else can be seen of the steps in what
they have built, neither in the map nor in the text.
-/

/-- A step in which a configuration is built. -/
inductive ConfigStep where
  | mapScalar (name target : String)
  | setFiltering (enabled : Bool)

namespace ConfigStep

def apply (config : Config) : ConfigStep -> Config
  | mapScalar name target => config.withScalar name target
  | setFiltering enabled => config.withFiltering enabled

/-- The configuration that some steps build from a first one. -/
def build (config : Config) (steps : List ConfigStep) : Config :=
  steps.foldl apply config

/-! ## What steps say -/

/-- The target that a step gives to a name. -/
def targetOf? (name : String) : ConfigStep -> Option String
  | mapScalar other target => if name = other then some target else none
  | setFiltering _ => none

/-- The flag that a step sets. -/
def flag? : ConfigStep -> Option Bool
  | mapScalar _ _ => none
  | setFiltering enabled => some enabled

theorem targetOf?_eq_some_iff {name target : String} {step : ConfigStep} :
    step.targetOf? name = some target ↔ step = mapScalar name target := by
  cases step with
  | mapScalar other written =>
      unfold targetOf?
      by_cases same : name = other
      · simp [same]
      · have different : ¬ other = name := fun named => same named.symm
        simp [same, different]
  | setFiltering enabled => exact ⟨nofun, nofun⟩

theorem targetOf?_eq_none_iff {name : String} {step : ConfigStep} :
    step.targetOf? name = none ↔ ∀ target, mapScalar name target ≠ step := by
  rw [Option.eq_none_iff_forall_ne_some]
  exact forall_congr' fun target => not_congr (targetOf?_eq_some_iff.trans eq_comm)

/-- The answer of the last step that has one. -/
def last? {Answer : Type} (answer? : ConfigStep -> Option Answer) (steps : List ConfigStep) :
    Option Answer :=
  steps.reverse.findSome? answer?

section

variable {Answer : Type} {answer? : ConfigStep -> Option Answer} {steps : List ConfigStep}

/-- A later step comes before an earlier one. -/
theorem last?_cons (first : ConfigStep) :
    last? answer? (first :: steps) = (last? answer? steps).or (answer? first) := by
  unfold last?
  rw [List.reverse_cons, List.findSome?_append, List.findSome?_singleton]

theorem last?_eq_none_iff : last? answer? steps = none ↔ ∀ step ∈ steps, answer? step = none := by
  unfold last?
  simp only [List.findSome?_eq_none_iff, List.mem_reverse]

theorem last?_eq_some_iff {answer : Answer} : last? answer? steps = some answer ↔
    ∃ before step after, steps = before ++ step :: after ∧ answer? step = some answer ∧
      ∀ later ∈ after, answer? later = none := by
  unfold last?
  rw [List.findSome?_eq_some_iff]
  constructor
  · rintro ⟨after, step, before, split, given, silent⟩
    refine ⟨before.reverse, step, after.reverse, ?_, given, fun later member => ?_⟩
    · rw [← List.reverse_reverse steps, split, List.reverse_append, List.reverse_cons,
        List.append_assoc]
      rfl
    · exact silent later (List.mem_reverse.mp member)
  · rintro ⟨before, step, after, rfl, given, silent⟩
    refine ⟨after.reverse, step, before.reverse, ?_, given, fun later member => ?_⟩
    · rw [List.reverse_append, List.reverse_cons, List.append_assoc]
      rfl
    · exact silent later (List.mem_reverse.mp member)

end

theorem last?_targetOf?_eq_some_iff {steps : List ConfigStep} {name target : String} :
    last? (targetOf? name) steps = some target ↔ ∃ before after,
      steps = before ++ mapScalar name target :: after ∧
        ∀ later, mapScalar name later ∉ after := by
  rw [last?_eq_some_iff]
  constructor
  · rintro ⟨before, step, after, split, given, silent⟩
    refine ⟨before, after, targetOf?_eq_some_iff.mp given ▸ split, fun later member => ?_⟩
    exact targetOf?_eq_none_iff.mp (silent _ member) later rfl
  · rintro ⟨before, after, split, silent⟩
    refine ⟨before, _, after, split, targetOf?_eq_some_iff.mpr rfl, fun step member => ?_⟩
    exact targetOf?_eq_none_iff.mpr fun later same => silent later (same ▸ member)

theorem last?_targetOf?_eq_none_iff {steps : List ConfigStep} {name : String} :
    last? (targetOf? name) steps = none ↔ ∀ target, mapScalar name target ∉ steps := by
  rw [last?_eq_none_iff]
  constructor
  · exact fun silent target member => targetOf?_eq_none_iff.mp (silent _ member) target rfl
  · intro unmapped step member
    exact targetOf?_eq_none_iff.mpr fun target same => unmapped target (same ▸ member)

/-! ## What is built -/

theorem find?_scalars_apply (config : Config) (step : ConfigStep) (name : String) :
    (apply config step).scalars.find? name =
      (step.targetOf? name).or (config.scalars.find? name) := by
  cases step with
  | mapScalar other target =>
      calc
        (config.scalars.insert other target).find? name =
            if name = other then some target else config.scalars.find? name :=
          config.scalars.find?_insert other target name
        _ = (if name = other then some target else none).or (config.scalars.find? name) :=
          (ScalarMap.ite_some_or _ target _).symm
  | setFiltering enabled => rfl

theorem filterInputs_apply (config : Config) (step : ConfigStep) :
    (apply config step).filterInputs = step.flag?.getD config.filterInputs := by
  cases step <;> rfl

theorem find?_scalars_build (config : Config) (steps : List ConfigStep) (name : String) :
    (build config steps).scalars.find? name =
      (last? (targetOf? name) steps).or (config.scalars.find? name) := by
  unfold build
  induction steps generalizing config with
  | nil => rfl
  | cons first steps inductionHypothesis =>
      rw [List.foldl_cons, inductionHypothesis, find?_scalars_apply, last?_cons, Option.or_assoc]

theorem filterInputs_build (config : Config) (steps : List ConfigStep) :
    (build config steps).filterInputs = (last? flag? steps).getD config.filterInputs := by
  unfold build
  induction steps generalizing config with
  | nil => rfl
  | cons first steps inductionHypothesis =>
      rw [List.foldl_cons, inductionHypothesis, filterInputs_apply, last?_cons]
      cases last? flag? steps with
      | none => rfl
      | some enabled => rfl

theorem find?_scalarMap_build (config : Config) (steps : List ConfigStep) (name : String) :
    (build config steps).scalarMap.find? name = (last? (targetOf? name) steps).or
      ((config.scalars.find? name).or (ScalarMap.builtIn.find? name)) := by
  unfold Config.scalarMap
  rw [ScalarMap.find?_overlay, find?_scalars_build, Option.or_assoc]

/-- A name is mapped if it is built in, or the first configuration or a step maps it. -/
theorem mem_names_scalarMap_build {config : Config} {steps : List ConfigStep} {name : String} :
    name ∈ (build config steps).scalarMap.names ↔ name ∈ ScalarMap.builtIn.names ∨
      name ∈ config.scalars.names ∨ ∃ target, mapScalar name target ∈ steps := by
  rw [← not_iff_not, ← ScalarMap.find?_eq_none_iff, find?_scalarMap_build, Option.or_eq_none_iff,
    Option.or_eq_none_iff, last?_targetOf?_eq_none_iff, ScalarMap.find?_eq_none_iff,
    ScalarMap.find?_eq_none_iff, not_or, not_or, not_exists]
  constructor
  · rintro ⟨mapped, own, builtIn⟩
    exact ⟨builtIn, own, mapped⟩
  · rintro ⟨builtIn, own, mapped⟩
    exact ⟨mapped, own, builtIn⟩

/-- Steps that answer every question alike build the same. -/
theorem build_congr (config : Config) {steps others : List ConfigStep}
    (targets : ∀ name, last? (targetOf? name) steps = last? (targetOf? name) others)
    (flags : last? flag? steps = last? flag? others) : build config steps = build config others := by
  have scalars : (build config steps).scalars = (build config others).scalars := by
    apply ScalarMap.eq_of_find?_eq
    intro name
    rw [find?_scalars_build, find?_scalars_build, targets]
  have filterInputs : (build config steps).filterInputs = (build config others).filterInputs := by
    rw [filterInputs_build, filterInputs_build, flags]
  exact (Config.mk.injEq _ _ _ _).mpr ⟨scalars, filterInputs⟩

/-- After any steps, a name is mapped to what the last step that maps it says, else to what the
first configuration maps it to, else to its built-in target.  The mapped names are those that have
one of these, in increasing order and each once.  Steps with the same last target of every name
and the same last flag build the same map and the same text, whatever else they say and in
whatever order. -/
theorem last_step_counts (config : Config) (steps : List ConfigStep) :
    let built := build config steps
    (∀ name, built.scalarMap.find? name = (last? (targetOf? name) steps).or
      ((config.scalars.find? name).or (ScalarMap.builtIn.find? name))) ∧
    (∀ name target, last? (targetOf? name) steps = some target ↔ ∃ before after,
      steps = before ++ mapScalar name target :: after ∧
        ∀ later, mapScalar name later ∉ after) ∧
    built.filterInputs = (last? flag? steps).getD config.filterInputs ∧
    built.scalarMap.names.Pairwise (· < ·) ∧
    (∀ name, name ∈ built.scalarMap.names ↔ name ∈ ScalarMap.builtIn.names ∨
      name ∈ config.scalars.names ∨ ∃ target, mapScalar name target ∈ steps) ∧
    ∀ others : List ConfigStep,
      (∀ name, last? (targetOf? name) others = last? (targetOf? name) steps) ->
      last? flag? others = last? flag? steps ->
      (build config others).scalarMap = built.scalarMap ∧
        (build config others).toText = built.toText := by
  intro built
  refine ⟨find?_scalarMap_build config steps, fun _ _ => last?_targetOf?_eq_some_iff,
    filterInputs_build config steps, ?_, fun _ => mem_names_scalarMap_build, ?_⟩
  · exact List.pairwise_map.mpr built.scalarMap.sorted
  · intro others targets flags
    have same : build config others = built := build_congr config targets flags
    exact ⟨congrArg Config.scalarMap same, congrArg Config.toText same⟩

/-- A name that is built in and mapped already, mapped twice more, and other steps that say the
same in the end. -/
theorem last_step_counts_shadowing :
    let config : Config := ⟨.ofPairs [("ID", "id"), ("Date", "Js.Date.t")], false⟩
    let steps := [mapScalar "ID" "Uuid.t", setFiltering true, mapScalar "Money" "money",
      mapScalar "ID" "Id.t"]
    let others := [mapScalar "Money" "cents", mapScalar "ID" "Id.t", setFiltering false,
      mapScalar "Money" "money", setFiltering true]
    (∀ name, last? (targetOf? name) others = last? (targetOf? name) steps) ∧
      last? flag? others = last? flag? steps ∧
      (build config steps).scalarMap.find? "ID" = some "Id.t" ∧
      (build config steps).scalarMap.find? "Date" = some "Js.Date.t" ∧
      (build config steps).scalarMap.find? "Int" = some "int" ∧
      (build config steps).scalarMap.find? "Url" = none ∧
      (build config others).toText = (build config steps).toText := by
  intro config steps others
  have targets : ∀ name, last? (targetOf? name) others = last? (targetOf? name) steps := by
    intro name
    by_cases id : name = "ID"
    · subst id
      decide
    · by_cases money : name = "Money"
      · subst money
        decide
      · have unmapped : ∀ target, mapScalar name target ∉ steps := by simp [steps, id, money]
        have otherUnmapped : ∀ target, mapScalar name target ∉ others := by
          simp [others, id, money]
        rw [last?_targetOf?_eq_none_iff.mpr unmapped,
          last?_targetOf?_eq_none_iff.mpr otherUnmapped]
  have ⟨answers, _, _, _, _, alike⟩ := last_step_counts config steps
  refine ⟨targets, rfl, ?_, ?_, ?_, ?_, (alike others targets rfl).2⟩
  all_goals
    rw [answers]
    decide +kernel

end ConfigStep

end SchemaBindings
