import SchemaBindings.Proofs.Layers

namespace SchemaBindings

/-!
# The order of steps

A step whose condition fails for a descriptor does nothing, so an expression depends on the
active steps alone.  If all steps put layers around the text, it depends on nothing less:
the active layers and their order can be found again in the expression, whatever text they
are put around.

That text may itself look like layers, so there is no telling where the layers end by
looking at one expression.  Two expressions over the same text are compared instead, from
the outside.  Where both have a layer left, the layers agree and can be taken away; where
only one has a layer left, it is longer than the other.
-/

namespace Wrapper

theorem length_lt_length_wrap (layer : Wrapper) (text : String) :
    text.length < (layer.wrap text).length := by
  have shown : 0 < layer.closing.length := by
    cases layer <;> decide
  unfold wrap
  rw [String.length_append, String.length_append]
  omega

theorem infix_toList_wrapAll (layers : List Wrapper) (text : String) :
    text.toList <:+: (wrapAll layers text).toList := by
  induction layers with
  | nil => exact List.infix_rfl
  | cons layer layers inductionHypothesis =>
      refine inductionHypothesis.trans ?_
      rw [wrapAll_cons, wrap, String.toList_append, String.toList_append]
      exact List.infix_append _ _ _

theorem length_le_length_wrapAll (layers : List Wrapper) (text : String) :
    text.length ≤ (wrapAll layers text).length := by
  rw [← String.length_toList, ← String.length_toList]
  exact (infix_toList_wrapAll layers text).length_le

theorem wrapAll_cons_ne (layer : Wrapper) (layers : List Wrapper) (text : String) :
    wrapAll (layer :: layers) text ≠ text := by
  intro same
  have longer := length_lt_length_wrap layer (wrapAll layers text)
  have least := length_le_length_wrapAll layers text
  rw [← wrapAll_cons, same] at longer
  omega

/-- Around one and the same text, different layers give different texts. -/
theorem wrapAll_left_inj {layers others : List Wrapper} {text : String} :
    wrapAll layers text = wrapAll others text ↔ layers = others := by
  constructor
  · intro same
    induction layers generalizing others with
    | nil =>
        cases others with
        | nil => rfl
        | cons other others => exact absurd same.symm (wrapAll_cons_ne other others text)
    | cons layer layers inductionHypothesis =>
        cases others with
        | nil => exact absurd same (wrapAll_cons_ne layer layers text)
        | cons other others =>
            have ⟨outermost, inside⟩ := wrap_eq_wrap_iff.mp same
            rw [outermost, inductionHypothesis inside]
  · rintro rfl
    rfl

end Wrapper

/-! ## Steps that put layers -/

/-- A step that puts a layer around the text under a condition. -/
structure LayerStep where
  layer : Wrapper
  condition : Descriptor -> Bool

namespace LayerStep

/-- A pipeline of such steps. -/
def pipeline (steps : List LayerStep) : List Step :=
  steps.map fun step => step.layer.step step.condition

/-- The layers that a descriptor gets, in the order in which they are put around its text. -/
def activeLayers (field : Descriptor) (steps : List LayerStep) : List Wrapper :=
  (steps.filter fun step => step.condition field).map LayerStep.layer

variable {field : Descriptor}

/-- The last active step puts the outermost layer. -/
theorem renderFrom_pipeline (steps : List LayerStep) (text : String) :
    renderFrom (pipeline steps) field text =
      Wrapper.wrapAll (activeLayers field steps).reverse text := by
  induction steps generalizing text with
  | nil => rfl
  | cons step steps inductionHypothesis =>
      change renderFrom (pipeline steps) field
        (if step.condition field then step.layer.wrap text else text) = _
      rw [inductionHypothesis]
      unfold activeLayers
      by_cases active : step.condition field = true
      · simp [Wrapper.wrapAll, active]
      · simp [active]

/-- Layers only add around what is there, so an expression still holds all texts that it has
grown from. -/
theorem infix_of_mem_renderTrail {steps : List LayerStep} {text : String}
    (listed : text ∈ renderTrail (pipeline steps) field) :
    text.toList <:+: (render (pipeline steps) field).toList := by
  rcases List.mem_map.mp listed with ⟨count, _, rfl⟩
  have later : render (pipeline steps) field =
      renderFrom (pipeline (steps.drop count)) field
        (render ((pipeline steps).take count) field) := by
    rw [← render_append, pipeline, pipeline, List.map_drop, List.take_append_drop]
  rw [later, renderFrom_pipeline]
  exact Wrapper.infix_toList_wrapAll _ _

theorem render_pipeline_eq_iff {steps others : List LayerStep} :
    render (pipeline steps) field = render (pipeline others) field ↔
      activeLayers field steps = activeLayers field others := by
  unfold render
  rw [renderFrom_pipeline, renderFrom_pipeline, Wrapper.wrapAll_left_inj, List.reverse_inj]

theorem activeLayers_append (before after : List LayerStep) :
    activeLayers field (before ++ after) =
      activeLayers field before ++ activeLayers field after := by
  unfold activeLayers
  rw [List.filter_append, List.map_append]

theorem activeLayers_cons_of_pos {step : LayerStep} (active : step.condition field = true)
    (steps : List LayerStep) :
    activeLayers field (step :: steps) = step.layer :: activeLayers field steps := by
  simp [activeLayers, active]

theorem activeLayers_cons_of_neg {step : LayerStep} (inactive : step.condition field = false)
    (steps : List LayerStep) : activeLayers field (step :: steps) = activeLayers field steps := by
  simp [activeLayers, inactive]

/-- Two pipelines render a descriptor alike just if it gets the same layers from both in the
same order.  So a step that is not active may be left out wherever it stands, and two active
steps with different layers may nowhere change places. -/
theorem step_order_shows (field : Descriptor) :
    (∀ steps others : List LayerStep,
      render (pipeline steps) field = render (pipeline others) field ↔
        activeLayers field steps = activeLayers field others) ∧
    (∀ (before after : List LayerStep) (step : LayerStep), step.condition field = false ->
      render (pipeline (before ++ step :: after)) field =
        render (pipeline (before ++ after)) field) ∧
    ∀ (before after : List LayerStep) (first second : LayerStep),
      first.condition field = true -> second.condition field = true ->
      first.layer ≠ second.layer ->
      render (pipeline (before ++ first :: second :: after)) field ≠
        render (pipeline (before ++ second :: first :: after)) field := by
  refine ⟨fun steps others => render_pipeline_eq_iff, ?_, ?_⟩
  · intro before after step inactive
    apply render_pipeline_eq_iff.mpr
    rw [activeLayers_append, activeLayers_append, activeLayers_cons_of_neg inactive]
  · intro before after first second firstActive secondActive different same
    have layers := render_pipeline_eq_iff.mp same
    rw [activeLayers_append, activeLayers_append, activeLayers_cons_of_pos firstActive,
      activeLayers_cons_of_pos secondActive, activeLayers_cons_of_pos secondActive,
      activeLayers_cons_of_pos firstActive] at layers
    exact different (List.cons.inj (List.append_cancel_left layers)).1

/-- A mapped type whose target looks like layers itself. -/
theorem step_order_shows_lookalike :
    let field : Descriptor := ⟨"tags", "Tags", true, false, false, false, some "option(array(t))=?"⟩
    let array : LayerStep := ⟨.array, Descriptor.isList⟩
    let option : LayerStep := ⟨.option, fun _ => true⟩
    let mark : LayerStep := ⟨.optionalArgument, Descriptor.isNullable⟩
    mark.condition field = false ∧ array.condition field = true ∧ option.condition field = true ∧
      array.layer ≠ option.layer ∧
      render (pipeline [array, option]) field = "option(array(option(array(t))=?))" ∧
      render (pipeline ([array] ++ mark :: [option])) field =
        render (pipeline ([array] ++ [option])) field ∧
      render (pipeline ([] ++ array :: option :: [mark])) field ≠
        render (pipeline ([] ++ option :: array :: [mark])) field := by
  intro field array option mark
  have ⟨_, removed, exchanged⟩ := step_order_shows field
  exact ⟨rfl, rfl, rfl, by decide, rfl, removed [array] [option] mark rfl,
    exchanged [] [mark] array option rfl rfl (by decide)⟩

end LayerStep

end SchemaBindings
