import SchemaBindings.Descriptor

namespace SchemaBindings

/-!
Rendering by conditional steps.

A type expression grows from the base text of a descriptor: each step whose
condition holds for the descriptor transforms the text so far.  The order of
the steps is part of their meaning.
-/

/-- A transformation of a text, made only if a condition holds. -/
structure Step where
  condition : Descriptor -> Bool
  transform : String -> String

def Step.apply (step : Step) (field : Descriptor) (text : String) : String :=
  if step.condition field then step.transform text else text

/-- The text after some steps, starting from a given text. -/
def renderFrom (steps : List Step) (field : Descriptor) (text : String) : String :=
  steps.foldl (fun text step => step.apply field text) text

/-- The type expression of a descriptor. -/
def render (steps : List Step) (field : Descriptor) : String :=
  renderFrom steps field field.base

/-- The base text, then the text after each step. -/
def renderTrail (steps : List Step) (field : Descriptor) : List String :=
  (List.range (steps.length + 1)).map fun count => render (steps.take count) field

/-- Further steps go on from the expression that the first ones give. -/
theorem render_append (steps others : List Step) (field : Descriptor) :
    render (steps ++ others) field = renderFrom others field (render steps field) :=
  List.foldl_append

/-! ## Wrappers -/

/-- The layers around a type expression. -/
inductive Wrapper where
  | option
  | array
  | nullable
  | optionalArgument
  deriving DecidableEq

namespace Wrapper

def opening : Wrapper -> String
  | option => "option("
  | array => "array("
  | nullable => "Js.Nullable.t("
  | optionalArgument => ""

def closing : Wrapper -> String
  | option => ")"
  | array => ")"
  | nullable => ")"
  | optionalArgument => "=?"

def wrap (wrapper : Wrapper) (text : String) : String :=
  wrapper.opening ++ text ++ wrapper.closing

/-- The step that puts a layer around the text under a condition. -/
def step (wrapper : Wrapper) (condition : Descriptor -> Bool) : Step :=
  ⟨condition, wrapper.wrap⟩

end Wrapper

end SchemaBindings
