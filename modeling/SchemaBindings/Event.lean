namespace SchemaBindings

/-!
What a run reports about itself.  The events of a computation are a function
of the same values as its result, so that no result depends on them.
-/

inductive Level where
  | trace
  | debug
  | warn
  deriving DecidableEq

structure Event where
  level : Level
  message : String
  deriving DecidableEq

end SchemaBindings
