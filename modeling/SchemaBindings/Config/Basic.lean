import SchemaBindings.ScalarMap
import SchemaBindings.Json.Value

namespace SchemaBindings

/-!
Configurations of a run.
-/

/-- The options of a run: scalars that are mapped besides or instead of the built-in
ones, and whether only those input objects are kept that operations depend on. -/
structure Config where
  scalars : ScalarMap := .empty
  filterInputs : Bool := false
  deriving DecidableEq

namespace Config

/-- The configuration that maps one more scalar, or maps it anew. -/
def withScalar (config : Config) (name target : String) : Config :=
  { config with scalars := config.scalars.insert name target }

def withFiltering (config : Config) (enabled : Bool) : Config :=
  { config with filterInputs := enabled }

/-- The scalar map of a run: the built-in scalars overlaid with the configured
ones. -/
def scalarMap (config : Config) : ScalarMap :=
  ScalarMap.builtIn.overlay config.scalars

def scalarsMember : String := "scalars"

def filterMember : String := "filterInputTypes"

/-- A configuration as a JSON value; the scalars are in order of their names. -/
def toJson (config : Config) : Json :=
  .object
    [(scalarsMember, .object (config.scalars.entries.map fun entry => (entry.1, .string entry.2))),
      (filterMember, .bool config.filterInputs)]

def toText (config : Config) : String :=
  config.toJson.write

end Config

end SchemaBindings
