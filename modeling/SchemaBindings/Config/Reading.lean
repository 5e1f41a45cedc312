import SchemaBindings.Config.Basic
import SchemaBindings.Json.Reader

namespace SchemaBindings
namespace Config

/-!
Configurations as JSON text.

A configuration is an object whose members are all optional and may come in any
order, or a list of their values in a fixed order that may stop early.  Members of
other names are skipped, so that a configuration can be part of a larger one.  A
member may not be repeated, but of a name that is repeated among the scalars the
last counts.
-/

open Json (Reader)
open Json.Reader

def readScalars : Reader ScalarMap := do
  let c ← valueStart
  if c = '\x7b' then
    skip
    members (fun scalars name => do
      colon
      return scalars.insert name (← text)) ScalarMap.empty
  else mismatch c .object

structure Members where
  scalars : Option ScalarMap := none
  filterInputs : Option Bool := none

/-- The configuration with the given members and defaults for the others. -/
def Members.config (members : Members) : Config :=
  ⟨members.scalars.getD .empty, members.filterInputs.getD false⟩

def readMember (members : Members) (name : String) : Reader Members := do
  if name = scalarsMember then
    if members.scalars.isSome then fail (.duplicate name)
    colon
    return { members with scalars := some (← readScalars) }
  else if name = filterMember then
    if members.filterInputs.isSome then fail (.duplicate name)
    colon
    return { members with filterInputs := some (← bool) }
  else
    colon
    skipValue
    return members

def reader : Reader Config := do
  let c ← valueStart
  if c = '\x7b' then
    skip
    Members.config <$> members readMember {}
  else if c = '[' then
    skip
    let scalars ← if ← nextItem true then some <$> readScalars else pure none
    let filterInputs ← if ← nextItem scalars.isNone then some <$> bool else pure none
    listEnd
    return Members.config ⟨scalars, filterInputs⟩
  else mismatch c .configuration

def ofText (text : String) : Except Json.Fault Config :=
  reader.run text

end Config
end SchemaBindings
