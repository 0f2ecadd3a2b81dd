import HostFacts.Property.Table

/-!
# Where a context reads properties

A context reads its properties from a plain mapping or from a table. `Source.resolve` is the rule of
precedence for all facts: an override property that is not blank wins, and otherwise a second
property counts as it is.
-/

namespace HostFacts

open HostFacts.Text

/-- What a context reads properties from. -/
inductive Source where
  | mapping (entries : Entries String String)
  | table (t : Table)

namespace Source

/-- Reads a property; reading a plain mapping is noted in the journal. -/
def lookup : Source → String → Act World (Option String)
  | mapping entries, name => do
    Act.modify (World.record (.read name))
    return entries.get? name
  | table t, name => t.lookup name

/-- The override property unless it is absent or blank, and then the second property. -/
def resolve (s : Source) (first : String) (second : Option String) :
    Act World (Option String) := do
  let value ← s.lookup first
  if !isBlank value then return value
  match second with
  | none => return none
  | some name => s.lookup name

/-- Sets a property of a plain mapping. -/
def put (name value : String) : Source → Source
  | mapping entries => mapping (entries.put name value)
  | table t => table t

/-- Removes a property of a plain mapping. -/
def erase (name : String) : Source → Source
  | mapping entries => mapping (entries.erase name)
  | table t => table t

end Source

end HostFacts
