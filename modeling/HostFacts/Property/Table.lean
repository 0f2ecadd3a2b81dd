import HostFacts.Property.Flatten
import HostFacts.Property.Name
import HostFacts.World

/-!
# Property tables

A table looks a property up in three layers: its explicit properties, then the environment variable
of an override property, then the provider of a system property. It holds its explicit properties
and knows where the other two layers come from; what these say is read when a name is looked up, so
tables over one environment see the same changes of it. A provider that fails because something is
not there counts as absent; any other failure ends the lookup. Nothing is remembered: each lookup
goes through the layers again.

The names of a table are its explicit names, the override properties whose variables are set, and
the system properties, each once and only if a lookup finds it.
-/

namespace HostFacts

open HostFacts.Property

/-- Where the layers below the explicit properties come from. -/
structure Layers where
  environ : Origin
  providers : Origin
  deriving DecidableEq, Repr

/-- The environment and the system properties of the process. -/
def Layers.process : Layers := ⟨.process, .process⟩

/-- A table of properties: explicit ones over two layers. -/
structure Table where
  explicit : Entries String String
  layers : Layers
  deriving DecidableEq, Repr

namespace Table

/-- A table without explicit properties over the layers of the process. -/
def empty : Table := ⟨.empty, .process⟩

/-- The environment that a table reads. -/
def environ (t : Table) (w : World) : Entries String String := w.environ t.layers.environ

/-- The providers that a table asks. -/
def providers (t : Table) (w : World) : Providers := w.providers t.layers.providers

/-- The table over two layers whose explicit properties are those of a nested mapping. -/
def ofValues (layers : Layers) (entries : List (Value × Value)) : Except Fault Table :=
  (flatten entries).map fun pairs => ⟨.ofList pairs, layers⟩

/-- Entries of texts as entries of values. -/
def textEntries (pairs : List (String × String)) : List (Value × Value) :=
  pairs.map fun e => (.text e.1, .text e.2)

/-- The table with the properties of a nested mapping laid over it. It is made anew of the
properties of both, which are flat by then, over the same two layers. -/
def withValues (t : Table) (entries : List (Value × Value)) : Except Fault Table := do
  let pairs ← flatten entries
  ofValues t.layers (textEntries (t.explicit.putAll (.ofList pairs)).pairs)

/-- The value of the environment variable of a property. -/
def variableValue? (environ : Entries String String) (name : String) : Option String :=
  (variableFor? name).bind environ.get?

/-- Asks the provider of a system property. -/
def lookupSystem (t : Table) (name : String) : Act World (Option String) := do
  let w ← Act.get
  match (t.providers w).get? name with
  | none => return none
  | some script =>
    match ← Act.attempt (callProvider t.layers.providers name script) with
    | .ok value => return value
    | .error e =>
      if e.isAbsence then
        logLine .debug .properties s!"System property {name} unavailable: {e.message}"
        return none
      else Act.fail e

/-- Looks a property up in all layers. -/
def lookup (t : Table) (name : String) : Act World (Option String) := do
  match t.explicit.get? name with
  | some value => return some value
  | none =>
    let w ← Act.get
    match variableValue? (t.environ w) name with
    | some value => return some value
    | none => t.lookupSystem name

/-- The value of a property, which has to be there. -/
def item (t : Table) (name : String) : Act World String := do
  match ← t.lookup name with
  | some value => return value
  | none => Act.fail (.missingProperty name)

/-- The value of a property; a key that is not there gives none. -/
def get? (t : Table) (name : String) : Act World (Option String) := do
  match ← Act.attempt (t.item name) with
  | .ok value => return some value
  | .error e => if e.isA .key then return none else Act.fail e

/-- Whether a property is there. -/
def has (t : Table) (name : String) : Act World Bool := return (← t.get? name).isSome

/-- Whether an environment variable is looked at for override properties: those that name a
property file or do not belong to the library are not. -/
def isOverrideVariable (variableName : String) : Bool :=
  (stripLead? variableLead.toList variableName.toList).isSome && variableName != configVariable

/-- The override properties that an environment variable sets. -/
def overridesOf (variableName : String) : List String :=
  if isOverrideVariable variableName then
    overrides.filter fun name => variableFor? name == some variableName
  else []

/-- The names that a table may have, in order. -/
def candidates (t : Table) (w : World) : List String :=
  (t.explicit.keys ++ (t.environ w).keys.flatMap overridesOf ++ (t.providers w).keys).eraseDups

/-- Goes through the names that a lookup finds and collects what `f` answers for each. -/
def collect {α : Type} (t : Table) (f : String → Act World α) : List String → Act World (List α)
  | [] => return []
  | name :: rest => do
    match ← t.lookup name with
    | none => t.collect f rest
    | some _ =>
      let a ← f name
      let others ← t.collect f rest
      return a :: others

/-- What `f` answers for the names of the table, in order. -/
def forNames {α : Type} (t : Table) (f : String → Act World α) : Act World (List α) := do
  let w ← Act.get
  t.collect f (t.candidates w)

/-- The names of the table, in order. -/
def present (t : Table) : Act World (List String) := t.forNames fun name => return name

/-- The number of names. -/
def size (t : Table) : Act World Nat := return (← t.present).length

/-- The names with their values; each value is looked up again once its name is known. -/
def pairs (t : Table) : Act World (List (String × String)) :=
  t.forNames fun name => return (name, ← t.item name)

/-- Counts the names before a list of them is made. A failure of a wrong type does not count here:
the pass over the names that follows meets it again. -/
def measure (t : Table) : Act World Unit := do
  match ← Act.attempt t.size with
  | .ok _ => return ()
  | .error e => if e.isA .type then return () else Act.fail e

/-- The list of names. -/
def names (t : Table) : Act World (List String) := do
  t.measure
  t.present

/-- The list of names with their values. -/
def items (t : Table) : Act World (List (String × String)) := do
  t.measure
  t.pairs

/-- The list of values. -/
def values (t : Table) : Act World (List String) := do
  t.measure
  t.forNames t.item

/-- Whether a table has the same names and values as entries have. -/
def agrees (pairs : List (String × String)) (entries : List (Value × Value)) : Bool :=
  pairs.length == entries.length &&
    pairs.all fun e =>
      match Pairs.get? entries (.text e.1) with
      | some v => v.same (.text e.2)
      | none => false

/-- Whether the table equals a value: a mapping with the same entries. -/
def equalsValue (t : Table) : Value → Act World Bool
  | .map entries => return agrees (← t.pairs) entries
  | _ => return false

/-- Whether two tables have the same entries. -/
def equals (t other : Table) : Act World Bool := do
  let mine ← t.pairs
  let others ← other.pairs
  return agrees mine (textEntries others)

/-- A table with its explicit properties visible. -/
def literal (t : Table) : String :=
  "PropertyTable(explicit=" ++ (Value.map (textEntries t.explicit.pairs)).literal ++ ")"

end Table

end HostFacts
