import HostFacts.Property.File
import HostFacts.Report

/-!
# The default context

A program has one context by default. It is made when it is first needed, over the property file
that a variable of the environment of the process names at that time, or over a table without
properties of its own. It stays until another one is installed or it is discarded. Making one may
fail, and then none is installed.

A `Registry` keeps all contexts that were made, so a discarded one can be installed again.
-/

namespace HostFacts

open HostFacts.Property

/-- The context that is made by default. -/
def Context.create : Act World Context := do
  let w ← Act.get
  match (w.environ .process).get? configVariable with
  | none | some "" => return Context.new (.table Table.empty)
  | some path =>
    logLine .debug .context s!"Loading platform properties from {path}"
    return Context.new (.table (← Table.load .process path))

/-- The contexts that were made, and the number of the default one. -/
structure Registry where
  contexts : List Context
  current : Option Nat

/-- An operation on the default context and its surroundings. -/
abbrev Session (α : Type) := Act (Registry × World) α

namespace Registry

/-- No contexts at all. -/
def empty : Registry := ⟨[], none⟩

/-- The context with a number. -/
def get (r : Registry) (id : Nat) : Context :=
  (r.contexts[id]?).getD (Context.new (.table Table.empty))

/-- Keeps a context; its number is how many there were. -/
def add (r : Registry) (c : Context) : Registry := { r with contexts := r.contexts ++ [c] }

end Registry

namespace Session

/-- The number of the default context, which is made if there is none. -/
def default : Session Nat := do
  let (r, _) ← Act.get
  match r.current with
  | some id => return id
  | none =>
    let c ← Act.zoom Prod.snd (fun w t => (t.1, w)) Context.create
    Act.modify fun t => ({ t.1.add c with current := some r.contexts.length }, t.2)
    return r.contexts.length

/-- Keeps a context and answers with its number. -/
def add (c : Context) : Session Nat := do
  let (r, _) ← Act.get
  Act.modify fun t => (t.1.add c, t.2)
  return r.contexts.length

/-- Installs a context by its number as the default one, or discards the default one. -/
def install (id : Option Nat) : Session Unit :=
  Act.modify fun t => ({ t.1 with current := id }, t.2)

/-- Runs an operation on the default context. -/
def onDefault {α : Type} (x : Query α) : Session α := do
  let id ← default
  Act.zoom (fun t => (t.1.get id, t.2))
    (fun s t => ({ t.1 with contexts := t.1.contexts.set id s.1 }, s.2)) x

end Session

end HostFacts
