import HostFacts.Act
import HostFacts.Entries
import HostFacts.Log

/-!
# The surroundings

Everything that facts are drawn from and that can change between two calls is a `World`:
environments, tables of providers of system properties, the sources of a working directory, the
files, and a journal of what was asked. A provider or a source is a `Script`: its k-th call ends as
the script says, so it may answer differently each time, answer nothing, or fail.

There is the environment of the process, and there are others that were handed over; the same goes
for the tables of providers. An `Origin` says which one is meant. Who holds an origin sees what the
environment is by then: `environ_setVariable` and `environ_of_ne` say what a change is seen by.
-/

namespace HostFacts

/-- Something that is called without arguments: how its calls end, and how many there were. -/
structure Script (α : Type) where
  ends : Nat → Except Fault α
  calls : Nat

/-- A script whose calls end as the items say, the last of them for ever; without items, in the
given way. -/
def Script.ofItems {α : Type} (items : List (Except Fault α)) (otherwise : Except Fault α) :
    Script α :=
  ⟨fun k => items.getD (min k (items.length - 1)) otherwise, 0⟩

/-- Something that happened on the way to an answer. -/
inductive Event where
  /-- A property was read from a plain mapping. -/
  | read (name : String)
  /-- The provider of a system property was called. -/
  | call (name : String)
  | log (line : LogLine)
  deriving DecidableEq, Repr

/-- Where an environment or a table of providers comes from. -/
inductive Origin where
  /-- It is that of the process. -/
  | process
  /-- It was handed over and has a number. -/
  | given (id : Nat)
  deriving DecidableEq, Repr

namespace Origin

variable {α : Type} {f : Origin → α} {o o' : Origin} {a : α}

/-- One thing from an origin, and from all others what was there. -/
def update (f : Origin → α) (o : Origin) (a : α) : Origin → α :=
  fun o' => if o' = o then a else f o'

/-- One thing from the process, and another one from elsewhere. -/
def own (a otherwise : α) : Origin → α
  | process => a
  | given _ => otherwise

@[simp] theorem update_self : update f o a o = a := if_pos rfl

theorem update_of_ne (h : o' ≠ o) : update f o a o' = f o' := if_neg h

end Origin

/-- The providers of system properties by the names of these, in order. -/
abbrev Providers := Entries String (Script (Option String))

/-- The surroundings of a run. -/
structure World where
  /-- The environments. -/
  environ : Origin → Entries String String
  /-- The tables of providers. -/
  providers : Origin → Providers
  /-- The sources of a working directory that were ever handed over. -/
  sources : List (Script (Option String))
  /-- How files are read. -/
  files : Files.Reader
  /-- What happened, the latest first. -/
  journal : List Event

namespace World

/-- Nothing around. -/
def empty : World := ⟨fun _ => .empty, fun _ => .empty, [], Files.none.read, []⟩

/-- The surroundings of a process to which nothing was handed over. -/
def ofProcess (environ : Entries String String) (providers : Providers) (files : Files.Reader) :
    World :=
  ⟨Origin.own environ .empty, Origin.own providers .empty, [], files, []⟩

/-- Adds to the journal. -/
def record (e : Event) (w : World) : World := { w with journal := e :: w.journal }

/-- Forgets the journal. -/
def clear (w : World) : World := { w with journal := [] }

/-- The properties read, in order. -/
def reads (w : World) : List String :=
  w.journal.reverse.filterMap fun | .read name => some name | _ => none

/-- The providers called, in order. -/
def calls (w : World) : List String :=
  w.journal.reverse.filterMap fun | .call name => some name | _ => none

/-- The lines logged, in order. -/
def log (w : World) : List LogLine :=
  w.journal.reverse.filterMap fun | .log line => some line | _ => none

/-- Sets a variable of an environment. -/
def setVariable (o : Origin) (name value : String) (w : World) : World :=
  { w with environ := Origin.update w.environ o ((w.environ o).put name value) }

/-- Removes a variable from an environment. -/
def unsetVariable (o : Origin) (name : String) (w : World) : World :=
  { w with environ := Origin.update w.environ o ((w.environ o).erase name) }

/-- What a call of a provider leaves behind. -/
def called (o : Origin) (name : String) (script : Script (Option String)) (w : World) : World :=
  { w.record (.call name) with
    providers := Origin.update w.providers o
      ((w.providers o).put name ⟨script.ends, script.calls + 1⟩) }

/-- Takes in a source of working directories; its number is how many there were. -/
def addSource (source : Script (Option String)) (w : World) : World :=
  { w with sources := w.sources ++ [source] }

/-! ## What a change is seen by -/

variable {w : World} {o o' : Origin} {name value : String}

theorem environ_setVariable :
    (w.setVariable o name value).environ o = (w.environ o).put name value := Origin.update_self

theorem environ_of_ne (h : o' ≠ o) : (w.setVariable o name value).environ o' = w.environ o' :=
  Origin.update_of_ne h

variable {script : Script (Option String)} {other : String}

theorem get?_providers_called : ((w.called o name script).providers o).get? name =
    some ⟨script.ends, script.calls + 1⟩ := by
  show (Origin.update w.providers o _ o).get? name = _
  rw [Origin.update_self, Entries.get?_put, if_pos (by simp)]

/-- A call leaves the other providers of its table alone, and all other tables. -/
theorem get?_providers_called_of_ne (h : o' ≠ o ∨ other ≠ name) :
    ((w.called o name script).providers o').get? other = (w.providers o').get? other := by
  show (Origin.update w.providers o _ o').get? other = _
  by_cases ho : o' = o
  · subst ho
    have hne : ¬ name = other := fun e => (h.resolve_left (not_not_intro rfl)) e.symm
    rw [Origin.update_self, Entries.get?_put, if_neg (by simpa using hne)]
  · rw [Origin.update_of_ne ho]

/-- A call of a provider adds none. -/
theorem keys_providers_called {script' : Script (Option String)}
    (h : (w.providers o).get? name = some script) (o' : Origin) :
    ((w.called o name script').providers o').keys = (w.providers o').keys := by
  show (Origin.update w.providers o _ o').keys = _
  by_cases ho : o' = o
  · subst ho
    rw [Origin.update_self, Entries.keys_put_of_mem (Entries.mem_keys_of_get? h)]
  · rw [Origin.update_of_ne ho]

end World

/-- Writes a log line. -/
def logLine (level : Level) (logger : Logger) (message : String) : Act World Unit :=
  Act.modify (World.record (.log ⟨level, logger, message⟩))

/-- Calls the provider of a system property. -/
def callProvider (o : Origin) (name : String) (script : Script (Option String)) :
    Act World (Option String) :=
  fun w => (script.ends script.calls, w.called o name script)

/-- Calls a source of working directories; a number without a source gives no directory. -/
def callSource (id : Nat) : Act World (Option String) := fun w =>
  match w.sources[id]? with
  | none => (.ok none, w)
  | some s => (s.ends s.calls, { w with sources := w.sources.set id ⟨s.ends, s.calls + 1⟩ })

end HostFacts
