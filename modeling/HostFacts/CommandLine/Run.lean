import HostFacts.CommandLine.Parse
import HostFacts.CommandLine.Usage
import HostFacts.Property.File
import HostFacts.Report

/-!
# Running the command

The command reads its arguments, makes a context over the property file and the defined properties,
and writes a report of all facts. The facts come from the definitions first, then from the file, the
environment and the machine.
-/

namespace HostFacts.CommandLine

/-- How a run of the command ends. -/
inductive Ending where
  /-- The command went through and ends with a code. -/
  | finished (exit : Exit)
  /-- Reading the arguments ended it, with a code. -/
  | stopped (code : Nat)
  /-- A fault that the command does not report. -/
  | escaped (fault : Fault)

/-- What a run of the command does. -/
structure Outcome where
  ending : Ending
  /-- What is written to the standard output. -/
  output : String
  /-- What is written to the standard error output. -/
  errors : String

namespace Settings

/-- The table that the settings describe: the properties of the file, if there is one, with the
defined properties over them. -/
def table (s : Settings) : Act World Table := do
  let base ←
    match s.config with
    | none | some "" => pure Table.empty
    | some path => Table.load .process path
  if s.definitions.isEmpty then return base
  Act.ofExcept do base.withValues (Table.textEntries (Entries.ofList (← s.defined)).pairs)

/-- The report on the facts under the settings. -/
def report (s : Settings) : Act World Report := do
  let t ← s.table
  fun w =>
    let (r, (_, w)) := Query.describe (Context.new (.table t), w)
    (r, w)

/-- The text of the report. -/
def text (s : Settings) : Act World String := do
  let r ← s.report
  let written ← Act.ofExcept (s.format.write r.toValue)
  return if s.format = .json then written ++ "\n" else written

/-- Whether a line is logged. -/
def logs (s : Settings) (line : LogLine) : Bool := line.level == .warning || 0 < s.verbosity

/-- The log as it is written. -/
def logText (s : Settings) (w : World) : String :=
  String.join ((w.log.filter s.logs).map fun line => line.text ++ "\n")

/-- Makes the report. -/
def outcome (s : Settings) (w : World) : Outcome × World :=
  match s.text w with
  | (.ok text, w) => (⟨.finished .success, text, s.logText w⟩, w)
  | (.error fault, w) =>
    match fault.exit? with
    | some exit => (⟨.finished exit, "", s.logText w ++ s!"ERROR: {fault.text}\n"⟩, w)
    | none => (⟨.escaped fault, "", s.logText w⟩, w)

end Settings

/-- The code of a misuse. -/
def misuseCode : Nat := 2

/-- Runs the command with arguments. -/
def run (machine : Machine) (args : List String) (w : World) : Outcome × World :=
  match parse args with
  | .ok settings => settings.outcome w.clear
  | .error .help => (⟨.stopped 0, help, ""⟩, w)
  | .error .version =>
    match shown (versionText machine) with
    | .ok text => (⟨.stopped 0, text, ""⟩, w)
    | .error fault => (⟨.escaped (.template fault), "", ""⟩, w)
  | .error (.misuse m) => (⟨.stopped misuseCode, "", complaint m⟩, w)

end HostFacts.CommandLine
