import HostFacts.Context

/-!
# Reports

A `Report` is a snapshot of all facts. Facts that cannot be resolved are left out: without a user it
is also unknown whether the user is the superuser.
-/

namespace HostFacts

open HostFacts.Property

/-- The facts of a platform. -/
structure Report where
  osType : String
  windows : Bool
  macos : Bool
  unixLike : Bool
  constrainedRuntime : Bool
  alternateVm : Bool
  user : Option (String × Bool)
  version : Option String
  directory : Option String
  shell : List String
  deriving DecidableEq, Repr

namespace Report

/-- A text or null. -/
def textOrNull : Option String → Value
  | none => .null
  | some s => .text s

/-- The facts by their names, in order. -/
def facts (r : Report) : List (String × Value) :=
  [("os_type", .text r.osType),
   ("windows", .bool r.windows),
   ("macos", .bool r.macos),
   ("unix_like", .bool r.unixLike),
   ("constrained_runtime", .bool r.constrainedRuntime),
   ("alternate_vm", .bool r.alternateVm),
   ("current_user", textOrNull (r.user.map Prod.fst)),
   ("root_user", match r.user with | some (_, root) => .bool root | none => .null),
   ("runtime_version", textOrNull r.version),
   ("working_directory", textOrNull r.directory),
   ("shell_command", .list (r.shell.map .text))]

/-- The facts as a value. -/
def toValue (r : Report) : Value := .map (r.facts.map fun e => (.text e.1, e.2))

end Report

namespace Query

/-- Asks for a fact; one that cannot be resolved is reported in the log and left out. -/
def optional {α : Type} (x : Query α) : Query (Option α) := do
  match ← Act.attempt x with
  | .ok a => return some a
  | .error e =>
    if e.isResolution then
      note .warning .context e.message
      return none
    else Act.fail e

/-- The text of the version, which a version with a component beyond the digit limit has not. -/
def versionText : Query String := do
  let v ← version
  Act.ofExcept (Value.version v).written

/-- All facts, asked for in order. -/
def describe : Query Report := do
  let osType ← osType
  let windows ← isWindows
  let macos ← isMacos
  let unixLike ← isUnixLike
  let constrainedRuntime ← isConstrainedRuntime
  let alternateVm ← isAlternateVm
  let user ← optional do return (← user, ← isRoot)
  let version ← optional versionText
  let directory ← workingDirectory
  let shell ← shellElements none
  return { osType, windows, macos, unixLike, constrainedRuntime, alternateVm, user, version,
           directory, shell }

end Query

/-- The operations on a context. -/
inductive Op where
  | osType
  | isWindows
  | isMacos
  | isUnixLike
  | isConstrainedRuntime
  | isAlternateVm
  | user
  | isRoot
  | version
  | workingDirectory
  | setOsType (value : Option String)
  | setConstrainedRuntime (value : Option Bool)
  | setAlternateVm (value : Option Bool)
  | setUser (value : Option String)
  | setVersion (value : Option Version)
  | setVersionText (raw : String)
  | setDirectorySource (id : Option Nat)
  | canonicalUser (user : Option String)
  | canonicalGroup (group user : Option String)
  | comparablePath (path : Option String)
  | shellCommand (windows : Option Bool)
  | shellElements (windows : Option Bool)
  | reset
  | describe
  deriving DecidableEq, Repr

/-- Runs an operation; those that only change something answer null. -/
def Op.run : Op → Query Value
  | osType => do return .text (← Query.osType)
  | isWindows => do return .bool (← Query.isWindows)
  | isMacos => do return .bool (← Query.isMacos)
  | isUnixLike => do return .bool (← Query.isUnixLike)
  | isConstrainedRuntime => do return .bool (← Query.isConstrainedRuntime)
  | isAlternateVm => do return .bool (← Query.isAlternateVm)
  | user => do return .text (← Query.user)
  | isRoot => do return .bool (← Query.isRoot)
  | version => do return .version (← Query.version)
  | workingDirectory => do return Report.textOrNull (← Query.workingDirectory)
  | setOsType value => do Query.setOsType value; return .null
  | setConstrainedRuntime value => do Query.setConstrainedRuntime value; return .null
  | setAlternateVm value => do Query.setAlternateVm value; return .null
  | setUser value => do Query.setUser value; return .null
  | setVersion value => do Query.setVersion value; return .null
  | setVersionText raw => do Query.setVersionText raw; return .null
  | setDirectorySource id => do Query.setDirectorySource id; return .null
  | canonicalUser name => do return Report.textOrNull (← Query.canonicalUser name)
  | canonicalGroup group name => do return Report.textOrNull (← Query.canonicalGroup group name)
  | comparablePath path => do return .text (← Query.comparablePath path)
  | shellCommand windows => do return .text (← Query.shellCommand windows)
  | shellElements windows => do return .list ((← Query.shellElements windows).map .text)
  | reset => do Query.reset; return .null
  | describe => do return (← Query.describe).toValue

end HostFacts
