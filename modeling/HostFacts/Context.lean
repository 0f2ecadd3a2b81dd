import HostFacts.Cell
import HostFacts.Identity
import HostFacts.OsFamily
import HostFacts.Shell
import HostFacts.Signal
import HostFacts.Slot
import HostFacts.Version.Parse

/-!
# Contexts

A `Context` answers what platform the program runs on. It draws five facts from its properties and
remembers each in a cell: the type of the operating system, two traits of the host, the current
user, and the version of the runtime. The working directory is asked for anew each time, from a
source that was handed over or else from its property.

`Query` is the type of all operations: they act on a context and its surroundings, and a fault
leaves behind what was settled before it. `Op` lists the operations and `Op.run` runs them.
-/

namespace HostFacts

open HostFacts.Text HostFacts.Property

/-- A property source with what is known about the platform. -/
structure Context where
  source : Source
  osType : Cell String
  constrainedRuntime : Cell Bool
  alternateVm : Cell Bool
  user : Cell String
  version : Cell Version
  /-- The slot for a source of the working directory, which has a number. -/
  directorySource : Slot Nat

namespace Context

/-- A context that knows nothing yet. -/
def new (source : Source) : Context :=
  ⟨source, .empty, .empty, .empty, .empty, .empty, none⟩

end Context

/-- An operation on a context and its surroundings. -/
abbrev Query (α : Type) := Act (Context × World) α

namespace Query

/-- An action on the surroundings only. -/
def ofWorld {α : Type} (x : Act World α) : Query α := Act.zoom Prod.snd (fun w t => (t.1, w)) x

/-- Changes the context. -/
def update (f : Context → Context) : Query Unit := Act.modify fun t => (f t.1, t.2)

/-- The context. -/
def context : Query Context := do return (← Act.get).1

/-- Looks a property up. -/
def lookup (name : String) : Query (Option String) := do
  let c ← context
  ofWorld (c.source.lookup name)

/-- Resolves an override property and a second one. -/
def resolve (first : String) (second : String) : Query (Option String) := do
  let c ← context
  ofWorld (c.source.resolve first (some second))

/-- Writes a log line. -/
def note (level : Level) (logger : Logger) (message : String) : Query Unit :=
  ofWorld (logLine level logger message)

/-- The value of a cell of the context, worked out and remembered if need be. -/
def remember {α : Type} (cell : Context → Cell α) (put : Cell α → Context → Context)
    (workOut : Query α) : Query α := do
  let c ← context
  let (a, settled) ← (cell c).read workOut
  update (put settled)
  return a

/-! ## The operating system -/

/-- Reads the type of the operating system from its raw value. -/
def readOsType (raw : Option String) : Query String := do
  let osType := OsFamily.normalize raw
  note .debug .osType s!"Resolved OS type {quoted osType}"
  return osType

/-- Works out the type of the operating system. -/
def detectOsType : Query String := do readOsType (← resolve osTypeOverride osName)

/-- The type of the operating system. -/
def osType : Query String :=
  remember Context.osType (fun cell c => { c with osType := cell }) detectOsType

/-- Fixes the type of the operating system; none lets it be worked out again. -/
def setOsType (value : Option String) : Query Unit :=
  let cell := Cell.ofOption (value.map fun v => OsFamily.normalize (some v))
  update fun c => { c with osType := cell }

/-- Whether the platform is Windows. -/
def isWindows : Query Bool := do return OsFamily.isWindows (← osType)

/-- Whether the platform is macOS. -/
def isMacos : Query Bool := do return OsFamily.isMacos (← osType)

/-- Whether the platform is Unix-like. -/
def isUnixLike : Query Bool := do return OsFamily.isUnixLike (← osType)

/-! ## Traits -/

/-- Works a trait out. -/
def detect (signal : Signal) : Query Bool := do
  let c ← context
  ofWorld (signal.detect c.source)

/-- Whether the host is a constrained mobile runtime. -/
def isConstrainedRuntime : Query Bool :=
  remember Context.constrainedRuntime (fun cell c => { c with constrainedRuntime := cell })
    (detect .constrainedRuntime)

/-- Fixes whether the runtime is constrained; none lets it be detected again. -/
def setConstrainedRuntime (value : Option Bool) : Query Unit :=
  update fun c => { c with constrainedRuntime := Cell.ofOption value }

/-- Whether an alternate machine runs the program. -/
def isAlternateVm : Query Bool :=
  remember Context.alternateVm (fun cell c => { c with alternateVm := cell })
    (detect .alternateVm)

/-- Fixes whether an alternate machine runs the program; none lets it be detected again. -/
def setAlternateVm (value : Option Bool) : Query Unit :=
  update fun c => { c with alternateVm := Cell.ofOption value }

/-! ## Users and groups -/

/-- The canonical name of a user. -/
def canonicalUser (user : Option String) : Query (Option String) := do
  return Identity.canonicalUser user (← isWindows)

/-- The canonical name of a group, which the name of its user may carry. -/
def canonicalGroup (group user : Option String) : Query (Option String) := do
  return Identity.canonicalGroup group user (← isUnixLike)

/-- The properties that name the current user. -/
def userProperties : List String := [currentUser, userName]

/-- Ends for want of a user. -/
def missingUser : Query String := do
  note .warning .users s!"No username available from {currentUser} or {userName}"
  Act.fail (.missingIdentity userProperties)

/-- Takes a canonical name for that of the current user, who must have one. -/
def acceptUser : Option String → Query String
  | none => missingUser
  | some user =>
    if isBlank (some user) then missingUser
    else do
      note .debug .users s!"Resolved current user {quoted user}"
      return user

/-- Reads the current user from the raw name. -/
def readUser (raw : Option String) : Query String := do acceptUser (← canonicalUser raw)

/-- Works out the current user. -/
def detectUser : Query String := do readUser (← resolve currentUser userName)

/-- The canonical name of the current user. -/
def user : Query String :=
  remember Context.user (fun cell c => { c with user := cell }) detectUser

/-- Fixes the current user; none lets the name be worked out again. -/
def setUser (value : Option String) : Query Unit :=
  update fun c => { c with user := Cell.ofOption value }

/-- Whether the current user is the superuser; Windows has none. -/
def isRoot : Query Bool := do
  if ← isWindows then return false
  return (← user) == Identity.rootUser

/-! ## The version of the runtime -/

/-- The properties that give the version. -/
def versionProperties : List String := [runtimeVersionOverride, runtimeVersion]

/-- Reads the version from a raw text that is not blank. -/
def readVersionText (raw : String) : Query Version :=
  match Version.parse (some (Version.sanitize raw)) with
  | .ok v => do
    note .debug .version s!"Resolved runtime version {v.text} from {quoted raw}"
    return v
  | .error (.unparsableVersion _ _) => do
    note .warning .version s!"Cannot parse runtime version {quoted raw}"
    Act.fail (.unparsableVersion (.text raw) versionProperties)
  | .error e => Act.fail e

/-- Ends for want of a version. -/
def missingVersion : Query Version := do
  note .warning .version
    s!"No runtime version configured in {runtimeVersionOverride} or {runtimeVersion}"
  Act.fail (.missingVersion versionProperties)

/-- Reads the version from its raw value. -/
def readVersion : Option String → Query Version
  | none => missingVersion
  | some raw => if isBlank (some raw) then missingVersion else readVersionText raw

/-- Works out the version. -/
def detectVersion : Query Version := do
  readVersion (← resolve runtimeVersionOverride runtimeVersion)

/-- The version of the runtime. -/
def version : Query Version :=
  remember Context.version (fun cell c => { c with version := cell }) detectVersion

/-- Fixes the version; none lets it be worked out again. -/
def setVersion (value : Option Version) : Query Unit :=
  update fun c => { c with version := Cell.ofOption value }

/-- Fixes the version that a raw text gives. -/
def setVersionText (raw : String) : Query Unit := do
  let v ← Act.ofExcept (Version.parse (some (Version.sanitize raw)))
  setVersion (some v)

/-! ## The working directory, paths and the shell -/

/-- The working directory: the path that the source answers if there is one, else the property. -/
def workingDirectory : Query (Option String) := do
  let c ← context
  match c.directorySource with
  | some id => return (← ofWorld (callSource id)).map Path.normal
  | none =>
    match ← lookup userDirectory with
    | some directory =>
      if isBlank (some directory) then unknown else return some (Path.normal directory)
    | none => unknown
where
  unknown : Query (Option String) := do
    note .debug .paths s!"No {userDirectory} property available"
    return none

/-- Plugs in a source of working directories by its number; none goes back to the property. -/
def setDirectorySource (id : Option Nat) : Query Unit :=
  update fun c => { c with directorySource := c.directorySource.use (.set id) }

/-- The form in which a path is compared on this platform. -/
def comparablePath (path : Option String) : Query String := do
  return Path.comparable path (← isWindows)

/-- The given family, or the one of this platform. -/
def windowsOr (windows : Option Bool) : Query Bool :=
  match windows with
  | some w => return w
  | none => isWindows

/-- The command of the shell as one line. -/
def shellCommand (windows : Option Bool) : Query String := do
  return Shell.command (← windowsOr windows)

/-- The elements of the command of the shell. -/
def shellElements (windows : Option Bool) : Query (List String) := do
  return Shell.elements (← windowsOr windows)

/-- Forgets all facts and the source of working directories. -/
def reset : Query Unit := do
  setOsType none
  setConstrainedRuntime none
  setAlternateVm none
  setUser none
  setVersion none
  setDirectorySource none

end Query

end HostFacts
