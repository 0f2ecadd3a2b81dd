import HostFacts.Text.Case

/-!
# Property names

A fact is drawn from an *override property*, whose name starts with `platctx.`, or else from a
*system property*. An override property can also be set by an environment variable: `variableFor?`
gives its name. The variable of `platctx.osType` is `PLATCTX_OS_TYPE`: a word starts where a capital
follows a small letter or a digit, points count as boundaries too, and all is in upper case.
-/

namespace HostFacts.Property

open HostFacts.Text

/-- What the names of override properties start with. -/
def overrideLead : String := "platctx."

/-- What the names of their environment variables start with. -/
def variableLead : String := "PLATCTX_"

/-- The environment variable that names a property file. -/
def configVariable : String := "PLATCTX_CONFIG"

/-- The current user. -/
def currentUser : String := "platctx.currentUser"

/-- The version of the runtime, set by hand. -/
def runtimeVersionOverride : String := "platctx.runtimeVersion"

/-- The kind of operating system, set by hand. -/
def osTypeOverride : String := "platctx.osType"

/-- A constrained mobile runtime, set by hand. -/
def constrainedRuntime : String := "platctx.constrainedRuntime"

/-- An alternate machine, set by hand. -/
def alternateVm : String := "platctx.alternateVM"

/-- The name of the operating system. -/
def osName : String := "os.name"

/-- The release of the operating system. -/
def osRelease : String := "os.release"

/-- The version of the operating system. -/
def osVersion : String := "os.version"

/-- The short name of the platform. -/
def osPlatform : String := "os.platform"

/-- The name of the user. -/
def userName : String := "user.name"

/-- The current directory of the user. -/
def userDirectory : String := "user.dir"

/-- The version of the runtime. -/
def runtimeVersion : String := "runtime.version"

/-- The name of the runtime. -/
def runtimeName : String := "runtime.name"

/-- The name of the machine that the runtime is built on. -/
def runtimeVmName : String := "runtime.vm.name"

/-- The build of the runtime. -/
def runtimeBuild : String := "runtime.build"

/-- The override properties, in the order in which a variable is looked for among them. -/
def overrides : List String :=
  [currentUser, runtimeVersionOverride, osTypeOverride, constrainedRuntime, alternateVm]

/-- The system properties, in order. -/
def system : List String :=
  [osName, osRelease, osVersion, osPlatform, userName, userDirectory, runtimeVersion, runtimeName,
   runtimeVmName, runtimeBuild]

/-- A small letter of ASCII or a digit. -/
def endsWord (c : Char) : Bool := ('a' ≤ c && c ≤ 'z') || ('0' ≤ c && c ≤ '9')

/-- A capital letter of ASCII. -/
def startsWord (c : Char) : Bool := 'A' ≤ c && c ≤ 'Z'

/-- Puts an underscore wherever a capital follows a small letter or a digit. -/
def separate : List Char → List Char
  | c :: d :: rest =>
    if endsWord c && startsWord d then c :: '_' :: separate (d :: rest)
    else c :: separate (d :: rest)
  | short => short

/-- The part of a variable's name that comes from the part `key` of a property's name. -/
def variableKey (key : List Char) : List Char :=
  upper ((separate key).map fun c => if c = '.' then '_' else c)

/-- What follows a given start of a text. -/
def stripLead? : List Char → List Char → Option (List Char)
  | [], s => some s
  | _ :: _, [] => none
  | l :: ls, c :: cs => if l = c then stripLead? ls cs else none

/-- The environment variable that carries a property, if it is an override property. -/
def variableFor? (name : String) : Option String :=
  (stripLead? overrideLead.toList name.toList).map fun key =>
    String.ofList (variableLead.toList ++ variableKey key)

end HostFacts.Property
