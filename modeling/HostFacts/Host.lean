import HostFacts.World
import HostFacts.Property.Name

/-!
# The host

What the system properties say about the machine that the program runs on. The name of the user is
the first of four variables that is not empty, and else the name of the account.
-/

namespace HostFacts

open HostFacts.Property

/-- The machine and the runtime. -/
structure Host where
  environ : Entries String String
  accountName : Option String
  directory : Option String
  osName : String
  osRelease : String
  osVersion : String
  platform : String
  runtimeVersion : String
  runtimeName : String
  runtimeVmName : String
  build : String

namespace Host

/-- The variables that name the user, in order. -/
def userVariables : List String := ["LOGNAME", "USER", "LNAME", "USERNAME"]

/-- The name of the user. -/
def user (h : Host) : Option String :=
  match userVariables.findSome? fun v => (h.environ.get? v).filter (· != "") with
  | some name => some name
  | none => h.accountName

/-- The system properties with their values. -/
def properties (h : Host) : Entries String (Option String) :=
  .ofList
    [(Property.osName, some h.osName),
     (Property.osRelease, some h.osRelease),
     (Property.osVersion, some h.osVersion),
     (osPlatform, some h.platform),
     (userName, h.user),
     (userDirectory, h.directory),
     (Property.runtimeVersion, some h.runtimeVersion),
     (Property.runtimeName, some h.runtimeName),
     (Property.runtimeVmName, some h.runtimeVmName),
     (runtimeBuild, some h.build)]

/-- The providers of the system properties. -/
def providers (h : Host) : Providers := h.properties.map fun value => ⟨fun _ => .ok value, 0⟩

end Host

end HostFacts
