import HostFacts.Text.Case
import HostFacts.Text.Search

/-!
# Families of operating systems

The name of an operating system is normalised by trimming it and taking it in lower case. Windows
and macOS are told by a part of the name, and everything else is Unix-like.
-/

namespace HostFacts.OsFamily

open HostFacts.Text

/-- The normal form of a name; no name is the empty one. -/
def normalize (name : Option String) : String := onChars (fun s => lower (trim s)) (name.getD "")

/-- Whether a normalised name is one of Windows. -/
def isWindows (osType : String) : Bool := contains "windows" osType

/-- Whether a normalised name is one of macOS, which also goes by the name of its core. -/
def isMacos (osType : String) : Bool := contains "mac" osType || contains "darwin" osType

/-- Whether a normalised name is that of a Unix-like system. -/
def isUnixLike (osType : String) : Bool := !isWindows osType && !isMacos osType

end HostFacts.OsFamily
