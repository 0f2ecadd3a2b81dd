/-!
# Interactive shells

The command that starts an interactive shell, as its elements and as one line.
-/

namespace HostFacts.Shell

/-- The shell of Windows. -/
def windowsName : String := "cmd.exe"

/-- The shell of all other systems. -/
def unixName : String := "/bin/sh"

/-- The elements of the command. -/
def elements (windows : Bool) : List String :=
  if windows then [windowsName] else [unixName, "-i", "-l"]

/-- The command as one line. -/
def command (windows : Bool) : String := String.intercalate " " (elements windows)

end HostFacts.Shell
