/-!
# Release

What is told about the release itself.
-/

namespace HostFacts.Release

/-- The name of the command. -/
def command : String := "platctx"

/-- The version of the release. -/
def version : String := "0.3.0"

end HostFacts.Release
