/-!
# Log lines

What the library does on the way to an answer is logged: each line has a level, the part of the
library that writes it, and a message.
-/

namespace HostFacts

/-- How much a line matters. -/
inductive Level where
  | debug
  | warning
  deriving DecidableEq, Repr

/-- The part of the library that writes a line. -/
inductive Logger where
  | properties
  | flags
  | osType
  | users
  | version
  | paths
  | context
  deriving DecidableEq, Repr

/-- A log line. -/
structure LogLine where
  level : Level
  logger : Logger
  message : String
  deriving DecidableEq, Repr

/-- The word for a level. -/
def Level.text : Level → String
  | debug => "DEBUG"
  | warning => "WARNING"

/-- The name of a part. -/
def Logger.text : Logger → String
  | properties => "platctx.properties"
  | flags => "platctx.flags"
  | osType => "platctx.ostype"
  | users => "platctx.users"
  | version => "platctx.version"
  | paths => "platctx.paths"
  | context => "platctx.context"

/-- The line as it is written. -/
def LogLine.text (line : LogLine) : String :=
  s!"{line.level.text} {line.logger.text}: {line.message}"

end HostFacts
