import HostFacts.CommandLine.Options

/-!
# Texts of the command

What the command says about itself: how it is used, its help, and its version.
-/

namespace HostFacts.CommandLine

open HostFacts.Text

/-- How the command is used. -/
def usage : String :=
  "usage: platctx [-h] [--version] [-c CONFIG] [-D NAME=VALUE]\n" ++
  "               [--format \x7byaml,json\x7d] [-v]\n"

/-- The help. -/
def help : String :=
  usage ++
  "\nReport the platform facts platctx resolves for this process\n" ++
  "\noptions:\n" ++
  "  -h, --help            show this help message and exit\n" ++
  "  --version             show program's version number and exit\n" ++
  "  -c CONFIG, --config CONFIG\n" ++
  "                        YAML file of properties\n" ++
  "  -D NAME=VALUE, --define NAME=VALUE\n" ++
  "                        Set a property (repeatable)\n" ++
  "  --format \x7byaml,json\x7d  Output format (default: yaml)\n" ++
  "  -v, --verbose         Enable debug logging\n" ++
  "\nExamples:\n" ++
  "  platctx\n" ++
  "  platctx --format json\n" ++
  "  platctx -D platctx.osType=windows -D platctx.currentUser='CORP\\jdoe'\n" ++
  "  platctx -c overrides.yml\n" ++
  "        \n"

/-- What is told about the machine with the version. -/
structure Machine where
  runtimeVersion : String
  system : String
  release : String
  deriving DecidableEq, Repr

/-- The version of the command with what it runs on. -/
def versionText (m : Machine) : String :=
  s!"{Release.command} {Release.version}\n  python: {m.runtimeVersion}\n" ++
    s!"  platform: {m.system} {m.release}"

/-- Leaves at most one empty line between lines. -/
def closeUp : List Char → List Char
  | '\n' :: '\n' :: '\n' :: rest => closeUp ('\n' :: '\n' :: rest)
  | c :: rest => c :: closeUp rest
  | [] => []

/-- The name under which a text can ask for the name of the command. -/
def commandName : List Char := "prog".toList

/-- A text with marks filled in, if it asks for the name of the command. -/
def filledIn (s : List Char) : Except Template.Fault (List Char) :=
  if occurs ('%' :: '(' :: commandName ++ [')']) s then
    Template.expand [(commandName, Release.command.toList)] s
  else .ok s

/-- A text as it is shown: filled in, and without empty lines around it. -/
def shown (text : String) : Except Template.Fault String :=
  (filledIn text.toList).map fun s =>
    String.ofList (trimWhile (· == '\n') (closeUp s) ++ ['\n'])

/-- What is said about a misuse. -/
def complaint (m : Misuse) : String := usage ++ s!"{Release.command}: error: {m.message}\n"

end HostFacts.CommandLine
