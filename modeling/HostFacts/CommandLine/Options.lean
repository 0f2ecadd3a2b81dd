import HostFacts.Fault
import HostFacts.Release
import HostFacts.Value.Json
import HostFacts.Yaml.Write

/-!
# Options of the command

The command has six options and no other arguments. `Settings` is what they ask for, and `Misuse` is
what can be wrong with them.
-/

namespace HostFacts

open HostFacts.Text

/-- The formats of a report. -/
inductive Format where
  | yaml
  | json
  deriving DecidableEq, Repr

namespace Format

/-- The name of a format. -/
def name : Format → String
  | yaml => "yaml"
  | json => "json"

/-- The formats that can be chosen. -/
def all : List Format := [yaml, json]

/-- The format with a name. -/
def ofName? (s : String) : Option Format := all.find? (·.name == s)

/-- Writes a value. -/
def write : Format → Value → Except Fault String
  | yaml, v => Yaml.write v
  | json, v => v.json

end Format

namespace CommandLine

/-- An option of the command. -/
inductive Opt where
  | help
  | version
  | config
  | define
  | format
  | verbose
  deriving DecidableEq, Repr

namespace Opt

/-- All options in order. -/
def all : List Opt := [help, version, config, define, format, verbose]

/-- The letter of the short form. -/
def letter? : Opt → Option Char
  | help => some 'h'
  | version => none
  | config => some 'c'
  | define => some 'D'
  | format => none
  | verbose => some 'v'

/-- The word of the long form. -/
def word : Opt → List Char
  | help => "help".toList
  | version => "version".toList
  | config => "config".toList
  | define => "define".toList
  | format => "format".toList
  | verbose => "verbose".toList

/-- Whether a value follows the option. -/
def takesValue : Opt → Bool
  | config | define | format => true
  | help | version | verbose => false

/-- The long form. -/
def longForm (o : Opt) : String := String.ofList ('-' :: '-' :: o.word)

/-- The short and the long form. -/
def name (o : Opt) : String :=
  match o.letter? with
  | some l => String.ofList ['-', l, '/'] ++ o.longForm
  | none => o.longForm

/-- The option with a letter. -/
def ofLetter? (c : Char) : Option Opt := all.find? (·.letter? == some c)

/-- The options whose words start like this. -/
def withLead (lead : List Char) : List Opt := all.filter (lead.isPrefixOf ·.word)

end Opt

/-- What the options ask for. -/
structure Settings where
  /-- The path of a property file. -/
  config : Option String
  /-- Properties in the order in which they were defined; `none` is a definition whose text was left
  out. -/
  definitions : List (Option (String × String))
  format : Format
  /-- How often a detailed log was asked for. -/
  verbosity : Nat
  deriving DecidableEq, Repr

/-- The settings without any option. -/
def Settings.default : Settings := ⟨none, [], .yaml, 0⟩

/-- The defined properties; each definition must be there. -/
def Settings.defined (s : Settings) : Except Fault (List (String × String)) :=
  match s.definitions.findIdx? Option.isNone with
  | some index => .error (.emptyDefinition index)
  | none => .ok (s.definitions.filterMap id)

/-- What is wrong with the arguments. -/
inductive Misuse where
  /-- An abbreviation fits several options. -/
  | ambiguous (argument : String) (fitting : List Opt)
  | missingValue (o : Opt)
  /-- A value is attached to an option that takes none. -/
  | strayValue (o : Opt) (value : String)
  | badDefinition (argument : String)
  | badFormat (name : String)
  /-- Arguments that belong to no option. -/
  | unrecognized (arguments : List String)
  deriving DecidableEq, Repr

/-- Texts with commas between them. -/
def listed (texts : List String) : String := String.intercalate ", " texts

/-- A message about an option. -/
def about (o : Opt) (message : String) : String := s!"argument {o.name}: {message}"

/-- The wording of a misuse. -/
def Misuse.message : Misuse → String
  | ambiguous argument fitting =>
    s!"ambiguous option: {argument} could match {listed (fitting.map Opt.longForm)}"
  | missingValue o => about o "expected one argument"
  | strayValue o value => about o s!"ignored explicit argument {quoted value}"
  | badDefinition argument => about .define (Fault.badDefinition argument).message
  | badFormat name =>
    let choices := listed (Format.all.map fun f => quoted f.name)
    about .format s!"invalid choice: {quoted name} (choose from {choices})"
  | unrecognized arguments => "unrecognized arguments: " ++ String.intercalate " " arguments

/-- The definition of a property: the text before the first equal sign, trimmed, is its name, and
the text behind it its value. -/
def definition? (argument : String) : Option (String × String) :=
  match cutFirst '=' argument.toList with
  | (_, none) => none
  | (name, some value) =>
    if (trim name).isEmpty then none
    else some (String.ofList (trim name), String.ofList value)

/-- The definition of a property, or a fault. -/
def definition (argument : String) : Except Fault (String × String) :=
  match definition? argument with
  | some d => .ok d
  | none => .error (.badDefinition argument)

end CommandLine

end HostFacts
