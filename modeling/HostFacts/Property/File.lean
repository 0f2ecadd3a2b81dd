import HostFacts.Property.Table
import HostFacts.Yaml.Read

/-!
# Property files

A property file is a YAML text in UTF-8 that holds a mapping, or nothing at all. `Table.load` makes
a table of it. A file that is missing, ill-formed, or no mapping of properties is a configuration
fault with the path of the file. A path that cannot be opened at all, a text that is not UTF-8, a
value that does not exist, and a mapping that the stack has no room for are faults of their own.
-/

namespace HostFacts

open HostFacts.Text HostFacts.Number

/-- The text with a line feed at the end of each line, whatever was there before. -/
def uniformLines : List Char → List Char
  | '\r' :: '\n' :: rest => '\n' :: uniformLines rest
  | c :: rest => (if c = '\r' then '\n' else c) :: uniformLines rest
  | [] => []

namespace Table

/-- The properties that the value of a file holds. -/
def fileEntries : Value → Except ConfigCause (List (Value × Value))
  | .map entries => .ok entries
  | .null => .ok []
  | v => .error (.notMapping v.kind)

/-- The table over two layers with the properties of a file's content, for a file at a normal path.
Of what is wrong with a property, bad values count as faults of the file. -/
def ofContent (layers : Layers) (path : String) (content : List UInt8) : Except Fault Table := do
  let text ← (Utf8.decode content).mapError .undecodable
  let value ←
    match Yaml.read (uniformLines text) with
    | .ok value => .ok value
    | .error .illFormed => .error (Fault.ofConfig .illFormed path)
    | .error (.fault f) => .error f
  let entries ← (fileEntries value).mapError (Fault.ofConfig · path)
  (ofValues layers entries).mapError fun f =>
    if f.isA .value then .ofConfig (.property f.message) path else f

/-- The content of the file at a normal path. -/
def contentOf (files : Files.Reader) (path : String) : Except Fault (List UInt8) :=
  match files path with
  | .ok content => .ok content
  | .error .nullCharacter => .error .nullCharacter
  | .error (.unencodable u) => .error (.unencodable u)
  | .error failure => .error (.ofConfig (.unreadable failure) path)

/-- The table over two layers with the properties of the file at a path. -/
def load (layers : Layers) (path : String) : Act World Table := do
  let path := Path.normal path
  let w ← Act.get
  let content ← Act.ofExcept (contentOf w.files path)
  let t ← Act.ofExcept (ofContent layers path content)
  logLine .debug .properties s!"Loaded {natText t.explicit.size} properties from {path}"
  return t

end Table

end HostFacts
