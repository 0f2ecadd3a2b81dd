import HostFacts.Yaml.Lexer
import HostFacts.Yaml.Value

/-!
# Reading YAML

`read` gives the value of a YAML text: characters to tokens, tokens to the nodes of the one
document, and the nodes to its value. A text without a document stands for null.
-/

namespace HostFacts.Yaml

/-- The value of a text. -/
def read (s : List Char) : Except Flaw Value :=
  if s.all isAllowed then do
    match ← document (tokens s) with
    | some d => d.value
    | none => return .null
  else .error .illFormed

end HostFacts.Yaml
