import HostFacts.Yaml.Basic

/-!
# Tokens

The tokens of a YAML text. Indentation has become explicit: a block collection starts and ends with
tokens of its own, and a key is announced before it comes. The end of the list is the end of the
text; a text that breaks off has `broken` as its last token.
-/

namespace HostFacts.Yaml

/-- A line before a document that says how it is to be read. -/
inductive Directive where
  /-- The version of the language; only the first number counts. -/
  | version (major : Nat)
  /-- What a tag handle stands for. -/
  | tag (handle meaning : List Char)
  /-- Anything else is passed over. -/
  | other

/-- A token. -/
inductive Token where
  | directive (d : Directive)
  | documentStart
  | documentEnd
  | blockSequenceStart
  | blockMappingStart
  | blockEnd
  | flowSequenceStart
  | flowSequenceEnd
  | flowMappingStart
  | flowMappingEnd
  | blockEntry
  | flowEntry
  | key
  | value
  | alias (name : List Char)
  | anchor (name : List Char)
  /-- A tag: a handle with a suffix, or the whole tag. -/
  | tag (handle : Option (List Char)) (suffix : List Char)
  | scalar (isPlain : Bool) (text : List Char)
  /-- The text cannot be read further. -/
  | broken (flaw : Flaw)

/-- Ends with the flaw where the text breaks off here. -/
def intact : List Token → Except Flaw Unit
  | .broken flaw :: _ => .error flaw
  | _ => .ok ()

/-- The flaw that a list of tokens shows where another token is expected. -/
def flawAt : List Token → Flaw
  | .broken flaw :: _ => flaw
  | _ => .illFormed

end HostFacts.Yaml
