import HostFacts.Yaml.Node

/-!
# Merge keys

A mapping with merge keys takes over the entries of other mappings: of one, or of several in
a sequence. They come before its own entries, and of several mappings in a sequence the first has
the last word. Merging changes the nodes themselves, so an alias that is followed later finds the
mapping merged. Its own keys for the value of the whole mapping change too: from then on they are
texts like others.

A mapping may be merged into one that it holds, or into itself. A merge key is taken out before what
it leads to is merged, so this comes to an end.
-/

namespace HostFacts.Yaml

/-- The tag of a node. -/
def Node.tag : Node → Tag
  | .scalar tag _ => tag
  | .sequence tag _ => tag
  | .mapping tag _ => tag

/-- Whether a node is a mapping. -/
def Node.isMapping : Node → Bool
  | .mapping .. => true
  | _ => false

/-- The entries of a mapping. -/
def Node.entries : Node → List (Nat × Nat)
  | .mapping _ entries => entries
  | _ => []

/-- A node with another tag. -/
def Node.withTag (tag : Tag) : Node → Node
  | .scalar _ text => .scalar tag text
  | .sequence _ items => .sequence tag items
  | .mapping _ entries => .mapping tag entries

namespace Nodes

/-- The node with a number. -/
def node (nodes : Nodes) (n : Nat) : Node := nodes.getD n .nothing

/-- The tag of the node with a number. -/
def tag (nodes : Nodes) (n : Nat) : Tag := (nodes.node n).tag

/-- Takes a key for the value of the whole mapping as a text. -/
def settleKey (nodes : Nodes) (n : Nat) : Nodes :=
  if nodes.tag n = .value then nodes.setIfInBounds n ((nodes.node n).withTag .text) else nodes

/-- The text of a node where a scalar is expected. A mapping gives the text under its key for the
value of the whole mapping. If that leads through as many mappings as there are nodes, it leads back
to one of them and does not end: `depth` is the number of nodes. -/
def scalarText (nodes : Nodes) : Nat → Nat → Except Flaw (List Char)
  | 0, _ => .error (.fault ⟨.endless, rfl⟩)
  | depth + 1, n =>
    match nodes.node n with
    | .scalar _ text => .ok text
    | .sequence .. => .error .illFormed
    | .mapping _ entries =>
      match entries.find? fun e => nodes.tag e.1 = .value with
      | some e => nodes.scalarText depth e.2
      | none => .error .illFormed

/-- The number of all entries of mappings. -/
def entryCount (nodes : Nodes) : Nat :=
  nodes.foldl (fun count node => count + node.entries.length) 0

end Nodes

/-- Changes the nodes of a document. -/
abbrev Editing := StateT Nodes (Except Flaw)

/-- Merges what is left to merge of a mapping that has taken over some entries. The first merge key
is taken out, and the mappings that it leads to are merged for their entries. No merge key comes in
by that, so `depth` need not be more than the number of all entries and one more. -/
def mergeRest : Nat → Nat → List (Nat × Nat) → Editing Unit
  | 0, _, _ => throw .illFormed
  | depth + 1, n, taken => do
    let nodes ← get
    let .mapping tag entries := nodes.node n | throw .illFormed
    let merged (source : Nat) : Editing (List (Nat × Nat)) := do
      mergeRest depth source []
      return ((← get).node source).entries
    match entries.span fun e => nodes.tag e.1 ≠ .merge with
    | (before, (_, source) :: after) =>
      set (nodes.setIfInBounds n (.mapping tag (before ++ after)))
      let more ←
        match nodes.node source with
        | .sequence _ items => (fun lists => lists.reverse.flatten) <$> items.mapM merged
        | _ => merged source
      mergeRest depth n (taken ++ more)
    | (own, []) =>
      let nodes := own.foldl (fun nodes e => nodes.settleKey e.1) nodes
      set (nodes.setIfInBounds n (.mapping tag (taken ++ own)))

/-- Merges a mapping and gives its entries. -/
def merge (n : Nat) : Editing (List (Nat × Nat)) := do
  mergeRest ((← get).entryCount + 1) n []
  return ((← get).node n).entries

end HostFacts.Yaml
