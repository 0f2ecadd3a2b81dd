import HostFacts.Yaml.Merge
import HostFacts.Yaml.Scalar

/-!
# From nodes to values

`Document.value` gives the value that a document stands for. A scalar gets its value when it is
first reached, while a collection is only begun then and filled later: collections are filled level
by level from the root, and within a level in the order in which they were begun. The first flaw on
this way counts. A mapping is merged right before it is filled, so what an alias leads to depends on
whether it is reached before or after that.

A node becomes one `Piece`, however many aliases lead to it, and a piece names its parts by their
numbers. The values are put together in the end. Where a collection comes up inside itself, a leaf
stands for it; and so it does for a mapping that lies too deep in others for the stack, as aliases
can put it there.
-/

namespace HostFacts.Yaml

/-- What a node has become. -/
inductive Piece where
  /-- A scalar; whether it is the word for not-a-number. -/
  | scalar (value : Value) (isNanWord : Bool)
  | list (items : List Nat)
  | map (entries : List (Nat × Nat))
  /-- A set of keys. -/
  | set (entries : List (Nat × Nat))
  /-- A list of pairs. -/
  | pairs (entries : List (Nat × Nat))

/-- The collection with a tag before it is filled. -/
def Piece.begun? : Tag → Option Piece
  | .sequence => some (.list [])
  | .mapping => some (.map [])
  | .set => some (.set [])
  | .pairs | .orderedMap => some (.pairs [])
  | _ => none

/-- Whether a piece can be a key: collections cannot. -/
def Piece.isKey : Piece → Bool
  | .scalar .. => true
  | _ => false

/-- How far the values of a document are made. -/
structure Construction where
  nodes : Nodes
  /-- What the nodes have become, in the order of their numbers. -/
  pieces : Array (Option Piece)
  /-- The collections that are not filled yet, the latest first. -/
  waiting : List Nat

/-- Makes the values of a document. -/
abbrev Constructing := StateT Construction (Except Flaw)

namespace Construction

/-- Notes what a node has become. -/
def put (n : Nat) (p : Piece) : Constructing Unit :=
  modify fun c => { c with pieces := c.pieces.setIfInBounds n (some p) }

/-- The value of a node with the tag of a scalar; a timestamp is not taken from a mapping. -/
def scalar (n : Nat) : Constructing Piece := do
  let nodes := (← get).nodes
  let tag := nodes.tag n
  let text ← nodes.scalarText nodes.size n
  if tag = .timestamp && (nodes.node n).isMapping then throw (.fault ⟨.notText "list", rfl⟩)
  return .scalar (← scalarValue tag text) (isNanWord tag text)

/-- What a node has become; a node that is reached for the first time becomes it now. -/
def piece (n : Nat) : Constructing Piece := do
  let c ← get
  match c.pieces.getD n none, Piece.begun? (c.nodes.tag n) with
  | some p, _ => return p
  | none, some p =>
    put n p
    modify fun c => { c with waiting := n :: c.waiting }
    return p
  | none, none =>
    let p ← scalar n
    put n p
    return p

/-! ## Filling collections -/

/-- Merges a mapping and makes its keys and values; a collection is no key. -/
def mapEntries (n : Nat) : Constructing (List (Nat × Nat)) := do
  let c ← get
  let (entries, nodes) ← merge n c.nodes
  set { c with nodes }
  entries.forM fun (key, value) => do
    if !(← piece key).isKey then throw .illFormed
    discard (piece value)
  return entries

/-- Makes the key and the value of a mapping with one entry. -/
def pair (n : Nat) : Constructing (Nat × Nat) := do
  match (← get).nodes.node n with
  | .mapping _ [(key, value)] =>
    discard (piece key)
    discard (piece value)
    return (key, value)
  | _ => throw .illFormed

/-- The items of a sequence. -/
def items (n : Nat) : Constructing (List Nat) := do
  match (← get).nodes.node n with
  | .sequence _ items => return items
  | _ => throw .illFormed

/-- Fills a collection. -/
def fill (n : Nat) : Constructing Unit := do
  match (← get).nodes.tag n with
  | .sequence =>
    let items ← items n
    items.forM fun item => discard (piece item)
    put n (.list items)
  | .mapping => put n (.map (← mapEntries n))
  | .set => put n (.set (← mapEntries n))
  | _ => put n (.pairs (← (← items n).mapM pair))

/-- Fills what waits, level by level. Each level has a node that was not reached before, so there
are not more levels than nodes. -/
def fillLevels : Nat → Constructing Unit
  | 0 => pure ()
  | levels + 1 => do
    let level := (← get).waiting.reverse
    modify fun c => { c with waiting := [] }
    level.forM fill
    if !level.isEmpty then fillLevels levels

/-! ## Putting the values together -/

/-- A key of a mapping. -/
structure Key where
  value : Value
  /-- The node that it is, except that the words for not-a-number are one. -/
  origin : Option Nat

/-- Keys are the same if they are one node or if their values are equal. -/
instance : BEq Key := ⟨fun a b => a.origin == b.origin || a.value == b.value⟩

/-- The key that a node became. -/
def key (c : Construction) (n : Nat) : Key :=
  match c.pieces.getD n none with
  | some (.scalar v isNanWord) => ⟨v, if isNanWord then none else some n⟩
  | _ => ⟨.null, some n⟩

/-- Of equal keys the first stays and the last value counts. -/
def distinct (c : Construction) (entries : List (Nat × Nat)) : Pairs Key Nat :=
  Pairs.ofList (entries.map fun e => (c.key e.1, e.2))

/-- How many mappings in one another the stack has room for, with a few callers around. -/
def stackRoom : Nat := 990

/-- The leaf that stands for a piece inside itself. -/
def enclosing : Piece → Value
  | .map _ => .enclosingMap
  | _ => .enclosingList

/-- The value of a node that lies in the collections `above`. None of them is gone through again, so
`depth` need not be more than the number of nodes and one more. -/
def value (c : Construction) : Nat → List Nat → Nat → Value
  | 0, _, _ => .null
  | depth + 1, above, n =>
    let part := c.value depth (n :: above)
    match c.pieces.getD n none with
    | none => .null
    | some p =>
      if above.contains n then enclosing p
      else
        match p with
        | .scalar v _ => v
        | .list items => .list (items.map part)
        | .map entries =>
          if stackRoom < above.length then .enclosingMap
          else .map ((c.distinct entries).map fun e => (e.1.value, part e.2))
        | .set entries => .set ((c.distinct entries).map fun e => e.1.value)
        | .pairs entries => .list (entries.map fun e => .tuple [part e.1, part e.2])

end Construction

/-- The value that a document stands for. -/
def Document.value (d : Document) : Except Flaw Value := do
  let start : Construction := ⟨d.nodes, Array.replicate d.nodes.size none, []⟩
  let (_, c) ← (Construction.piece d.root *> Construction.fillLevels d.nodes.size) start
  return c.value (d.nodes.size + 1) [] d.root

end HostFacts.Yaml
