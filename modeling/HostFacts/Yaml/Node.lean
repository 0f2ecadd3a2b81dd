import HostFacts.Entries
import HostFacts.Yaml.Tag
import HostFacts.Yaml.Token

/-!
# Nodes

A node is a scalar, a sequence or a mapping, each with its tag. The nodes of a document are numbered
as they are finished, one with an anchor as soon as it is begun, and an alias is the number of the
node with its anchor. So an alias inside that node names the node too, and a collection may hold
itself. An anchor is given once. `document` reads the one document of a list of tokens.

Each reader consumes the tokens it answers for: a `Taken n` carries the proof that fewer than `n`
tokens are left, so the readers can call each other.
-/

namespace HostFacts.Yaml

/-- A node of a document, which names other nodes by their numbers. -/
inductive Node where
  | scalar (tag : Tag) (text : List Char)
  | sequence (tag : Tag) (items : List Nat)
  | mapping (tag : Tag) (entries : List (Nat × Nat))

/-- The node where nothing is written. -/
def Node.nothing : Node := .scalar .null []

/-- The nodes of a document in the order of their numbers. -/
abbrev Nodes := Array Node

/-- A document. -/
structure Document where
  nodes : Nodes
  /-- The number of the node that holds all others. -/
  root : Nat

/-- How far a document is read. -/
structure Draft where
  nodes : Nodes
  /-- The nodes with anchors; one that is still being read has its number, but nothing is there. -/
  anchors : Entries (List Char) Nat

/-- What tag handles stand for. -/
abbrev Handles := Entries (List Char) (List Char)

/-- The handles that are always known. -/
def defaultHandles : Handles := .ofList [(['!'], ['!']), (['!', '!'], tagSpace)]

namespace Draft

/-- Nothing is read. -/
def empty : Draft := ⟨#[], .empty⟩

/-- Adds a node; it gets the next number. -/
def add (d : Draft) (node : Node) : Nat × Draft :=
  (d.nodes.size, { d with nodes := d.nodes.push node })

/-- Gives a number to a node with an anchor that is about to be read; the anchor must be a new
one. -/
def openAnchor (d : Draft) (anchor : Option (List Char)) : Except Flaw Draft :=
  match anchor with
  | none => .ok d
  | some a =>
    if d.anchors.has a then .error .illFormed
    else
      let (n, d) := d.add .nothing
      .ok { d with anchors := d.anchors.put a n }

/-- Puts a node that was read in the place that its anchor has for it. -/
def closeAnchor (d : Draft) (anchor : Option (List Char)) (n : Nat) : Nat × Draft :=
  match anchor.bind d.anchors.get? with
  | none => (n, d)
  | some place =>
    (place, { d with nodes := d.nodes.setIfInBounds place (d.nodes.getD n .nothing) })

/-- The node that an alias stands for. -/
def aliased (d : Draft) (name : List Char) : Except Flaw Nat :=
  match d.anchors.get? name with
  | some n => .ok n
  | none => .error .illFormed

end Draft

/-- What a reader took: fewer than `n` tokens are left. -/
structure Taken (n : Nat) (α : Type) where
  value : α
  draft : Draft
  rest : List Token
  shorter : rest.length < n

/-- Takes a node. -/
def Taken.node {n : Nat} (node : Node) (d : Draft) (rest : List Token) (h : rest.length < n) :
    Taken n Nat :=
  ⟨(d.add node).1, (d.add node).2, rest, h⟩

/-- What stands in front of a node. -/
structure Properties where
  anchor : Option (List Char)
  tag : Option (Option (List Char) × List Char)
  deriving DecidableEq

/-- Reads an anchor and a tag, in either order. -/
def properties : List Token → Properties × List Token
  | .anchor a :: .tag h s :: rest => (⟨some a, some (h, s)⟩, rest)
  | .tag h s :: .anchor a :: rest => (⟨some a, some (h, s)⟩, rest)
  | .anchor a :: rest => (⟨some a, none⟩, rest)
  | .tag h s :: rest => (⟨none, some (h, s)⟩, rest)
  | rest => (⟨none, none⟩, rest)

/-- Properties take the tokens that they are written with. -/
theorem properties_le (ts : List Token) :
    (properties ts).2.length ≤ ts.length ∧
      ((properties ts).1 = ⟨none, none⟩ ∨ (properties ts).2.length < ts.length) := by
  fun_cases properties ts <;> simp <;> omega

/-- The tag of a node in full; a lone exclamation mark asks for the tag of the shape. -/
def fullTag (handles : Handles) : Option (Option (List Char) × List Char) →
    Except Flaw (Option (List Char))
  | none => .ok none
  | some (none, uri) => .ok (if uri = ['!'] then none else some uri)
  | some (some handle, suffix) =>
    match handles.get? handle with
    | none => .error .illFormed
    | some meaning => .ok (if meaning ++ suffix = ['!'] then none else some (meaning ++ suffix))

/-- The tag that is given, or else the one for the shape. -/
def tagOr (given : Option (List Char)) (shape : Tag) : Tag :=
  match given with
  | some uri => Tag.ofUri uri
  | none => shape

/-- A node without content. -/
def emptyNode (tag : Option (List Char)) : Node := .scalar (tagOr tag .null) []

/-! ## Where a node stands -/

/-- What a node may be at its place. -/
inductive Context where
  /-- Inside brackets. -/
  | flow
  /-- In a block. -/
  | block
  /-- In a block mapping, where a sequence need not be indented. -/
  | entry
  deriving DecidableEq

/-- Whether the content of a node starts here. -/
def startsContent (context : Context) : List Token → Bool
  | .scalar .. :: _ | .flowSequenceStart :: _ | .flowMappingStart :: _ => true
  | .blockSequenceStart :: _ | .blockMappingStart :: _ => context != .flow
  | .blockEntry :: _ => context == .entry
  | _ => false

/-- Whether the next token shows that nothing is written. -/
def nothingBefore (ends : Token → Bool) : List Token → Bool
  | [] => false
  | t :: _ => ends t

/-- The ends of an entry of a block sequence. -/
def endsItem : Token → Bool
  | .blockEntry | .blockEnd => true
  | _ => false

/-- The ends of an entry of a block sequence that is not indented. -/
def endsLooseItem : Token → Bool
  | .blockEntry | .key | .value | .blockEnd => true
  | _ => false

/-- The ends of a key or a value of a block mapping. -/
def endsBlockPart : Token → Bool
  | .key | .value | .blockEnd => true
  | _ => false

/-- The ends of a key inside brackets. -/
def endsFlowKey (closing : Token → Bool) : Token → Bool
  | .value | .flowEntry => true
  | t => closing t

/-- The ends of a value inside brackets. -/
def endsFlowValue (closing : Token → Bool) : Token → Bool
  | .flowEntry => true
  | t => closing t

/-- Whether a token closes a sequence in brackets. -/
def closesSequence : Token → Bool
  | .flowSequenceEnd => true
  | _ => false

/-- Whether a token closes a mapping in brackets. -/
def closesMapping : Token → Bool
  | .flowMappingEnd => true
  | _ => false

/-! ## The readers -/

variable (handles : Handles)

mutual

/-- Reads a node, or nothing if the next token shows that there is none. -/
def nodeOrNothing (ends : Token → Bool) (context : Context) (draft : Draft)
    (ts : List Token) : Except Flaw (Taken (ts.length + 1) Nat) :=
  if nothingBefore ends ts then .ok (.node .nothing draft ts (by simp))
  else do
    let ⟨n, draft, rest, h⟩ ← node context draft ts
    return ⟨n, draft, rest, by omega⟩
termination_by 5 * ts.length + 3

/-- Reads a node. Behind an anchor or a tag that stands alone the other is looked for before the
tag is judged; behind both of them the tag is judged first. -/
def node (context : Context) (draft : Draft) (ts : List Token) :
    Except Flaw (Taken ts.length Nat) :=
  match ts with
  | .alias name :: rest => (draft.aliased name).map fun n => ⟨n, draft, rest, by simp⟩
  | ts => do
    have hp := properties_le ts
    let p := (properties ts).1
    if p.anchor.isNone || p.tag.isNone then intact (properties ts).2
    let tag ← fullTag handles p.tag
    intact (properties ts).2
    let draft ← draft.openAnchor p.anchor
    let guessed := p.tag.isSome && tag.isNone
    if startsContent context (properties ts).2 then
      let ⟨n, draft, rest, h⟩ ← content tag guessed draft (properties ts).2
      let (n, draft) := draft.closeAnchor p.anchor n
      return ⟨n, draft, rest, by omega⟩
    else if hn : (properties ts).1 = ⟨none, none⟩ then throw (flawAt ts)
    else
      let (n, draft) := draft.add (emptyNode tag)
      let (n, draft) := draft.closeAnchor p.anchor n
      return ⟨n, draft, (properties ts).2, hp.2.resolve_left hn⟩
termination_by 5 * ts.length + 2

/-- Reads a node behind its properties. A scalar is taken as a plain one if `guessed` asks for
it. -/
def content (tag : Option (List Char)) (guessed : Bool) (draft : Draft) (ts : List Token) :
    Except Flaw (Taken ts.length Nat) :=
  match ts with
  | .scalar isPlain text :: rest =>
    let shape := if isPlain || guessed then Tag.ofPlain text else .text
    .ok (.node (.scalar (tagOr tag shape) text) draft rest (by simp))
  | .flowSequenceStart :: rest => do
    let ⟨items, draft, left, h⟩ ← flowItems draft rest
    return .node (.sequence (tagOr tag .sequence) items) draft left (Nat.lt_succ_of_lt h)
  | .flowMappingStart :: rest => do
    let ⟨entries, draft, left, h⟩ ← flowEntries draft rest
    return .node (.mapping (tagOr tag .mapping) entries) draft left (Nat.lt_succ_of_lt h)
  | .blockSequenceStart :: rest => do
    let ⟨items, draft, left, h⟩ ← blockItems draft rest
    return .node (.sequence (tagOr tag .sequence) items) draft left (Nat.lt_succ_of_lt h)
  | .blockMappingStart :: rest => do
    let ⟨entries, draft, left, h⟩ ← blockEntries draft rest
    return .node (.mapping (tagOr tag .mapping) entries) draft left (Nat.lt_succ_of_lt h)
  | .blockEntry :: rest => do
    let ⟨items, draft, left, h⟩ ← looseItems draft rest
    return .node (.sequence (tagOr tag .sequence) items) draft left h
  | ts => .error (flawAt ts)
termination_by 5 * ts.length + 1

/-- Reads the entries of a block sequence. -/
def blockItems (draft : Draft) (ts : List Token) :
    Except Flaw (Taken ts.length (List Nat)) :=
  match ts with
  | .blockEnd :: rest => .ok ⟨[], draft, rest, by simp⟩
  | .blockEntry :: rest => do
    let ⟨first, draft, rest, h⟩ ← nodeOrNothing endsItem .block draft rest
    let ⟨more, draft, rest, h'⟩ ← blockItems draft rest
    return ⟨first :: more, draft, rest, by simp only [List.length_cons]; omega⟩
  | ts => .error (flawAt ts)
termination_by 5 * ts.length

/-- Reads the entries of a block sequence that is not indented, from behind the first mark. -/
def looseItems (draft : Draft) (ts : List Token) :
    Except Flaw (Taken (ts.length + 1) (List Nat)) := do
  let ⟨first, draft, rest, h⟩ ← nodeOrNothing endsLooseItem .block draft ts
  match rest, h with
  | .blockEntry :: rest, h =>
    have : rest.length < ts.length := by simpa using h
    let ⟨more, draft, rest, h'⟩ ← looseItems draft rest
    return ⟨first :: more, draft, rest, by omega⟩
  | rest, h => return ⟨[first], draft, rest, h⟩
termination_by 5 * ts.length + 4

/-- Reads a value with the mark in front of it, or nothing if there is no mark. -/
def markedValue (ends : Token → Bool) (context : Context) (draft : Draft)
    (ts : List Token) : Except Flaw (Taken (ts.length + 1) Nat) :=
  match ts with
  | .value :: rest => do
    let ⟨n, draft, rest, h⟩ ← nodeOrNothing ends context draft rest
    return ⟨n, draft, rest, by simp only [List.length_cons]; omega⟩
  | ts => .ok (.node .nothing draft ts (by simp))
termination_by 5 * ts.length

/-- Reads the entries of a block mapping. -/
def blockEntries (draft : Draft) (ts : List Token) :
    Except Flaw (Taken ts.length (List (Nat × Nat))) :=
  match ts with
  | .blockEnd :: rest => .ok ⟨[], draft, rest, by simp⟩
  | .key :: rest => do
    let ⟨k, draft, rest, h⟩ ← nodeOrNothing endsBlockPart .entry draft rest
    let ⟨v, draft, rest, h'⟩ ← markedValue endsBlockPart .entry draft rest
    let ⟨more, draft, rest, h''⟩ ← blockEntries draft rest
    return ⟨(k, v) :: more, draft, rest, by simp only [List.length_cons]; omega⟩
  | ts => .error (flawAt ts)
termination_by 5 * ts.length

/-- Reads a key with its value inside brackets, from behind the mark of the key. -/
def flowPair (closing : Token → Bool) (draft : Draft) (ts : List Token) :
    Except Flaw (Taken (ts.length + 1) (Nat × Nat)) := do
  let ⟨k, draft, rest, h⟩ ← nodeOrNothing (endsFlowKey closing) .flow draft ts
  let ⟨v, draft, rest, h'⟩ ← markedValue (endsFlowValue closing) .flow draft rest
  return ⟨(k, v), draft, rest, by omega⟩
termination_by 5 * ts.length + 4

/-- Reads an item of a sequence in brackets; a lone pair is a mapping of its own. -/
def flowItem (draft : Draft) (ts : List Token) : Except Flaw (Taken ts.length Nat) :=
  match ts with
  | .key :: rest => do
    let ⟨pair, draft, rest, h⟩ ← flowPair closesSequence draft rest
    return .node (.mapping .mapping [pair]) draft rest h
  | ts => node .flow draft ts
termination_by 5 * ts.length + 3

/-- Reads the items of a sequence in brackets. -/
def flowItems (draft : Draft) (ts : List Token) :
    Except Flaw (Taken ts.length (List Nat)) :=
  match ts with
  | .flowSequenceEnd :: rest => .ok ⟨[], draft, rest, by simp⟩
  | ts => do
    let ⟨first, draft, rest, h⟩ ← flowItem draft ts
    match rest, h with
    | .flowSequenceEnd :: rest, h => return ⟨[first], draft, rest, Nat.lt_of_succ_lt h⟩
    | .flowEntry :: rest, h =>
      have := Nat.lt_of_succ_lt h
      let ⟨more, draft, rest, h'⟩ ← flowItems draft rest
      return ⟨first :: more, draft, rest, by omega⟩
    | rest, _ => throw (flawAt rest)
termination_by 5 * ts.length + 4

/-- Reads an entry of a mapping in brackets; a lone node is a key without a value. -/
def flowEntry (draft : Draft) (ts : List Token) :
    Except Flaw (Taken ts.length (Nat × Nat)) :=
  match ts with
  | .key :: rest => flowPair closesMapping draft rest
  | ts => do
    let ⟨k, draft, rest, h⟩ ← node .flow draft ts
    let (v, draft) := draft.add .nothing
    return ⟨(k, v), draft, rest, h⟩
termination_by 5 * ts.length + 3

/-- Reads the entries of a mapping in brackets. -/
def flowEntries (draft : Draft) (ts : List Token) :
    Except Flaw (Taken ts.length (List (Nat × Nat))) :=
  match ts with
  | .flowMappingEnd :: rest => .ok ⟨[], draft, rest, by simp⟩
  | ts => do
    let ⟨first, draft, rest, h⟩ ← flowEntry draft ts
    match rest, h with
    | .flowMappingEnd :: rest, h => return ⟨[first], draft, rest, Nat.lt_of_succ_lt h⟩
    | .flowEntry :: rest, h =>
      have := Nat.lt_of_succ_lt h
      let ⟨more, draft, rest, h'⟩ ← flowEntries draft rest
      return ⟨first :: more, draft, rest, by omega⟩
    | rest, _ => throw (flawAt rest)
termination_by 5 * ts.length + 4

end

/-! ## Documents -/

/-- The tokens behind marks of the end of a document. -/
def skipEnds : List Token → List Token
  | .documentEnd :: rest => skipEnds rest
  | ts => ts

/-- Reads the directives of a document: the handles they declare, and whether a version was
given. -/
def directives (versioned : Bool) (declared : Handles) :
    List Token → Except Flaw (Handles × List Token)
  | .directive (.version major) :: rest =>
    if versioned || major ≠ 1 then .error .illFormed else directives true declared rest
  | .directive (.tag handle meaning) :: rest =>
    if declared.has handle then .error .illFormed
    else directives versioned (declared.put handle meaning) rest
  | .directive .other :: rest => directives versioned declared rest
  | ts => .ok (defaultHandles.putAll declared, ts)

/-- Whether a document ends before a token. -/
def endsDocument : List Token → Bool
  | [] | .directive _ :: _ | .documentStart :: _ | .documentEnd :: _ => true
  | _ => false

/-- Reads the node that holds a document. -/
def documentNode (handles : Handles) (ts : List Token) :
    Except Flaw (Option Document × List Token) := do
  let ⟨n, draft, rest, _⟩ ← node handles .block .empty ts
  return (some ⟨draft.nodes, n⟩, rest)

/-- Reads a document, if there is one, and what follows it. -/
def firstDocument (ts : List Token) : Except Flaw (Option Document × List Token) := do
  if !(ts.isEmpty || (endsDocument ts && !(ts.head? matches some .documentEnd))) then
    return ← documentNode defaultHandles ts
  let ts := skipEnds ts
  if ts.isEmpty then return (none, [])
  match ← directives false .empty ts with
  | (handles, .documentStart :: rest) =>
    if endsDocument rest then return (some ⟨#[.nothing], 0⟩, rest)
    documentNode handles rest
  | (_, rest) => throw (flawAt rest)

/-- Reads the one document; there may be none. -/
def document (ts : List Token) : Except Flaw (Option Document) := do
  let (d, rest) ← firstDocument ts
  let rest := skipEnds rest
  if rest.isEmpty then return d
  let (_, rest) ← directives false .empty rest
  throw (flawAt rest)

end HostFacts.Yaml
