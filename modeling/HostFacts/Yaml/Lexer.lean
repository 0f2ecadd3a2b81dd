import HostFacts.Yaml.Block
import HostFacts.Yaml.Plain
import HostFacts.Yaml.Quoted
import HostFacts.Yaml.Word

/-!
# From text to tokens

`tokens` cuts a text into tokens and makes indentation explicit. A key may stand without a mark in
front of it: only the colon behind it tells. So what may turn out to be a key is remembered as a
`Candidate`, one for each level of open brackets, and the tokens for the key are put in at its place
when the colon comes. A candidate has to stay on one line and to be at most `keyLimit` characters
long; at the indentation of its block there is no other way to go on, and the colon is required.

Tokens behind a candidate are not settled, and where the text breaks off only the settled ones
count: whoever reads the tokens meets the flaw before those that are not.
-/

namespace HostFacts.Yaml

/-- The longest distance from the start of a key to its colon. -/
def keyLimit : Nat := 1024

/-- Something that is a key if a colon follows it. -/
structure Candidate where
  /-- How many tokens come before it. -/
  position : Nat
  place : Place
  /-- Whether the colon has to come. -/
  required : Bool

/-- How far a text is cut. -/
structure Lexer where
  rest : List Char
  place : Place
  /-- The columns of the open blocks, the innermost first. -/
  columns : List Nat
  /-- Whether a key may start here. -/
  allowsKey : Bool
  candidate : Option Candidate
  /-- The candidates outside each open bracket, the innermost first. -/
  outer : List (Option Candidate)
  /-- The tokens so far, the latest first. -/
  tokens : List Token

namespace Lexer

/-- The start of a text. -/
def start (s : List Char) : Lexer := ⟨s, .start, [], true, none, [], []⟩

/-- Whether brackets are open. -/
def inFlow (l : Lexer) : Bool := !l.outer.isEmpty

/-- One more than the indentation of the innermost block; zero without a block. -/
def inner (l : Lexer) : Nat :=
  match l.columns with
  | [] => 0
  | c :: _ => c + 1

/-- Goes on to a rest of the text. -/
def goTo (l : Lexer) (rest : List Char) : Lexer :=
  let passed := l.rest.take (l.rest.length - rest.length)
  { l with rest, place := passed.foldl Place.next l.place }

/-- Goes over some characters. -/
def skip (l : Lexer) (n : Nat) : Lexer := l.goTo (l.rest.drop n)

/-- Adds a token. -/
def emit (l : Lexer) (t : Token) : Lexer := { l with tokens := t :: l.tokens }

/-- Sets whether a key may start here. -/
def allowKey (l : Lexer) (b : Bool) : Lexer := { l with allowsKey := b }

/-- Puts a token in behind the first `position` tokens. -/
def insertAt (l : Lexer) (position : Nat) (t : Token) : Lexer :=
  let later := l.tokens.length - position
  { l with tokens := l.tokens.take later ++ t :: l.tokens.drop later }

/-! ## Candidates -/

/-- Gives a candidate up; it must not be a required one. -/
def giveUp : Option Candidate → Except Flaw (Option Candidate)
  | some c => if c.required then .error .illFormed else .ok none
  | none => .ok none

/-- Whether a candidate can no longer be a key. -/
def isStale (l : Lexer) (c : Candidate) : Bool :=
  c.place.line != l.place.line || keyLimit < l.place.index - c.place.index

/-- Gives a candidate up when it is stale. -/
def refresh (l : Lexer) : Option Candidate → Except Flaw (Option Candidate)
  | some c => if l.isStale c then giveUp (some c) else .ok (some c)
  | none => .ok none

/-- Gives up all candidates that are stale. -/
def dropStale (l : Lexer) : Except Flaw Lexer := do
  let outer ← l.outer.mapM l.refresh
  let candidate ← l.refresh l.candidate
  return { l with outer, candidate }

/-- Gives the candidate at this level up. -/
def dropCandidate (l : Lexer) : Except Flaw Lexer := do
  return { l with candidate := ← giveUp l.candidate }

/-- The number of tokens in front of which no other token can come any more. -/
def settled (l : Lexer) : Nat :=
  let waiting := ((l.candidate :: l.outer).filterMap id).filter fun c => !l.isStale c
  waiting.foldl (fun n c => min n c.position) l.tokens.length

/-- The settled tokens of a text that breaks off, and the flaw. -/
def breakOff (l : Lexer) (flaw : Flaw) : List Token :=
  (.broken flaw :: l.tokens.drop (l.tokens.length - l.settled)).reverse

/-- Remembers that a key may start here. -/
def saveCandidate (l : Lexer) : Except Flaw Lexer := do
  if l.allowsKey then
    let _ ← giveUp l.candidate
    let required := !l.inFlow && l.columns.head? == some l.place.column
    return { l with candidate := some ⟨l.tokens.length, l.place, required⟩ }
  else return l

/-! ## Blocks -/

/-- Closes the blocks that a condition on their columns picks. -/
def closeBlocks (l : Lexer) (p : Nat → Bool) : Lexer :=
  { l with
    columns := l.columns.dropWhile p
    tokens := List.replicate (l.columns.takeWhile p).length .blockEnd ++ l.tokens }

/-- Closes the blocks that are indented further than this place. -/
def unwind (l : Lexer) : Lexer :=
  if l.inFlow then l else l.closeBlocks fun c => l.place.column < c

/-- Opens a block at a column unless one at this column or further in is open; its first token is
put in behind the first `position` tokens. -/
def openBlock (l : Lexer) (column position : Nat) (first : Token) : Lexer :=
  if l.columns.head?.all (· < column) then
    { l.insertAt position first with columns := column :: l.columns }
  else l

/-! ## Tokens -/

/-- Goes over spaces, comments and line ends; behind a line end a key may start. -/
def skipBlank (comment : Bool) : List Char → List Char × Bool
  | [] => ([], false)
  | c :: rest =>
    if isBreak c then ((skipBlank false rest).1, true)
    else if comment || c = ' ' then skipBlank comment rest
    else if c = '#' then skipBlank true rest
    else (c :: rest, false)

/-- Goes to the next token. -/
def toToken (l : Lexer) : Lexer :=
  let l := if l.place.index = 0 && atAny ['\uFEFF'] l.rest then l.skip 1 else l
  let (rest, broken) := skipBlank false l.rest
  (l.goTo rest).allowKey (l.allowsKey || (broken && !l.inFlow))

/-- Cuts a token that ends all blocks off. -/
def outermost (l : Lexer) : Except Flaw Lexer := do
  return (← (l.closeBlocks fun _ => true).dropCandidate).allowKey false

/-- Opens a bracket. -/
def openFlow (l : Lexer) (t : Token) : Except Flaw Lexer := do
  let l ← l.saveCandidate
  let l := { l with outer := l.candidate :: l.outer, candidate := none, allowsKey := true }
  return (l.skip 1).emit t

/-- Closes a bracket. -/
def closeFlow (l : Lexer) (t : Token) : Except Flaw Lexer := do
  let l ← l.dropCandidate
  match l.outer with
  | [] => throw .illFormed
  | candidate :: outer =>
    return ({ l with outer, candidate, allowsKey := false }.skip 1).emit t

/-- Goes from one item inside brackets to the next. -/
def nextItem (l : Lexer) : Except Flaw Lexer := do
  return ((← (l.allowKey true).dropCandidate).skip 1).emit .flowEntry

/-- Starts an entry of a block sequence. -/
def blockItem (l : Lexer) : Except Flaw Lexer := do
  if !l.inFlow && !l.allowsKey then throw .illFormed
  let l := if l.inFlow then l
    else l.openBlock l.place.column l.tokens.length .blockSequenceStart
  return ((← (l.allowKey true).dropCandidate).skip 1).emit .blockEntry

/-- Starts a key that is marked as one. -/
def markedKey (l : Lexer) : Except Flaw Lexer := do
  if !l.inFlow && !l.allowsKey then throw .illFormed
  let l := if l.inFlow then l
    else l.openBlock l.place.column l.tokens.length .blockMappingStart
  return ((← (l.allowKey (!l.inFlow)).dropCandidate).skip 1).emit .key

/-- Starts a value; the candidate at this level, if there is one, was its key. -/
def startValue (l : Lexer) : Except Flaw Lexer := do
  match l.candidate with
  | some c =>
    let l := { l with candidate := none }.insertAt c.position .key
    let l := if l.inFlow then l else l.openBlock c.place.column c.position .blockMappingStart
    return ((l.allowKey false).skip 1).emit .value
  | none =>
    if !l.inFlow && !l.allowsKey then throw .illFormed
    let l := if l.inFlow then l
      else l.openBlock l.place.column l.tokens.length .blockMappingStart
    return ((l.allowKey (!l.inFlow)).skip 1).emit .value

/-- Cuts a token off that may be a key. -/
def atom (l : Lexer) (read : List Char → Except Flaw (Token × List Char)) (skipped : Nat) :
    Except Flaw Lexer := do
  let l ← l.saveCandidate
  let (t, rest) ← read (l.rest.drop skipped)
  return ((l.allowKey false).goTo rest).emit t

/-- Cuts a plain scalar off; behind a line end the next key may start. -/
def plainScalar (l : Lexer) : Except Flaw Lexer := do
  let l ← l.saveCandidate
  let p := plain l.inFlow l.inner l.rest
  return ((l.allowKey p.broken).goTo p.rest).emit (.scalar true p.text)

/-- Cuts a block scalar off. -/
def foldedOrLiteral (l : Lexer) (fold : Bool) : Except Flaw Lexer := do
  let l ← (l.allowKey true).dropCandidate
  let (text, rest) ← blockScalar fold l.inner (l.rest.drop 1)
  return (l.goTo rest).emit (.scalar false text)

/-- Whether a plain scalar may start with the character `c` before `rest`. -/
def startsPlain (l : Lexer) (c : Char) (rest : List Char) : Bool :=
  !(isWhite c || isBreak c || "-?:,[]\x7b\x7d#&*!|>'\"%@\x60".toList.contains c) ||
    (!atBlank rest && (c == '-' || (!l.inFlow && (c == '?' || c == ':'))))

/-- Cuts the next token off, which starts with the character `c` before `rest`. -/
def next (l : Lexer) (c : Char) (rest : List Char) : Except Flaw Lexer := do
  let atStart := l.place.column = 0
  let spaced := l.inFlow || atBlank rest
  if atStart && c = '%' then
    let l ← l.outermost
    let (d, rest) ← directive rest
    return (l.goTo rest).emit (.directive d)
  else if atStart && atTriple '-' l.rest then return ((← l.outermost).skip 3).emit .documentStart
  else if atStart && atTriple '.' l.rest then return ((← l.outermost).skip 3).emit .documentEnd
  else if c = '[' then l.openFlow .flowSequenceStart
  else if c = '{' then l.openFlow .flowMappingStart
  else if c = ']' then l.closeFlow .flowSequenceEnd
  else if c = '}' then l.closeFlow .flowMappingEnd
  else if c = ',' then l.nextItem
  else if c = '-' && atBlank rest then l.blockItem
  else if c = '?' && spaced then l.markedKey
  else if c = ':' && spaced then l.startValue
  else if c = '*' then l.atom (fun s => (anchorName s).map fun (n, r) => (.alias n, r)) 1
  else if c = '&' then l.atom (fun s => (anchorName s).map fun (n, r) => (.anchor n, r)) 1
  else if c = '!' then l.atom tagToken 1
  else if c = '|' && !l.inFlow then l.foldedOrLiteral false
  else if c = '>' && !l.inFlow then l.foldedOrLiteral true
  else if c = '\'' || c = '"' then
    l.atom (fun s => (quotedScalar (c == '"') s).map fun (t, r) => (.scalar false t, r)) 1
  else if l.startsPlain c rest then l.plainScalar
  else throw .illFormed

/-- Goes to the next token and cuts it off; at the end of the text the open blocks are closed. -/
def step (l : Lexer) : Except Flaw Lexer := do
  let l := (← l.toToken.dropStale).unwind
  match l.rest with
  | [] => (l.closeBlocks fun _ => true).dropCandidate
  | c :: rest => l.next c rest

/-- Cuts the whole text. It ends where a step takes nothing, so at the end of the text. -/
def run (l : Lexer) : List Token :=
  match l.step with
  | .error flaw => l.breakOff flaw
  | .ok l' => if l'.rest.length < l.rest.length then l'.run else l'.tokens.reverse
termination_by l.rest.length

end Lexer

/-- The tokens of a text. -/
def tokens (s : List Char) : List Token := (Lexer.start s).run

end HostFacts.Yaml
