import HostFacts.Text.Search
import HostFacts.Text.Surrogates
import HostFacts.Yaml.Pen
import HostFacts.Yaml.Tag

/-!
# Styles of scalars

A scalar is written in the first of three styles that can hold it: plain, in single quotes, or in
double quotes; bytes are written as a block. Only printable ASCII is written as it is. Lines are
folded at a space once they are longer than `lineWidth`.
-/

namespace HostFacts.Yaml

open HostFacts.Number HostFacts.Text

/-- The columns of a line. -/
def lineWidth : Nat := 80

/-- The columns of a level. -/
def levelWidth : Nat := 2

/-- How a scalar is written. -/
inductive Style where
  | plain
  | singleQuoted
  | doubleQuoted
  | block
  deriving DecidableEq, Repr

/-! ## Which style can hold a text -/

/-- Whether a character is printable ASCII. -/
def isGraphic (c : Char) : Bool := ' ' ≤ c && c ≤ '~'

/-- Whether a character is written by an escape. -/
def isSpecial (c : Char) : Bool := !(c == '\n' || isGraphic c)

/-- Whether a plain scalar cannot start like this. -/
def startsBadly : List Char → Bool
  | [] => false
  | c :: rest =>
    "#,[]\x7b\x7d&*!|>'\"%@\x60".toList.contains c || ("?:-".toList.contains c && atBlank rest)

/-- Whether a colon with white space behind it ends a plain scalar inside the text. -/
def hasColon : List Char → Bool
  | [] => false
  | c :: rest => (c == ':' && atBlank rest) || hasColon rest

/-- Whether a text, which is not empty, can be a plain scalar. -/
def canBePlain (s : List Char) : Bool :=
  !(s.any isSpecial || s.contains '\n' || ['-', '-', '-'].isPrefixOf s ||
    ['.', '.', '.'].isPrefixOf s || startsBadly s || hasColon s || occurs [' ', '#'] s ||
    s.head? == some ' ' || s.getLast? == some ' ')

/-- Whether a text can stand in single quotes. -/
def canBeQuoted (s : List Char) : Bool :=
  !(s.any isSpecial || occurs ['\n', ' '] s || occurs [' ', '\n'] s)

/-- Whether a text runs over several lines. -/
def hasLines (s : List Char) : Bool := s.any isBreak

/-- The style of a text with a tag. -/
def Style.of (tag : Tag) (s : List Char) : Style :=
  if tag = .binary then (if s.isEmpty then .doubleQuoted else .block)
  else if Tag.ofPlain s = tag && (s.isEmpty || canBePlain s) then .plain
  else if canBeQuoted s then .singleQuoted
  else .doubleQuoted

/-! ## Writing in a style -/

/-- The kinds of characters that are written together in single quotes. -/
inductive Run where
  | spaces
  | breaks
  | quotes
  | letters
  deriving DecidableEq

/-- The kind of a character. -/
def Run.of (c : Char) : Run :=
  if c = ' ' then spaces else if c = '\n' then breaks else if c = '\'' then quotes else letters

/-- The longest parts of a text with characters of one kind. -/
def runs (s : List Char) : List (List Char) := s.splitBy fun a b => Run.of a == Run.of b

/-- Writes a single space, as a line end if the line is too long and may be folded. -/
def putSpace (p : Pen) (column : Nat) (folds : Bool) : Pen :=
  if folds && lineWidth < p.column then p.indent column else p.put [' ']

/-- Writes the runs of a plain scalar. -/
def putPlainRuns (column : Nat) (folds : Bool) : List (List Char) → Pen → Pen
  | [], p => p
  | r :: rest, p =>
    let p := if r = [' '] then (putSpace p column folds).inUse else p.put r
    putPlainRuns column folds rest p

/-- Writes a plain scalar. -/
def putPlain (column : Nat) (folds : Bool) (s : List Char) (p : Pen) : Pen :=
  putPlainRuns column folds (runs s) (p.put (if p.spaced then [] else [' '])).inUse

/-- Writes the runs of a text in single quotes; `inside` tells whether something came before. Line
ends are written twice, and a quote too. -/
def putQuotedRuns (column : Nat) (folds : Bool) (inside : Bool) : List (List Char) → Pen → Pen
  | [], p => p
  | r :: rest, p =>
    let p :=
      match Run.of (r.headD 'x') with
      | .spaces =>
        if r.length = 1 then putSpace p column (folds && inside && !rest.isEmpty) else p.put r
      | .breaks => ((r.foldl (fun p _ => p.lineEnd) p).lineEnd).indent column
      | .quotes => p.put (r.flatMap fun c => [c, c])
      | .letters => p.put r
    putQuotedRuns column folds true rest p

/-- Writes a text in single quotes. -/
def putQuoted (column : Nat) (folds : Bool) (s : List Char) (p : Pen) : Pen :=
  (putQuotedRuns column folds false (runs s) (p.mark ['\''] true false)).mark ['\''] false false

/-- The letter of the escape for a character. -/
def letter? (c : Char) : Option Char :=
  match c with
  | '\x00' => some '0'
  | '\x07' => some 'a'
  | '\x08' => some 'b'
  | '\t' => some 't'
  | '\n' => some 'n'
  | '\x0b' => some 'v'
  | '\x0c' => some 'f'
  | '\r' => some 'r'
  | '\x1b' => some 'e'
  | '"' => some '"'
  | '\\' => some '\\'
  | '\x85' => some 'N'
  | '\xa0' => some '_'
  | '\u2028' => some 'L'
  | '\u2029' => some 'P'
  | _ => none

/-- The escape for a character that does not stand for itself in double quotes. -/
def escape? (c : Char) : Option (List Char) :=
  match letter? c with
  | some l => some ['\\', l]
  | none =>
    let code := codeOf c
    if isGraphic c then none
    else if code < 0x100 then some ('\\' :: 'x' :: hexPadded true 2 code)
    else if code < 0x10000 then some ('\\' :: 'u' :: hexPadded true 4 code)
    else some ('\\' :: 'U' :: hexPadded true 8 code)

/-- Goes to the next line inside double quotes: a backslash hides the line end, and another one
keeps a space at the start of the line. -/
def foldEscaped (column : Nat) (pending : List Char) (next : Option Char) (p : Pen) : Pen :=
  let p := ((p.put (pending ++ ['\\'])).indent column).inUse
  if next = some ' ' then p.put ['\\'] else p

/-- Writes characters in double quotes. The characters in `pending` are not written yet; a line can
be folded before a space, and where nothing is pending, but not at the first character (`inside`
tells) and not at the last. -/
def putEscaped (column : Nat) (folds : Bool) (inside : Bool) (pending : List Char) :
    List Char → Pen → Pen
  | [], p => p.put pending
  | c :: rest, p =>
    let mayFold := folds && inside && !rest.isEmpty
    match escape? c with
    | some e =>
      let p := p.put (pending ++ e)
      let p := if mayFold && lineWidth + 1 < p.column then foldEscaped column [] rest.head? p else p
      putEscaped column folds true [] rest p
    | none =>
      if mayFold && (c = ' ' || pending.isEmpty) && lineWidth < p.column + pending.length then
        putEscaped column folds true [c] rest (foldEscaped column pending (some c) p)
      else putEscaped column folds true (pending ++ [c]) rest p

/-- Writes a text in double quotes. -/
def putDoubleQuoted (column : Nat) (folds : Bool) (s : List Char) (p : Pen) : Pen :=
  (putEscaped column folds false [] s (p.mark ['"'] true false)).mark ['"'] false false

/-- Writes lines as a block. -/
def putBlock (column : Nat) (lines : List (List Char)) (p : Pen) : Pen :=
  lines.foldl (fun p line => ((p.indent column).put line).lineEnd) (p.mark ['|'] true false).lineEnd

end HostFacts.Yaml
