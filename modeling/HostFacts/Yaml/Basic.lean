import HostFacts.Fault

/-!
# Places in a YAML text

A YAML text is read character by character; where a line ends and where a document is marked off is
said here for all readers. A `Place` counts characters, lines and columns; a byte order mark has no
width. The text has the line feed as its only ASCII line end.

Reading ends with a `Flaw` when the text is not well-formed, or with a `Fault` of its own when a
well-formed part stands for no value. Such a fault is none that the command reports.
-/

namespace HostFacts.Yaml

/-- Why a text is not read. -/
inductive Flaw where
  | illFormed
  /-- A part of the text stands for no value. -/
  | fault (f : Fault.Fatal)

/-- Whether a character ends a line. -/
def isBreak (c : Char) : Bool := c == '\n' || c == '\x85' || c == '\u2028' || c == '\u2029'

/-- A line end as it is kept in a value: the next-line character becomes a line feed. -/
def keptBreak (c : Char) : Char := if c = '\x85' then '\n' else c

/-- Whether a character is a space or a tab. -/
def isWhite (c : Char) : Bool := c == ' ' || c == '\t'

/-- Whether a line ends here. -/
def atLineEnd : List Char → Bool
  | [] => true
  | c :: _ => isBreak c

/-- Whether a line ends or a space stands here. -/
def atSpace : List Char → Bool
  | [] => true
  | c :: _ => c == ' ' || isBreak c

/-- Whether a line ends or white space stands here. -/
def atBlank : List Char → Bool
  | [] => true
  | c :: _ => isWhite c || isBreak c

/-- Whether the next character is one of the given. -/
def atAny (chars : List Char) : List Char → Bool
  | [] => false
  | c :: _ => chars.contains c

/-- Whether three of the given character stand here, and nothing directly behind them. -/
def atTriple (c : Char) : List Char → Bool
  | a :: b :: d :: rest => a == c && b == c && d == c && atBlank rest
  | _ => false

/-- Whether a document starts or ends here, if this is the start of a line. -/
def atMarker (s : List Char) : Bool := atTriple '-' s || atTriple '.' s

/-- A place in a text. -/
structure Place where
  index : Nat
  line : Nat
  column : Nat
  deriving DecidableEq, Repr

/-- The place before any text. -/
def Place.start : Place := ⟨0, 0, 0⟩

/-- The place behind a character. -/
def Place.next (p : Place) (c : Char) : Place :=
  if isBreak c then ⟨p.index + 1, p.line + 1, 0⟩
  else if c = '\uFEFF' then ⟨p.index + 1, p.line, p.column⟩
  else ⟨p.index + 1, p.line, p.column + 1⟩

/-- Whether a character may occur in a text. -/
def isAllowed (c : Char) : Bool :=
  c == '\t' || c == '\n' || c == '\r' || (' ' ≤ c && c ≤ '~') || c == '\x85' ||
    ('\xa0' ≤ c && c ≤ '\uFFFD') || 0x10000 ≤ c.toNat

end HostFacts.Yaml
