/-!
# Patterns of text

A `Pattern` describes texts by single characters, sequence, choice and repetition. `Pattern.accepts`
decides whether a whole text fits: it goes through the text once and keeps, as a pattern again, what
may still follow (`after`). The operations `alt` and `seq` leave out parts that can fit nothing.
-/

namespace HostFacts.Text

/-- A description of texts. -/
inductive Pattern where
  /-- No text fits. -/
  | none
  /-- The empty text fits. -/
  | empty
  /-- One character of a class. -/
  | one (p : Char → Bool)
  | followedBy (a b : Pattern)
  | either (a b : Pattern)
  /-- Any number of times. -/
  | many (a : Pattern)

namespace Pattern

/-- One pattern after the other. -/
def seq : Pattern → Pattern → Pattern
  | none, _ => none
  | _, none => none
  | empty, b => b
  | a, empty => a
  | a, b => followedBy a b

/-- One of two patterns. -/
def alt : Pattern → Pattern → Pattern
  | none, b => b
  | a, none => a
  | a, b => either a b

/-- Whether the empty text fits. -/
def acceptsEmpty : Pattern → Bool
  | none => false
  | empty => true
  | one _ => false
  | followedBy a b => acceptsEmpty a && acceptsEmpty b
  | either a b => acceptsEmpty a || acceptsEmpty b
  | many _ => true

/-- The pattern of what may follow the character `c`. -/
def after (c : Char) : Pattern → Pattern
  | none => none
  | empty => none
  | one p => if p c then empty else none
  | followedBy a b =>
    let first := seq (after c a) b
    if acceptsEmpty a then alt first (after c b) else first
  | either a b => alt (after c a) (after c b)
  | many a => seq (after c a) (many a)

/-- Whether a whole text fits. -/
def accepts : Pattern → List Char → Bool
  | p, [] => p.acceptsEmpty
  | p, c :: rest => accepts (p.after c) rest

/-! ## Ways to write patterns -/

/-- The patterns one after the other. -/
def all (ps : List Pattern) : Pattern := ps.foldr seq empty

/-- One of the patterns. -/
def any (ps : List Pattern) : Pattern := ps.foldr alt none

/-- The given character. -/
def char (c : Char) : Pattern := one (· == c)

/-- One of the characters of a string. -/
def oneOf (s : String) : Pattern := one (s.toList.contains ·)

/-- The given text. -/
def text (s : String) : Pattern := all (s.toList.map char)

/-- One of the given texts. -/
def texts (words : List String) : Pattern := any (words.map text)

/-- Once or not at all. -/
def optional (p : Pattern) : Pattern := alt p empty

/-- At least once. -/
def some (p : Pattern) : Pattern := seq p (many p)

/-- Exactly `n` times. -/
def times : Nat → Pattern → Pattern
  | 0, _ => empty
  | n + 1, p => seq p (times n p)

/-- A character between two others, both included. -/
def between (low high : Char) : Pattern := one fun c => low ≤ c && c ≤ high

/-- A decimal digit. -/
def digit : Pattern := between '0' '9'

end Pattern

end HostFacts.Text
