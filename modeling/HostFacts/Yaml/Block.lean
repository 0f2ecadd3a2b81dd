import HostFacts.Yaml.Fold

/-!
# Block scalars

A block scalar follows `|` or `>` and runs over the lines that are indented by its own indentation,
which is given in its header or is that of its first line. After `|` the lines are kept, after `>`
they are folded unless they start with white space. The header also says whether the line ends
behind the text are stripped, kept, or clipped to one.
-/

namespace HostFacts.Yaml

open HostFacts.Number

/-- What happens to the line ends behind a block scalar. -/
inductive Chomping where
  | strip
  | clip
  | keep
  deriving DecidableEq, Repr

/-- The header of a block scalar. -/
structure BlockHeader where
  chomping : Chomping
  /-- The indentation relative to the surrounding block, if it is given. -/
  increment : Option Nat

/-- The sign for the treatment of line ends. -/
def chomping? : List Char → Option (Chomping × List Char)
  | '+' :: rest => some (.keep, rest)
  | '-' :: rest => some (.strip, rest)
  | _ => none

/-- The digit for the indentation, which is not zero. -/
def increment? : List Char → Option (Nat × List Char)
  | c :: rest => if isDigit c then some (digitValue c, rest) else none
  | [] => none

/-- Reads the header up to the end of its line. -/
def blockHeader (s : List Char) : Except Flaw (BlockHeader × List Char) := do
  let (first, s) :=
    match chomping? s with
    | some (ch, rest) => (some ch, rest)
    | none => (none, s)
  let (increment, s) :=
    match increment? s with
    | some (n, rest) => (some n, rest)
    | none => (none, s)
  let (second, s) :=
    match first, increment, chomping? s with
    | none, some _, some (ch, rest) => (some ch, rest)
    | _, _, _ => (none, s)
  if increment = some 0 || !atSpace s then throw .illFormed
  let s := s.dropWhile (· == ' ')
  let s := if atAny ['#'] s then s.dropWhile (!isBreak ·) else s
  if !atLineEnd s then throw .illFormed
  return (⟨(first <|> second).getD .clip, increment⟩, s.drop 1)

/-- The empty lines before the first line with text, with `column` spaces passed and the widest line
so far `widest` spaces wide: their ends, the spaces before the text, and the widest line. -/
def leadingLines : (column widest : Nat) → List Char → Lines × Nat
  | column, widest, [] => (⟨[], column, [], false⟩, widest)
  | column, widest, c :: rest =>
    if c = ' ' then leadingLines (column + 1) (max widest (column + 1)) rest
    else if isBreak c then
      let (more, widest) := leadingLines 0 widest rest
      ({ more with breaks := keptBreak c :: more.breaks }, widest)
    else (⟨[], column, c :: rest, false⟩, widest)

/-- The empty lines before the next line with text; of each line at most `indent` spaces are
passed. -/
def emptyLines (indent : Nat) : Nat → List Char → Lines
  | column, [] => ⟨[], column, [], false⟩
  | column, c :: rest =>
    if c = ' ' && column < indent then emptyLines indent (column + 1) rest
    else if isBreak c then
      let more := emptyLines indent 0 rest
      { more with breaks := keptBreak c :: more.breaks }
    else ⟨[], column, c :: rest, false⟩

theorem emptyLines_le (indent column : Nat) (s : List Char) :
    (emptyLines indent column s).rest.length ≤ s.length := by
  induction s generalizing column with
  | nil => simp [emptyLines]
  | cons c rest ih =>
    unfold emptyLines
    split
    · exact Nat.le_succ_of_le (ih _)
    · split
      · exact Nat.le_succ_of_le (ih _)
      · simp

/-- A line of a block scalar. -/
structure BlockLine where
  /-- The ends of the empty lines before it. -/
  before : List Char
  text : List Char
  /-- Its end, unless the text ends with it. -/
  ending : List Char

/-- The lines of a block scalar from a place on, and the white space behind it. -/
def blockLines (indent : Nat) (start : Lines) : List BlockLine × Lines :=
  match _h : start.rest with
  | [] => ([], start)
  | c :: rest =>
    if start.column = indent then
      let text := c :: rest.takeWhile (!isBreak ·)
      match _he : rest.dropWhile (!isBreak ·) with
      | [] => ([⟨start.breaks, text, []⟩], ⟨[], 0, [], false⟩)
      | b :: after =>
        let (more, tail) := blockLines indent (emptyLines indent 0 after)
        (⟨start.breaks, text, [keptBreak b]⟩ :: more, tail)
    else ([], start)
termination_by start.rest.length
decreasing_by
  have h1 := emptyLines_le indent 0 after
  have h2 := dropWhile_le (!isBreak ·) rest
  rw [_he, List.length_cons] at h2
  rw [_h, List.length_cons]
  omega

/-- Whether a line starts with white space. -/
def BlockLine.isIndented (l : BlockLine) : Bool := atAny [' ', '\t'] l.text

/-- What the end of a line counts as before the next line. -/
def BlockLine.joint (fold : Bool) (l next : BlockLine) : List Char :=
  if fold && l.ending == ['\n'] && !l.isIndented && !next.isIndented then
    (if next.before.isEmpty then [' '] else [])
  else l.ending

/-- The text of lines. -/
def joinLines (fold : Bool) : List BlockLine → List Char
  | [] => []
  | [l] => l.before ++ l.text
  | l :: next :: rest => l.before ++ l.text ++ l.joint fold next ++ joinLines fold (next :: rest)

/-- The line ends behind the text. -/
def chompedEnd (chomping : Chomping) (last : List Char) (tail : List Char) : List Char :=
  match chomping with
  | .strip => []
  | .clip => last
  | .keep => last ++ tail

/-- Reads a block scalar from behind its first character; the surrounding block is indented by
`outer` less one. -/
def blockScalar (fold : Bool) (outer : Nat) (s : List Char) :
    Except Flaw (List Char × List Char) := do
  let (header, s) ← blockHeader s
  let least := max 1 outer
  let (indent, start) :=
    match header.increment with
    | some n => (least + n - 1, emptyLines (least + n - 1) 0 s)
    | none =>
      let (start, widest) := leadingLines 0 0 s
      (max least widest, start)
  let (content, tail) := blockLines indent start
  let last := (content.getLast?.map BlockLine.ending).getD []
  return (joinLines fold content ++ chompedEnd header.chomping last tail.breaks, tail.rest)

end HostFacts.Yaml
